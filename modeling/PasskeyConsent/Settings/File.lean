import PasskeyConsent.Settings.Path
import PasskeyConsent.Json.Printer
import PasskeyConsent.Toml.Reader
/-!
# Settings on disk

Settings are kept as JSON and may be overlaid by a TOML file.  A JSON file that cannot be read or does not hold settings
counts as one that holds the defaults, so that a broken file never keeps the wallet from starting; a TOML file that is
there has to be right.
-/
namespace PasskeyConsent

/-- What stands at a path. -/
inductive FileState where
  | absent
  | directory
  | content (bytes : Bytes)
deriving DecidableEq, Repr

namespace FileState

def ofText (s : String) : FileState := .content (Bytes.ofText s)

/-- Whether a file can be written there. -/
def isWritable : FileState → Bool
  | .directory => false
  | _ => true

/-- The text of a file, if it is one. -/
def text? : FileState → Option String
  | .content bytes => String.fromUTF8? ⟨bytes.toArray⟩
  | _ => none

end FileState

namespace Settings

/-! ## JSON -/

/-- The text of a settings file. -/
def toJsonText (s : Settings) : String :=
  (Json.obj (s.sections.map fun (name, entries) => (name, .obj entries))).pretty

def ofJsonFile (file : FileState) : Settings :=
  (file.text?.bind fun text => (codec.ofText text).toOption).getD {}

/-! ## TOML -/

/-- The greatest integer that a TOML file can hold. -/
def greatestInteger : Int := 9223372036854775807

/-- The line of an entry; nothing is written for null. -/
def tomlEntry (name : String) : Json → Except SettingsError (List Char)
  | .null => .ok []
  | .str s => .ok (name.toList ++ [' ', '=', ' '] ++ Toml.writeText s ++ ['\n'])
  | .int n =>
    if n ≤ greatestInteger then .ok (name.toList ++ [' ', '=', ' '] ++ Json.intText n ++ ['\n'])
    else .error (.encode "an integer is too large for TOML")
  | _ => .error (.encode "not a text or an integer")

def tomlSection (name : String) (entries : List (String × Json)) : Except SettingsError (List Char) := do
  let lines ← entries.mapM fun (key, j) => tomlEntry key j
  return '[' :: name.toList ++ [']', '\n'] ++ lines.flatten

def tomlHeader : String :=
  "# passkey-confirm configuration file.\n#\n# Priority: env var > this file > settings.json > defaults.\n"

/-- The text of a configuration file, a blank line in front of every section. -/
def toTomlText (s : Settings) : Except SettingsError String := do
  let sections ← s.sections.mapM fun (name, entries) => tomlSection name entries
  return tomlHeader ++ String.ofList (sections.flatMap ('\n' :: ·))

/-- The settings of a TOML file at a path, or nothing when there is no file. -/
def ofTomlFile (path : String) (file : FileState) : Except SettingsError (Option Settings) :=
  match file, file.text? with
  | .absent, _ => .ok none
  | _, none => .error (.io path "not a readable text")
  | _, some text =>
    match (Toml.read text).map fun t => codec.decode t.toDocument with
    | some (.ok s) => .ok (some s)
    | some (.error f) => .error (.malformed path f.message)
    | none => .error (.malformed path "not a TOML document")

/-! ## Saving -/

/-- Writes a text over what stands at a path. -/
def save (path text : String) (file : FileState) : Except SettingsError FileState :=
  if file.isWritable then .ok (.ofText text) else .error (.io path "is a directory")

def saveJson (s : Settings) (path : String) (file : FileState) : Except SettingsError FileState :=
  save path s.toJsonText file

def saveToml (s : Settings) (path : String) (file : FileState) : Except SettingsError FileState := do
  save path (← s.toTomlText) file

end Settings
end PasskeyConsent

import PasskeyConsent.Settings.Basic
import PasskeyConsent.Chain.Endpoint
import PasskeyConsent.Text.Numeral
/-!
# Settings by path

Settings as a tree whose leaves are named by dotted paths: `get?`, `list`, `set`, `reset` and `merge`.  A text that is
set is read as what stands at its place, and the tree has to read as settings again, so that nothing out of its domain
gets in.  The address of the chain node has a rule of its own: it is checked as an endpoint, and an empty text or `null`
takes it away.  A merge takes over the leaves in which the other settings differ from the defaults.
-/
namespace PasskeyConsent.Settings

/-- The value of the settings as one document. -/
def tree (s : Settings) : Json := codec.encode s

/-- The pointer that a dotted path stands for; slashes separate too. -/
def pointerOf (path : String) : Json.Pointer :=
  (Text.splitAt '/' (path.toList.map fun c => if c = '.' then '/' else c)).map fun step =>
    String.ofList (Json.unescapeStep step)

/-- A leaf as the user sees it: a text without its quotation marks. -/
def render : Json → String
  | .str s => s
  | j => j.compact

mutual

/-- What is not an object, with the steps that lead to it. -/
def leaves : Json → List (Json.Pointer × Json)
  | .obj members => memberLeaves members
  | j => [([], j)]

def memberLeaves : List (String × Json) → List (Json.Pointer × Json)
  | [] => []
  | (key, j) :: rest => (leaves j).map (fun (p, leaf) => (key :: p, leaf)) ++ memberLeaves rest

end

def get? (s : Settings) (path : String) : Option String := (s.tree.at? (pointerOf path)).map render

/-- Every leaf under its dotted path. -/
def list (s : Settings) : List (String × String) := (leaves s.tree).map fun (p, leaf) => (Text.join "." p, render leaf)

/-- Reads a text as what stands at its place.  In the place of null it may be any document or, if it is none, itself. -/
def coerce (path : String) (current : Json) (text : String) : Except SettingsError Json :=
  let mismatch (expected : Expectation) := Except.error (.typeMismatch path expected text)
  match current with
  | .bool _ => if text = "true" then .ok (.bool true) else if text = "false" then .ok (.bool false) else mismatch .boolean
  | .int _ | .float _ =>
    match Text.readU64 text with
    | .ok n => .ok (.nat n)
    | .error _ => mismatch .integer
  | .str _ => .ok (.str text)
  | .null => .ok ((Json.ofText text).toOption.getD (.str text))
  | .arr _ | .obj _ =>
    match Json.ofText text with
    | .ok j => .ok j
    | .error _ => mismatch .document

/-- The settings that an edited tree holds. -/
def ofTree (path : String) (j : Json) : Except SettingsError Settings :=
  (codec.ofJson j).mapError fun f => .rejected path f.message

def endpointPath : String := "rpc.url"

def meansNone (text : String) : Bool := text.isEmpty || String.ofList (text.toList.map Char.toLower) == "null"

def setEndpoint (s : Settings) (text : String) : Except SettingsError Settings :=
  let url := Text.trim text
  if meansNone url then .ok { s with rpc.url := none }
  else
    match Endpoint.read endpointPath url with
    | .ok _ => .ok { s with rpc.url := some url }
    | .error e => .error (.rejected endpointPath e.message)

def set (s : Settings) (path text : String) : Except SettingsError Settings := do
  if path = endpointPath then s.setEndpoint text
  else
    match s.tree.at? (pointerOf path) with
    | none => .error (.unknownPath path)
    | some current => ofTree path (Json.replaceAt (← coerce path current text) (pointerOf path) s.tree)

def reset (s : Settings) (path : String) : Except SettingsError Settings :=
  match ({} : Settings).tree.at? (pointerOf path) with
  | none => .error (.unknownPath path)
  | some default => ofTree path (Json.replaceAt default (pointerOf path) s.tree)

/-- The leaves that differ from the defaults. -/
def changes (s : Settings) : List (Json.Pointer × Json) :=
  (leaves s.tree).filter fun (p, leaf) => ({} : Settings).tree.at? p ≠ some leaf

def merge (s other : Settings) : Settings :=
  match codec.ofJson (other.changes.foldl (fun t (p, leaf) => Json.replaceAt leaf p t) s.tree) with
  | .ok merged => merged
  | .error _ => s

end PasskeyConsent.Settings

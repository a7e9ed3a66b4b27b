import PasskeyConsent.Collections.Table
import PasskeyConsent.Error
import PasskeyConsent.Text.Blank
import PasskeyConsent.Text.Numeral
import PasskeyConsent.Text.Quoted
/-!
# The environment

The variables a process is started with.  A value is a byte string that need not be a text; a variable whose text is
blank counts as unset, and blanks around a value do not belong to it.
-/
namespace PasskeyConsent

/-- The variables that are set, with their values. -/
abbrev Environment := Table Bytes

namespace Environment

def textOf (bytes : Bytes) : Option String := String.fromUTF8? ⟨bytes.toArray⟩

/-- Whether a process can have these variables: a zero byte would end a value. -/
def isPossible (env : Environment) : Bool := env.entries.all fun (_, bytes) => !bytes.contains 0

/-- The first character of a byte string and how many bytes it takes, if they are well-formed. -/
def firstCharacter? (bytes : Bytes) : Option (Char × Nat) :=
  [1, 2, 3, 4].findSome? fun n =>
    match (textOf (bytes.take n)).map String.toList with
    | some [c] => some (c, n)
    | _ => none

/-- A byte string in quotation marks; what is no text in it is shown byte by byte. -/
def quotedBytes (bytes : Bytes) : String := "\"" ++ String.ofList (go bytes.length bytes) ++ "\""
where
  go : Nat → Bytes → List Char
    | 0, _ => []
    | _, [] => []
    | fuel + 1, b :: rest =>
      match firstCharacter? (b :: rest) with
      | some (c, n) => (if c = '\'' then ['\\', '\''] else Text.quotedChar c) ++ go fuel ((b :: rest).drop n)
      | none => ['\\', 'x'] ++ (Bytes.toHex [b]).toList.map Char.toUpper ++ go fuel rest

/-- The value of a variable, if it is set. -/
def value? (env : Environment) (key : String) : Except ConfigError (Option String) :=
  match env.get? key with
  | none => .ok none
  | some bytes =>
    match textOf bytes with
    | none => .error (.invalidValue key ("environment variable was not valid unicode: " ++ quotedBytes bytes))
    | some s => .ok (if Text.allBlank s then none else some (Text.trim s))

/-- The number that a variable gives, or `default` where it is unset. -/
def number (env : Environment) (read : String → Except Text.NumeralFault Nat) (key : String) (default : Nat) :
    Except ConfigError Nat := do
  match ← env.value? key with
  | none => return default
  | some s =>
    match read s with
    | .ok n => return n
    | .error f => throw (.invalidValue key ("must be a valid number: " ++ f.message))

end Environment
end PasskeyConsent

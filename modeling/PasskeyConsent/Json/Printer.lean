import PasskeyConsent.Json.Basic
import PasskeyConsent.Number.Shortest
import PasskeyConsent.Bytes.Basic
/-!
# Writing JSON

`compact` writes a value without blanks and `pretty` with an indent of two; both keep the order of the members they are
given.  A string escapes the quotation mark, the backslash and the controls below U+0020, five of them by letter, and
writes every other character as it is; `ascii` is for lines that have to go through where only ASCII does.
-/
namespace PasskeyConsent.Json

def escapeChar (c : Char) : List Char :=
  if c = '"' then ['\\', '"']
  else if c = '\\' then ['\\', '\\']
  else if c.toNat = 8 then ['\\', 'b']
  else if c.toNat = 9 then ['\\', 't']
  else if c.toNat = 10 then ['\\', 'n']
  else if c.toNat = 12 then ['\\', 'f']
  else if c.toNat = 13 then ['\\', 'r']
  else if c.toNat < 32 then
    ['\\', 'u', '0', '0', Bytes.hexDigit (c.toNat / 16), Bytes.hexDigit (c.toNat % 16)]
  else [c]

def quoted (s : String) : List Char := '"' :: (s.toList.flatMap escapeChar ++ ['"'])

def intText (n : Int) : List Char :=
  if n < 0 then '-' :: Nat.toDigits 10 n.natAbs else Nat.toDigits 10 n.natAbs

def scalarChars : Json → List Char
  | .null => "null".toList
  | .bool true => "true".toList
  | .bool false => "false".toList
  | .int n => intText n
  | .float x => x.text.toList
  | .str s => quoted s
  | _ => []

/-! ## Compact -/

def compactChars : Json → List Char
  | .arr items => '[' :: (itemsChars items ++ [']'])
  | .obj members => '{' :: (membersChars members ++ ['}'])
  | j => scalarChars j
where
  itemsChars : List Json → List Char
    | [] => []
    | [x] => compactChars x
    | x :: rest => compactChars x ++ ',' :: itemsChars rest
  membersChars : List (String × Json) → List Char
    | [] => []
    | [(k, v)] => quoted k ++ ':' :: compactChars v
    | (k, v) :: rest => quoted k ++ ':' :: (compactChars v ++ ',' :: membersChars rest)

def compact (j : Json) : String := String.ofList j.compactChars

/-! ## ASCII -/

/-- The escape of a UTF-16 unit. -/
def unitEscape (n : Nat) : List Char :=
  ['\\', 'u', Bytes.hexDigit (n / 4096), Bytes.hexDigit (n / 256 % 16), Bytes.hexDigit (n / 16 % 16),
    Bytes.hexDigit (n % 16)]

/-- A character of a text as ASCII, which all characters outside of strings are. -/
def asciiChar (c : Char) : List Char :=
  if c.toNat < 128 then [c]
  else if c.toNat < 0x10000 then unitEscape c.toNat
  else unitEscape (0xD7C0 + c.toNat / 1024) ++ unitEscape (0xDC00 + c.toNat % 1024)

/-- The compact text with an escape for every character that is not ASCII. -/
def ascii (j : Json) : String := String.ofList (j.compactChars.flatMap asciiChar)

/-! ## Indented -/

def newline (depth : Nat) : List Char := '\n' :: List.replicate (2 * depth) ' '

def prettyChars (depth : Nat) : Json → List Char
  | .arr [] => ['[', ']']
  | .arr items => '[' :: (itemsChars (depth + 1) items ++ newline depth ++ [']'])
  | .obj [] => ['{', '}']
  | .obj members => '{' :: (membersChars (depth + 1) members ++ newline depth ++ ['}'])
  | j => scalarChars j
where
  itemsChars (depth : Nat) : List Json → List Char
    | [] => []
    | [x] => newline depth ++ prettyChars depth x
    | x :: rest => newline depth ++ prettyChars depth x ++ ',' :: itemsChars depth rest
  membersChars (depth : Nat) : List (String × Json) → List Char
    | [] => []
    | [(k, v)] => newline depth ++ quoted k ++ ':' :: ' ' :: prettyChars depth v
    | (k, v) :: rest =>
      newline depth ++ quoted k ++ ':' :: ' ' :: (prettyChars depth v ++ ',' :: membersChars depth rest)

def pretty (j : Json) : String := String.ofList (j.prettyChars 0)

end PasskeyConsent.Json

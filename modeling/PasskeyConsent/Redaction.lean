import PasskeyConsent.Text.Blank
import PasskeyConsent.Text.Word
/-!
# Redaction

Error texts may quote what a collaborator answered, so before one leaves the process three kinds of secret are masked
in it, in this order: what follows the word `bearer`, what is assigned to one of six key names, and long key texts
behind `ed25519:`.  Each is one sweep over the text from the left; a sweep goes on behind what it replaced and never
looks at its own output.  Letters compare without case, which brings in the long s and the Kelvin sign.
-/
namespace PasskeyConsent.Redaction

open Text (isBlank isBoundary)

/-- What a sweep found at a place: what stands for it now, its last character, and the text behind it. -/
structure Hit where
  replacement : List Char
  last : Char
  rest : List Char

/-- A rule sees the character before a place and the text from there on. -/
abbrev Rule := Option Char → List Char → Option Hit

/-- Replaces every hit of a rule, from the left.  The first argument bounds the rounds by the length of the text. -/
def sweepFrom (rule : Rule) : Nat → Option Char → List Char → List Char
  | 0, _, cs => cs
  | _ + 1, _, [] => []
  | n + 1, before, c :: rest =>
    match rule before (c :: rest) with
    | some hit => hit.replacement ++ sweepFrom rule n (some hit.last) hit.rest
    | none => c :: sweepFrom rule n (some c) rest

def sweep (rule : Rule) (cs : List Char) : List Char := sweepFrom rule cs.length none cs

def foldCase (c : Char) : Char :=
  if 'A' ≤ c ∧ c ≤ 'Z' then Char.ofNat (c.toNat + 32)
  else if c.toNat = 0x17F then 's'
  else if c.toNat = 0x212A then 'k'
  else c

/-- Takes a word off the text without regard to case: the text that stood there, and the rest. -/
def takeWord : List Char → List Char → Option (List Char × List Char)
  | [], cs => some ([], cs)
  | _ :: _, [] => none
  | w :: ws, c :: cs => if foldCase c = w then (takeWord ws cs).map fun (a, b) => (c :: a, b) else none

def mask : List Char := "[REDACTED]".toList

/-! ## Bearer tokens -/

def isTokenChar (c : Char) : Bool :=
  let f := foldCase c
  ('a' ≤ f && f ≤ 'z') || ('0' ≤ f && f ≤ '9') || f == '.' || f == '_' || f == '-' || f == '~' || f == '+' || f == '/'

/-- A text split where a property first fails. -/
def spanOf (p : Char → Bool) (cs : List Char) : List Char × List Char := (cs.takeWhile p, cs.dropWhile p)

def bearerRule : Rule := fun before cs => do
  let (word, rest) ← takeWord "bearer".toList cs
  if !isBoundary before cs.head? then none
  let (gap, rest) := spanOf isBlank rest
  let (token, rest) := spanOf isTokenChar rest
  if gap.isEmpty then none
  let last ← token.getLast?
  let (padding, rest) := spanOf (· == '=') rest
  return ⟨word ++ ' ' :: mask, (padding.getLast?).getD last, rest⟩

/-! ## Assignments -/

/-- The key names, each with the place at which a `_` or a `-` may stand in it. -/
def keyNames : List (String × String) :=
  [("token", ""), ("api", "key"), ("secret", ""), ("password", ""), ("seed", ""), ("prf", "output")]

def takeKey (cs : List Char) : List (String × String) → Option (List Char × List Char)
  | [] => none
  | (head, tail) :: more =>
    match takeWord head.toList cs with
    | none => takeKey cs more
    | some (a, rest) =>
      if tail.isEmpty then some (a, rest)
      else
        let (joint, rest) := match rest with
          | '_' :: r => (['_'], r)
          | '-' :: r => (['-'], r)
          | r => ([], r)
        match takeWord tail.toList rest with
        | none => takeKey cs more
        | some (b, rest) => some (a ++ joint ++ b, rest)

def isValueChar (c : Char) : Bool := c != ',' && !isBlank c

def assignmentRule : Rule := fun before cs => do
  let (key, rest) ← takeKey cs keyNames
  if !isBoundary before cs.head? then none
  if !isBoundary key.getLast? rest.head? then none
  let (gap, rest) := spanOf isBlank rest
  match rest with
  | c :: rest =>
    if c != ':' && c != '=' then none
    let (gap', rest) := spanOf isBlank rest
    let (value, rest) := spanOf isValueChar rest
    let last ← value.getLast?
    return ⟨key ++ gap ++ c :: gap' ++ mask, last, rest⟩
  | [] => none

/-! ## Key texts -/

/-- The characters of a key text: digits and letters without the zero, the capital I and the letter O. -/
def isKeyChar (c : Char) : Bool :=
  let f := foldCase c
  ('1' ≤ f && f ≤ '9') || ('a' ≤ f && f ≤ 'h') || ('j' ≤ f && f ≤ 'n') || ('p' ≤ f && f ≤ 'z')

def keyTextRule : Rule := fun before cs => do
  let (_, rest) ← takeWord "ed25519:".toList cs
  if !isBoundary before cs.head? then none
  let (key, rest) := spanOf isKeyChar rest
  if key.length < 40 then none
  let last ← key.getLast?
  if !isBoundary (some last) rest.head? then none
  return ⟨"ed25519:".toList ++ mask, last, rest⟩

end PasskeyConsent.Redaction

namespace PasskeyConsent

open Redaction

/-- The text with every secret it seems to hold masked. -/
def redact (s : String) : String :=
  String.ofList (sweep keyTextRule (sweep assignmentRule (sweep bearerRule s.toList)))

end PasskeyConsent

/-!
# Unsigned numerals

A numeral is an optional `+` and one or more decimal digits, read against a greatest value.  Leading zeros are
accepted; blanks, signs other than `+` and separators are not.  The digits are read from the left and the first thing
wrong is the fault, so a numeral that outgrows the limit before a foreign character is too large, not malformed.
-/
namespace PasskeyConsent.Text

/-- The greatest value of a 64-bit unsigned number. -/
def maxU64 : Nat := Nat.pow 2 64 - 1

/-- The greatest value of a 32-bit unsigned number. -/
def maxU32 : Nat := Nat.pow 2 32 - 1

inductive NumeralFault where
  | empty
  | invalidDigit
  | tooLarge
deriving DecidableEq, Repr

def NumeralFault.message : NumeralFault → String
  | .empty => "cannot parse integer from empty string"
  | .invalidDigit => "invalid digit found in string"
  | .tooLarge => "number too large to fit in target type"

def digitValue? (c : Char) : Option Nat :=
  if '0' ≤ c ∧ c ≤ '9' then some (c.toNat - 48) else none

def readDigits (limit : Nat) : Nat → List Char → Except NumeralFault Nat
  | value, [] => .ok value
  | value, c :: rest =>
    match digitValue? c with
    | none => .error .invalidDigit
    | some d => if value * 10 + d ≤ limit then readDigits limit (value * 10 + d) rest else .error .tooLarge

def readNumeral (limit : Nat) (s : String) : Except NumeralFault Nat :=
  match s.toList with
  | [] => .error .empty
  | ['+'] => .error .invalidDigit
  | '+' :: rest => readDigits limit 0 rest
  | cs => readDigits limit 0 cs

def readU64 (s : String) : Except NumeralFault Nat := readNumeral maxU64 s

def readU32 (s : String) : Except NumeralFault Nat := readNumeral maxU32 s

end PasskeyConsent.Text

import PasskeyConsent.Bytes.Basic
/-!
# Percent encoding

In an address a character stands for itself or is given by its UTF-8 bytes, each as a percent sign and two upper-case
digits.  Which characters have to be given by their bytes depends on the part of the address; a percent sign never has
to be, so that encoding an encoded part changes nothing.  Decoding leaves a percent sign without two digits alone.
-/
namespace PasskeyConsent.Percent

def hexDigit (n : Nat) : Char := Char.ofNat (if n < 10 then 48 + n else 55 + n)

def ofByte (b : UInt8) : List Char := ['%', hexDigit (b.toNat / 16), hexDigit (b.toNat % 16)]

/-- Encodes the characters that `escapes` holds of. -/
def encode (escapes : Char → Bool) (cs : List Char) : List Char :=
  cs.flatMap fun c => if escapes c then (Bytes.ofText (String.singleton c)).flatMap ofByte else [c]

/-- The controls of ASCII and everything beyond it. -/
def isForeign (c : Char) : Bool := c.toNat < 0x20 || 0x7F ≤ c.toNat

def inFragment (c : Char) : Bool := isForeign c || [' ', '"', '<', '>', '\x60'].contains c

def inPath (c : Char) : Bool := inFragment c || ['#', '?', '\x7b', '\x7d'].contains c

def inCredentials (c : Char) : Bool := inPath c || ['/', ':', ';', '=', '@', '[', '\\', ']', '^', '|'].contains c

/-- A web address quotes with an apostrophe too. -/
def inQuery (web : Bool) (c : Char) : Bool :=
  isForeign c || [' ', '"', '#', '<', '>'].contains c || (web && c == '\'')

def decode : Bytes → Bytes
  | [] => []
  | [b] => [b]
  | [b, c] => [b, c]
  | p :: h :: l :: rest =>
    match Bytes.hexValue? (Char.ofNat h.toNat), Bytes.hexValue? (Char.ofNat l.toNat) with
    | some x, some y =>
      if p = 37 then UInt8.ofNat (16 * x + y) :: decode rest else p :: decode (h :: l :: rest)
    | _, _ => p :: decode (h :: l :: rest)

end PasskeyConsent.Percent

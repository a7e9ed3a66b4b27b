import PasskeyConsent.Text.Numeral
/-!
# Punycode

A label as a sequence of lower-case letters, digits and hyphens: its ASCII characters, and behind the last hyphen the
others in ascending order, each as the distance from the one before in a mixed-radix numeral whose thresholds adapt to
the distances seen so far.
-/
namespace PasskeyConsent.Punycode

def digit (d : Nat) : Char := Char.ofNat (if d < 26 then 97 + d else 22 + d)

def digitValue? (c : Char) : Option Nat :=
  if 'a' ≤ c ∧ c ≤ 'z' then some (c.toNat - 97)
  else if 'A' ≤ c ∧ c ≤ 'Z' then some (c.toNat - 65)
  else if '0' ≤ c ∧ c ≤ '9' then some (c.toNat - 22)
  else none

/-- The least digit that does not end a numeral, at position `k`. -/
def threshold (k bias : Nat) : Nat := if k ≤ bias then 1 else if bias + 26 ≤ k then 26 else k - bias

theorem threshold_bounds (k bias : Nat) : 1 ≤ threshold k bias ∧ threshold k bias ≤ 26 := by
  unfold threshold
  split <;> try split
  all_goals omega

def scaled (delta k : Nat) : Nat := if 455 < delta then scaled (delta / 35) (k + 36) else k + 36 * delta / (delta + 38)
termination_by delta

/-- The bias behind a distance, `count` characters being placed. -/
def adapt (delta count : Nat) (first : Bool) : Nat :=
  let d := if first then delta / 700 else delta / 2
  scaled (d + d / count) 0

def numeral (bias k q : Nat) : List Char :=
  if q < threshold k bias then [digit q]
  else
    digit (threshold k bias + (q - threshold k bias) % (36 - threshold k bias)) ::
      numeral bias (k + 36) ((q - threshold k bias) / (36 - threshold k bias))
termination_by q
decreasing_by
  have ⟨h, _⟩ := threshold_bounds k bias
  exact Nat.lt_of_le_of_lt (Nat.div_le_self _ _) (by omega)

structure Encoder where
  out : List Char
  delta : Nat
  bias : Nat
  placed : Nat

/-- Passes over one character of the label while those equal to `code` are placed. -/
def Encoder.pass (basics code : Nat) (s : Encoder) (c : Char) : Encoder :=
  if c.toNat < code then { s with delta := s.delta + 1 }
  else if c.toNat = code then
    ⟨s.out ++ numeral s.bias 36 s.delta, 0, adapt s.delta (s.placed + 1) (s.placed = basics), s.placed + 1⟩
  else s

def isBasic (c : Char) : Bool := c.toNat < 0x80

def insertCode (n : Nat) : List Nat → List Nat
  | [] => [n]
  | m :: rest => if n < m then n :: m :: rest else if n = m then m :: rest else m :: insertCode n rest

def encode (label : List Char) : List Char :=
  let basic := label.filter isBasic
  let codes := (label.filter (!isBasic ·)).foldl (fun codes c => insertCode c.toNat codes) []
  let start : Encoder := ⟨[], 0, 72, basic.length⟩
  let (s, _) := codes.foldl (fun (s, n) code =>
    let s := label.foldl (Encoder.pass basic.length code) { s with delta := s.delta + (code - n) * (s.placed + 1) }
    ({ s with delta := s.delta + 1 }, code + 1)) (start, 0x80)
  basic ++ (if basic.isEmpty then [] else ['-']) ++ s.out

/-- Reads a numeral: its value on top of `i`, and what follows.  Values and weights have to fit 32 bits. -/
def readNumeral (bias : Nat) : Nat → Nat → Nat → List Char → Option (Nat × List Char)
  | _, _, _, [] => none
  | k, weight, i, c :: rest => do
    let d ← digitValue? c
    if Text.maxU32 < weight ∨ Text.maxU32 < i + d * weight then none
    else if d < threshold k bias then some (i + d * weight, rest)
    else readNumeral bias (k + 36) (weight * (36 - threshold k bias)) (i + d * weight) rest

/-- Places the characters that the numerals give; `fuel` bounds their number. -/
def place : Nat → Nat → Nat → Nat → List Char → List Char → Option (List Char)
  | _, _, _, _, out, [] => some out
  | 0, _, _, _, _, _ => none
  | fuel + 1, bias, code, i, out, cs => do
    let (j, rest) ← readNumeral bias 36 1 i cs
    let count := out.length + 1
    let code := code + j / count
    if h : code.isValidChar then
      place fuel (adapt (j - i) count (i = 0)) code (j % count + 1) (out.insertIdx (j % count) (Char.ofNatAux code h)) rest
    else none

/-- The label that a text stands for.  A hyphen in front of everything divides nothing and is no digit either. -/
def decode (cs : List Char) : Option (List Char) :=
  let tail := cs.reverse.takeWhile (· ≠ '-')
  let basic := (cs.reverse.drop (tail.length + 1)).reverse
  if cs.all isBasic ∧ (cs.head? = some '-' → basic ≠ []) then place cs.length 72 0x80 0 basic tail.reverse else none

end PasskeyConsent.Punycode

import PasskeyConsent.Bytes.Basic
/-!
# Base64url

The URL-safe alphabet of base64 without padding.  `decode?` accepts exactly the texts `encode` writes: a length one
more than a multiple of four, a foreign character, padding, or a last digit whose unused bits are not zero is refused.
-/
namespace PasskeyConsent.Base64url

def digit (n : Nat) : Char :=
  Char.ofNat (if n < 26 then 65 + n else if n < 52 then 71 + n else if n < 62 then n - 4 else if n = 62 then 45 else 95)

def value? (c : Char) : Option Nat :=
  if 'A' ≤ c ∧ c ≤ 'Z' then some (c.toNat - 65)
  else if 'a' ≤ c ∧ c ≤ 'z' then some (c.toNat - 71)
  else if '0' ≤ c ∧ c ≤ '9' then some (c.toNat + 4)
  else if c = '-' then some 62
  else if c = '_' then some 63
  else none

def encodeDigits : Bytes → List Char
  | [] => []
  | [a] => [digit (a.toNat / 4), digit (a.toNat % 4 * 16)]
  | [a, b] => [digit (a.toNat / 4), digit (a.toNat % 4 * 16 + b.toNat / 16), digit (b.toNat % 16 * 4)]
  | a :: b :: c :: rest =>
    digit (a.toNat / 4) :: digit (a.toNat % 4 * 16 + b.toNat / 16) ::
      digit (b.toNat % 16 * 4 + c.toNat / 64) :: digit (c.toNat % 64) :: encodeDigits rest

def encode (bs : Bytes) : String := String.ofList (encodeDigits bs)

def decodeDigits : List Char → Option Bytes
  | [] => some []
  | [_] => none
  | [p, q] =>
    match value? p, value? q with
    | some x, some y => if y % 16 = 0 then some [UInt8.ofNat (x * 4 + y / 16)] else none
    | _, _ => none
  | [p, q, r] =>
    match value? p, value? q, value? r with
    | some x, some y, some z =>
      if z % 4 = 0 then some [UInt8.ofNat (x * 4 + y / 16), UInt8.ofNat (y % 16 * 16 + z / 4)] else none
    | _, _, _ => none
  | p :: q :: r :: s :: rest =>
    match value? p, value? q, value? r, value? s with
    | some x, some y, some z, some w =>
      (decodeDigits rest).map fun tail =>
        UInt8.ofNat (x * 4 + y / 16) :: UInt8.ofNat (y % 16 * 16 + z / 4) :: UInt8.ofNat (z % 4 * 64 + w) :: tail
    | _, _, _, _ => none

def decode? (s : String) : Option Bytes := decodeDigits s.toList

/-! ## What is written is read -/

theorem value?_digit {n : Nat} (h : n < 64) : value? (digit n) = some n := by
  have hall : ∀ n < 64, value? (digit n) = some n := by decide
  exact hall n h

theorem ofNat_of_eq_toNat {n : Nat} {a : UInt8} (h : n = a.toNat) : UInt8.ofNat n = a := by
  rw [h, UInt8.ofNat_toNat]

theorem decodeDigits_encodeDigits (bs : Bytes) : decodeDigits (encodeDigits bs) = some bs := by
  induction bs using encodeDigits.induct with
  | case1 => rfl
  | case2 a =>
    have ha := a.toNat_lt
    rw [encodeDigits, decodeDigits, value?_digit (by omega), value?_digit (by omega)]
    dsimp only
    rw [if_pos (by omega), ofNat_of_eq_toNat (a := a) (by omega)]
  | case3 a b =>
    have ha := a.toNat_lt
    have hb := b.toNat_lt
    rw [encodeDigits, decodeDigits, value?_digit (by omega), value?_digit (by omega), value?_digit (by omega)]
    dsimp only
    rw [if_pos (by omega), ofNat_of_eq_toNat (a := a) (by omega), ofNat_of_eq_toNat (a := b) (by omega)]
  | case4 a b c rest ih =>
    have ha := a.toNat_lt
    have hb := b.toNat_lt
    have hc := c.toNat_lt
    rw [encodeDigits, decodeDigits, value?_digit (by omega), value?_digit (by omega), value?_digit (by omega),
      value?_digit (by omega), ih]
    dsimp only [Option.map_some]
    rw [ofNat_of_eq_toNat (a := a) (by omega), ofNat_of_eq_toNat (a := b) (by omega),
      ofNat_of_eq_toNat (a := c) (by omega)]

/-- **What is written is read**, for byte strings of every length. -/
theorem decode?_encode (bs : Bytes) : decode? (encode bs) = some bs := by
  unfold decode? encode
  rw [String.toList_ofList, decodeDigits_encodeDigits]

end PasskeyConsent.Base64url

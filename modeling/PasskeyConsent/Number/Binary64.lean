/-!
# Finite doubles

A finite IEEE 754 double as an exact value: a sign, a mantissa below 2⁵³ and a power of two counted from the least
positive double, so the number is `±mantissa · 2^scale / 2^1074`.  Arithmetic is exact in `Nat` and rounded once, half
to even; a result beyond the greatest double is refused.  `ofDecimal?` turns the parts of a decimal literal into a
double by one multiplication or division by a power of ten, which is not always the nearest double; the last digit
that a long literal prints with depends on it.
-/
namespace PasskeyConsent

structure Binary64 where
  negative : Bool
  mantissa : Nat
  scale : Nat
deriving DecidableEq, Repr, Inhabited

namespace Binary64

def zero : Binary64 := ⟨false, 0, 0⟩

def isZero (x : Binary64) : Bool := x.mantissa == 0

def neg (x : Binary64) : Binary64 := { x with negative := !x.negative }

/-- The nearest double to `num / den`, an exact tie going to the even mantissa. -/
def ofRatio? (num den : Nat) : Option Binary64 :=
  let whole := num * Nat.pow 2 1074
  let scale := (Nat.log2 (whole / den) + 1) - 53
  let unit := den * Nat.pow 2 scale
  let m := whole / unit
  let r := whole % unit
  let up := 2 * r > unit || (2 * r == unit && m % 2 == 1)
  let m := if up then m + 1 else m
  let (m, scale) := if m == Nat.pow 2 53 then (Nat.pow 2 52, scale + 1) else (m, scale)
  if scale ≤ 2045 then some ⟨false, m, scale⟩ else none

def ofNat? (n : Nat) : Option Binary64 := ofRatio? n 1

/-- The double nearest to `10 ^ k`, for the exponents that have one. -/
def powerOfTen? (k : Nat) : Option Binary64 := ofNat? (Nat.pow 10 k)

/-- The product of two magnitudes. -/
def mul? (x y : Binary64) : Option Binary64 :=
  ofRatio? (x.mantissa * y.mantissa * Nat.pow 2 (x.scale + y.scale)) (Nat.pow 2 2148)

/-- The quotient of two magnitudes. -/
def div? (x y : Binary64) : Option Binary64 :=
  ofRatio? (x.mantissa * Nat.pow 2 x.scale) (y.mantissa * Nat.pow 2 y.scale)

/-- Scales a magnitude down by as many powers of 10³⁰⁸ as the exponent asks, then by the rest. -/
def scaleDown : Nat → Binary64 → Nat → Option Binary64
  | 0, _, _ => some zero
  | fuel + 1, x, e =>
    if x.isZero then some x
    else if e ≤ 308 then (powerOfTen? e).bind (div? x)
    else ((powerOfTen? 308).bind (div? x)).bind fun y => scaleDown fuel y (e - 308)

/-- `significand · 10^exponent`, or nothing beyond the greatest double.  Four divisions by 10³⁰⁸ take every 64-bit
significand to zero. -/
def ofDecimal? (negative : Bool) (significand : Nat) (exponent : Int) : Option Binary64 := do
  let x ← ofNat? significand
  let y ←
    if exponent < 0 then scaleDown 4 x exponent.natAbs
    else if x.isZero then some x
    else if exponent ≤ 308 then (powerOfTen? exponent.toNat).bind (mul? x)
    else none
  return { y with negative := negative }

end Binary64
end PasskeyConsent

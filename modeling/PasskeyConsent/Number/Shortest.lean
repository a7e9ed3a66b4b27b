import PasskeyConsent.Number.Binary64
/-!
# The shortest decimal of a double

`digits` is the decimal with the fewest digits among those that round to the double, and the nearest of them to it.
For each number of digits the value's two neighbours on that decimal grid are tried, in exact arithmetic; the first
grid with a hit wins.  `text` writes it out: positionally, with at least one decimal place, when the first digit stands
between 10⁻⁵ and 10¹⁵, and with a signed exponent otherwise.
-/
namespace PasskeyConsent.Binary64

/-- The exponent of the first decimal digit of `num / den`, for a positive value. -/
def leadingExponent (num den : Nat) : Int :=
  if den ≤ num then ((toString (num / den)).length : Int) - 1 else -(below 400 num)
where
  below : Nat → Nat → Int
    | 0, _ => 0
    | fuel + 1, n => if den ≤ n * 10 then 1 else 1 + below fuel (n * 10)

/-- A decimal `coefficient · 10^exponent`. -/
structure Decimal where
  coefficient : Nat
  exponent : Int
deriving DecidableEq, Repr

/-- The neighbour of the value on the grid of `10^g` that rounds to it, if there is one; of two, the nearer, and of
two equally near the even one.  `lo`, `mid` and `hi` are the ends and the middle of the rounding interval over the
common denominator `den`. -/
def onGrid? (lo mid hi den : Nat) (closed : Bool) (g : Int) : Option Decimal :=
  let up := Nat.pow 10 (if g < 0 then g.natAbs else 0)
  let down := Nat.pow 10 (if g < 0 then 0 else g.toNat)
  let unit := den * down
  let c := mid * up / unit
  let inside (k : Nat) : Bool :=
    if closed then lo * up ≤ k * unit && k * unit ≤ hi * up else lo * up < k * unit && k * unit < hi * up
  let below := mid * up - c * unit
  let above := (c + 1) * unit - mid * up
  let lower := c ≠ 0 && inside c
  let upper := inside (c + 1)
  if lower && upper then
    if below < above || (below == above && c % 2 == 0) then some ⟨c, g⟩ else some ⟨c + 1, g⟩
  else if lower then some ⟨c, g⟩
  else if upper then some ⟨c + 1, g⟩
  else none

/-- The shortest decimal that reads back as the magnitude of `x`, for `x` not zero. -/
def digits (x : Binary64) : Decimal :=
  let unit := Nat.pow 2 x.scale
  let den := Nat.pow 2 1076
  let mid := 4 * x.mantissa * unit
  let lo := (4 * x.mantissa - (if x.mantissa == Nat.pow 2 52 && x.scale != 0 then 1 else 2)) * unit
  let hi := (4 * x.mantissa + 2) * unit
  let e := leadingExponent mid den
  search lo mid hi den (x.mantissa % 2 == 0) e 1 17
where
  search (lo mid hi den : Nat) (closed : Bool) (e : Int) (k : Nat) : Nat → Decimal
    | 0 => ⟨0, 0⟩
    | fuel + 1 =>
      match onGrid? lo mid hi den closed (e + 1 - k) with
      | some d => d
      | none => search lo mid hi den closed e (k + 1) fuel

def dropZeros : Nat → Nat → Nat
  | 0, n => n
  | fuel + 1, n => if n % 10 = 0 then dropZeros fuel (n / 10) else n

def zeros (n : Nat) : String := String.ofList (List.replicate n '0')

/-- Lays out the digits `ds` of a number whose first digit stands at `10^e`. -/
def layOut (ds : List Char) (e : Int) : String :=
  if 0 ≤ e ∧ e ≤ 15 then
    let n := e.toNat + 1
    let whole := String.ofList (ds.take n) ++ zeros (n - ds.length)
    let frac := String.ofList (ds.drop n)
    whole ++ "." ++ (if frac.isEmpty then "0" else frac)
  else if -5 ≤ e ∧ e < 0 then
    "0." ++ zeros (e.natAbs - 1) ++ String.ofList ds
  else
    let tail := String.ofList (ds.drop 1)
    String.ofList (ds.take 1) ++ (if tail.isEmpty then "" else "." ++ tail) ++ "e" ++
      (if e < 0 then "-" else "+") ++ toString e.natAbs

def text (x : Binary64) : String :=
  let sign := if x.negative then "-" else ""
  if x.isZero then sign ++ "0.0"
  else
    let d := x.digits
    let all := toString d.coefficient
    let ds := (toString (dropZeros all.length d.coefficient)).toList
    sign ++ layOut ds (d.exponent + all.length - 1)

end PasskeyConsent.Binary64

import PasskeyConsent.Number.Shortest
import Mathlib.Algebra.Order.Field.Power
import Mathlib.Data.Rat.Cast.Order
import Mathlib.Tactic.FieldSimp
import Mathlib.Tactic.Linarith
import Mathlib.Tactic.Positivity
import Mathlib.Tactic.Ring
/-!
# The shortest decimal lies with its double

Every double has an interval of numbers that round to it, with its ends if its mantissa is even.  No two of them overlap,
and the grid of seventeen digits is finer than any of them, so the search for the shortest decimal finds one in the
interval, and doubles with one shortest decimal are one (`eq_of_digits`).
-/
namespace PasskeyConsent.Binary64

/-- Whether the parts are those of a double: the mantissa has 53 bits and the first of them is set, unless the scale is
the least. -/
def Normalized (x : Binary64) : Prop := x.mantissa < Nat.pow 2 53 ∧ (x.scale = 0 ∨ Nat.pow 2 52 ≤ x.mantissa)

instance : DecidablePred Normalized := fun x =>
  inferInstanceAs (Decidable (x.mantissa < Nat.pow 2 53 ∧ (x.scale = 0 ∨ Nat.pow 2 52 ≤ x.mantissa)))

/-- The number a decimal stands for. -/
def Decimal.value (d : Decimal) : ℚ := d.coefficient * (10 : ℚ) ^ d.exponent

/-! ## The rounding interval -/

/-- The lower end of the numbers that round to a magnitude, as a multiple of 2⁻¹⁰⁷⁶.  Below a power of two the doubles
are twice as dense. -/
def lower (x : Binary64) : Nat :=
  (4 * x.mantissa - (if x.mantissa == Nat.pow 2 52 && x.scale != 0 then 1 else 2)) * Nat.pow 2 x.scale

def middle (x : Binary64) : Nat := 4 * x.mantissa * Nat.pow 2 x.scale

def upper (x : Binary64) : Nat := (4 * x.mantissa + 2) * Nat.pow 2 x.scale

/-- Whether a number rounds to the magnitude of a double. -/
def RoundsTo (q : ℚ) (x : Binary64) : Prop :=
  if x.mantissa % 2 = 0 then (x.lower : ℚ) ≤ q ∧ q ≤ x.upper else (x.lower : ℚ) < q ∧ q < x.upper

variable {x y : Binary64} {q : ℚ}

theorem RoundsTo.le (h : RoundsTo q x) : (x.lower : ℚ) ≤ q ∧ q ≤ x.upper := by
  unfold RoundsTo at h
  split at h
  · exact h
  · exact ⟨h.1.le, h.2.le⟩

theorem RoundsTo.lt (h : RoundsTo q x) (hodd : x.mantissa % 2 = 1) : (x.lower : ℚ) < q ∧ q < x.upper := by
  rwa [RoundsTo, if_neg (by omega)] at h

/-- Whether the numbers that round to `x` end before those begin that round to `y`: where the intervals meet, one of them
is open. -/
def EndsBefore (x y : Binary64) : Prop :=
  x.upper ≤ y.lower ∧ (x.upper = y.lower → x.mantissa % 2 = 1 ∨ y.mantissa % 2 = 1)

theorem EndsBefore.not_roundsTo (h : EndsBefore x y) (hx : RoundsTo q x) : ¬ RoundsTo q y := by
  intro hy
  have hle : (x.upper : ℚ) ≤ y.lower := by exact_mod_cast h.1
  rcases hle.lt_or_eq with hlt | heq
  · linarith [hx.le.2, hy.le.1]
  · rcases h.2 (by exact_mod_cast heq) with hodd | hodd
    · linarith [(hx.lt hodd).2, hy.le.1]
    · linarith [hx.le.2, (hy.lt hodd).1]

theorem endsBefore_of_mantissa_lt (hscale : x.scale = y.scale) (hlt : x.mantissa < y.mantissa) : EndsBefore x y := by
  have hpos : 0 < Nat.pow 2 y.scale := Nat.two_pow_pos _
  obtain ⟨c, hc, hlower⟩ : ∃ c, (c = 4 * y.mantissa - 1 ∨ c = 4 * y.mantissa - 2) ∧ y.lower = c * Nat.pow 2 y.scale := by
    refine ⟨_, ?_, rfl⟩
    split <;> simp
  rw [EndsBefore, hlower, upper, hscale]
  refine ⟨Nat.mul_le_mul_right _ (by omega), fun h => ?_⟩
  have hends := Nat.eq_of_mul_eq_mul_right hpos h
  omega

/-- A double below a power of two reaches at most as far up as that one reaches down, and only an odd one so far. -/
theorem endsBefore_of_scale_lt (hx : Normalized x) (hy : Normalized y) (hscale : x.scale < y.scale) : EndsBefore x y := by
  obtain ⟨k, hk⟩ := Nat.exists_eq_add_of_lt hscale
  have hunit : Nat.pow 2 y.scale = Nat.pow 2 x.scale * Nat.pow 2 (k + 1) := by
    rw [hk, Nat.add_assoc]
    exact Nat.pow_add 2 _ _
  have htwo : 2 ≤ Nat.pow 2 (k + 1) := Nat.le_self_pow (Nat.succ_ne_zero k) 2
  have hpos : 0 < Nat.pow 2 x.scale := Nat.two_pow_pos _
  have hmantissa : Nat.pow 2 52 ≤ y.mantissa := hy.2.resolve_left (by omega)
  obtain ⟨c, hc, hlower⟩ : ∃ c, Nat.pow 2 54 - 1 ≤ c ∧ y.lower = Nat.pow 2 x.scale * (c * Nat.pow 2 (k + 1)) := by
    refine ⟨_, ?_, by rw [lower, hunit, Nat.mul_left_comm]⟩
    split <;> rename_i hbottom
    · simp at hmantissa ⊢
      omega
    · have hne : y.mantissa ≠ Nat.pow 2 52 := by
        intro heq
        simp [heq] at hbottom
        omega
      simp at hne hmantissa ⊢
      omega
  have hdouble : c * 2 ≤ c * Nat.pow 2 (k + 1) := Nat.mul_le_mul_left c htwo
  have hx := hx.1
  rw [EndsBefore, hlower, upper, Nat.mul_comm (4 * x.mantissa + 2)]
  simp only [Nat.pow_eq] at *
  refine ⟨Nat.mul_le_mul_left _ (by omega), fun h => ?_⟩
  have hends := Nat.eq_of_mul_eq_mul_left hpos h
  omega

/-- **No number rounds to two magnitudes.** -/
theorem RoundsTo.unique (hx : Normalized x) (hy : Normalized y) (hqx : RoundsTo q x) (hqy : RoundsTo q y) :
    x.mantissa = y.mantissa ∧ x.scale = y.scale := by
  rcases Nat.lt_trichotomy x.scale y.scale with hlt | hscale | hlt
  · exact absurd hqy ((endsBefore_of_scale_lt hx hy hlt).not_roundsTo hqx)
  · rcases Nat.lt_trichotomy x.mantissa y.mantissa with hlt | hmantissa | hlt
    · exact absurd hqy ((endsBefore_of_mantissa_lt hscale hlt).not_roundsTo hqx)
    · exact ⟨hmantissa, hscale⟩
    · exact absurd hqx ((endsBefore_of_mantissa_lt hscale.symm hlt).not_roundsTo hqy)
  · exact absurd hqx ((endsBefore_of_scale_lt hy hx hlt).not_roundsTo hqy)

/-! ## The search -/

section

variable {lo mid hi den : Nat} {closed : Bool} {g e : Int} {d : Decimal}

/-- A power of ten as a quotient `down / up` of whole numbers. -/
def up (g : Int) : Nat := Nat.pow 10 (if g < 0 then g.natAbs else 0)

def down (g : Int) : Nat := Nat.pow 10 (if g < 0 then 0 else g.toNat)

theorem up_pos (g : Int) : 0 < up g := Nat.pow_pos (by decide)

theorem down_pos (g : Int) : 0 < down g := Nat.pow_pos (by decide)

theorem zpow_eq_div (g : Int) : (10 : ℚ) ^ g = down g / up g := by
  unfold up down
  rcases lt_or_ge g 0 with hg | hg
  · obtain ⟨n, rfl⟩ := Int.exists_eq_neg_ofNat hg.le
    rw [if_pos hg, if_pos hg]
    simp
  · obtain ⟨n, rfl⟩ := Int.eq_ofNat_of_zero_le hg
    rw [if_neg (not_lt.2 hg), if_neg (not_lt.2 hg)]
    simp

/-- Whether the decimal `c · 10^g` is in the interval from `lo / den` to `hi / den`, as the search decides it. -/
def inside (lo hi den : Nat) (closed : Bool) (g : Int) (c : Nat) : Bool :=
  if closed then lo * up g ≤ c * (den * down g) && c * (den * down g) ≤ hi * up g
  else lo * up g < c * (den * down g) && c * (den * down g) < hi * up g

/-- What the search finds on a grid: nothing if neither neighbour of the value is in the interval, else one of them. -/
theorem onGrid?_cases (lo mid hi den : Nat) (closed : Bool) (g : Int) :
    (onGrid? lo mid hi den closed g = none ∧
        (mid * up g / (den * down g) ≠ 0 → inside lo hi den closed g (mid * up g / (den * down g)) = false) ∧
        inside lo hi den closed g (mid * up g / (den * down g) + 1) = false) ∨
      ∃ k, onGrid? lo mid hi den closed g = some ⟨k, g⟩ ∧ k ≠ 0 ∧ inside lo hi den closed g k = true := by
  have hdef : onGrid? lo mid hi den closed g =
      let c := mid * up g / (den * down g)
      let lower := decide (c ≠ 0) && inside lo hi den closed g c
      let upper := inside lo hi den closed g (c + 1)
      if lower && upper then
        if mid * up g - c * (den * down g) < (c + 1) * (den * down g) - mid * up g ||
          (mid * up g - c * (den * down g) == (c + 1) * (den * down g) - mid * up g && c % 2 == 0) then some ⟨c, g⟩
        else some ⟨c + 1, g⟩
      else if lower then some ⟨c, g⟩
      else if upper then some ⟨c + 1, g⟩
      else none := rfl
  generalize mid * up g / (den * down g) = c at hdef ⊢
  dsimp only at hdef
  have hlower : (decide (c ≠ 0) && inside lo hi den closed g c) = true → c ≠ 0 ∧ inside lo hi den closed g c = true := by
    simp
  rw [hdef]
  split
  · rename_i hboth
    rw [Bool.and_eq_true] at hboth
    split
    · exact .inr ⟨c, rfl, hlower hboth.1⟩
    · exact .inr ⟨c + 1, rfl, Nat.succ_ne_zero c, hboth.2⟩
  · split
    · rename_i h
      exact .inr ⟨c, rfl, hlower h⟩
    · split
      · rename_i h
        exact .inr ⟨c + 1, rfl, Nat.succ_ne_zero c, h⟩
      · rename_i h h'
        refine .inl ⟨rfl, fun hc => ?_, by simpa using h'⟩
        simpa [hc] using h

theorem of_onGrid? (h : onGrid? lo mid hi den closed g = some d) :
    d.exponent = g ∧ d.coefficient ≠ 0 ∧ inside lo hi den closed g d.coefficient = true := by
  rcases onGrid?_cases lo mid hi den closed g with ⟨hnone, -⟩ | ⟨k, hsome, hk⟩
  · rw [hnone] at h
    cases h
  · rw [hsome] at h
    cases h
    exact ⟨rfl, hk⟩

/-- **A grid that is finer than the interval hits it.** -/
theorem onGrid?_isSome (hden : 0 < den) (hlo : lo ≤ mid) (hhi : mid < hi) (hone : den * down g ≤ mid * up g)
    (hfine : lo * up g + den * down g < hi * up g) : ∃ d, onGrid? lo mid hi den closed g = some d := by
  rcases onGrid?_cases lo mid hi den closed g with ⟨-, hbelow, habove⟩ | ⟨k, hsome, -⟩
  · exfalso
    have hunit : 0 < den * down g := Nat.mul_pos hden (down_pos g)
    have hc := hbelow (Nat.div_pos hone hunit).ne'
    have hfloor : mid * up g / (den * down g) * (den * down g) ≤ mid * up g := Nat.div_mul_le_self _ _
    have hceil : mid * up g < (mid * up g / (den * down g) + 1) * (den * down g) := (Nat.div_lt_iff_lt_mul hunit).1 (Nat.lt_succ_self _)
    have hlo := Nat.mul_le_mul_right (up g) hlo
    have hhi := Nat.mul_lt_mul_of_pos_right hhi (up_pos g)
    generalize mid * up g / (den * down g) = c at *
    rw [Nat.add_mul, Nat.one_mul] at hceil
    unfold inside at hc habove
    rw [Nat.add_mul, Nat.one_mul] at habove
    cases closed <;> simp at hc habove <;> omega
  · exact ⟨_, hsome⟩

/-- **Seventeen digits are enough**: an interval wider than 10⁻¹⁶ of the value has a decimal with so many. -/
theorem onGrid?_seventeen (hden : 0 < den) (hlo : lo ≤ mid) (hhi : mid < hi) (hwide : mid < Nat.pow 10 16 * (hi - lo))
    (hlead : (10 : ℚ) ^ e * den ≤ mid) : ∃ d, onGrid? lo mid hi den closed (e + 1 - 17) = some d := by
  have hgrid : Nat.pow 10 16 * (den * down (e + 1 - 17)) ≤ mid * up (e + 1 - 17) := by
    have hup : (0 : ℚ) < up (e + 1 - 17) := by exact_mod_cast up_pos _
    have hsplit : (10 : ℚ) ^ e = 10 ^ 16 * (down (e + 1 - 17) / up (e + 1 - 17)) := by
      rw [← zpow_eq_div, ← zpow_natCast, ← zpow_add₀ (by norm_num)]
      congr 1
      push_cast
      ring
    rw [hsplit, mul_right_comm, mul_div_assoc', div_le_iff₀ hup] at hlead
    rw [mul_assoc] at hlead
    exact_mod_cast hlead
  have hfine := Nat.mul_lt_mul_of_pos_right hwide (up_pos (e + 1 - 17))
  rw [Nat.mul_assoc, Nat.mul_sub_right_distrib] at hfine
  exact onGrid?_isSome hden hlo hhi (by simp at hgrid; omega) (by simp at hgrid hfine; omega)

/-- What the search finds on a grid is in the interval. -/
theorem value_of_onGrid? (hd : onGrid? lo mid hi den closed g = some d) : d.coefficient ≠ 0 ∧
    if closed = true then (lo : ℚ) ≤ d.value * den ∧ d.value * den ≤ hi
    else (lo : ℚ) < d.value * den ∧ d.value * den < hi := by
  obtain ⟨hexponent, hne, hinside⟩ := of_onGrid? hd
  refine ⟨hne, ?_⟩
  have hup : (0 : ℚ) < up g := by exact_mod_cast up_pos g
  have hvalue : d.value * den = (d.coefficient * (den * down g) : Nat) / up g := by
    rw [Decimal.value, hexponent, zpow_eq_div]
    push_cast
    ring
  rw [hvalue, le_div_iff₀ hup, div_le_iff₀ hup, lt_div_iff₀ hup, div_lt_iff₀ hup]
  unfold inside at hinside
  cases closed <;> simp only [if_true, Bool.false_eq_true, if_false, Bool.and_eq_true, decide_eq_true_eq] at hinside ⊢ <;>
    exact_mod_cast hinside

/-- The search ends with what it finds on one of its grids if there is something on one. -/
theorem search_eq {fuel : Nat} : ∀ {k j : Nat}, j < fuel →
    (∃ d, onGrid? lo mid hi den closed (e + 1 - ((k + j : Nat) : Int)) = some d) →
      ∃ g, onGrid? lo mid hi den closed g = some (digits.search lo mid hi den closed e k fuel) := by
  induction fuel with
  | zero => exact fun h => absurd h (Nat.not_lt_zero _)
  | succ fuel ih =>
    intro k j hj hfound
    rw [digits.search]
    cases hgrid : onGrid? lo mid hi den closed (e + 1 - k) with
    | some d => exact ⟨_, hgrid⟩
    | none =>
      cases j with
      | zero =>
        obtain ⟨d, hd⟩ := hfound
        rw [Nat.add_zero, hgrid] at hd
        cases hd
      | succ j =>
        rw [Nat.add_succ, ← Nat.succ_add] at hfound
        exact ih (Nat.lt_of_succ_lt_succ hj) hfound

/-- Enough tens bring a value below one up to it. -/
theorem exists_below_eq {fuel : Nat} : ∀ {n : Nat}, (∃ k ≤ fuel, den ≤ n * Nat.pow 10 k) →
    ∃ k : Nat, leadingExponent.below den fuel n = k ∧ den ≤ n * Nat.pow 10 k := by
  induction fuel with
  | zero =>
    rintro n ⟨k, hk, hle⟩
    exact ⟨0, rfl, Nat.le_zero.1 hk ▸ hle⟩
  | succ fuel ih =>
    rintro n ⟨k, hk, hle⟩
    rw [leadingExponent.below]
    split
    · rename_i hone
      exact ⟨1, rfl, hone⟩
    · rename_i hmore
      have hten (k : Nat) : n * Nat.pow 10 (k + 1) = n * 10 * Nat.pow 10 k := by
        simp only [Nat.pow_eq, pow_succ]
        ring
      cases k with
      | zero =>
        rw [Nat.pow_eq, pow_zero] at hle
        omega
      | succ k =>
        rw [hten] at hle
        obtain ⟨j, hj, hle⟩ := ih ⟨k, Nat.le_of_succ_le_succ hk, hle⟩
        refine ⟨j + 1, ?_, by rwa [hten]⟩
        rw [hj]
        omega

/-- The first digit of a value stands for no more than the value, unless the value is too small. -/
theorem zpow_leadingExponent_le {num : Nat} (hden : 0 < den) (hfuel : ∃ k ≤ 400, den ≤ num * Nat.pow 10 k) :
    (10 : ℚ) ^ leadingExponent num den * den ≤ num := by
  unfold leadingExponent
  split
  · rename_i hle
    rw [Nat.toString_eq_ofList_toDigits, String.length_ofList]
    obtain ⟨l, hl⟩ := Nat.exists_eq_add_of_lt (Nat.length_toDigits_pos (b := 10) (n := num / den))
    have hpow : Nat.pow 10 l ≤ num / den := by
      cases l with
      | zero => exact Nat.div_pos hle hden
      | succ l => exact Nat.le_of_not_lt ((Nat.length_toDigits_le_iff (by decide) (Nat.succ_pos l)).not.1 (by omega))
    have hvalue := (Nat.mul_le_mul_right den hpow).trans (Nat.div_mul_le_self num den)
    rw [hl, show (((0 + l + 1 : Nat) : Int) - 1) = (l : Int) by omega, zpow_natCast]
    exact_mod_cast hvalue
  · obtain ⟨k, hk, hle⟩ := exists_below_eq hfuel
    rw [hk, zpow_neg, zpow_natCast, inv_mul_le_iff₀ (by positivity), mul_comm]
    exact_mod_cast hle

/-- The ends of the interval are further apart than the value's share of 2⁻⁵³. -/
theorem middle_lt (hx : Normalized x) :
    x.lower ≤ x.middle ∧ x.middle < x.upper ∧ x.middle < Nat.pow 10 16 * (x.upper - x.lower) := by
  have hunit : 0 < Nat.pow 2 x.scale := Nat.two_pow_pos _
  have hwidth : x.upper - x.lower =
      (4 * x.mantissa + 2 - (4 * x.mantissa - (if x.mantissa == Nat.pow 2 52 && x.scale != 0 then 1 else 2))) *
        Nat.pow 2 x.scale := (Nat.sub_mul _ _ _).symm
  refine ⟨Nat.mul_le_mul_right _ (Nat.sub_le _ _), Nat.mul_lt_mul_of_pos_right (by omega) hunit, ?_⟩
  rw [hwidth, middle, ← Nat.mul_assoc]
  refine Nat.mul_lt_mul_of_pos_right ?_ hunit
  have hx := hx.1
  split <;> rename_i hbottom
  · simp at hbottom
    simp [hbottom.1]
  · simp at hx ⊢
    omega

/-- What the search finds for a double over a power of two, if that is not too large to find the first digit, rounds to
the double. -/
theorem roundsTo_of_search {i : Nat} (hx : Normalized x) (hpos : x.mantissa ≠ 0) (hi : i ≤ 1200)
    (hd : digits.search x.lower x.middle x.upper (Nat.pow 2 i) (x.mantissa % 2 == 0)
      (leadingExponent x.middle (Nat.pow 2 i)) 1 17 = d) :
    d.coefficient ≠ 0 ∧ RoundsTo (d.value * (Nat.pow 2 i : Nat)) x := by
  have hden : 0 < Nat.pow 2 i := Nat.two_pow_pos i
  have hmiddle : 1 ≤ x.middle := Nat.mul_pos (by omega) (Nat.two_pow_pos _)
  have htens (k : Nat) (hk : i ≤ 3 * k) : ∃ j ≤ k, Nat.pow 2 i ≤ x.middle * Nat.pow 10 j := by
    refine ⟨k, Nat.le_refl k, ?_⟩
    calc
      Nat.pow 2 i ≤ Nat.pow 2 (3 * k) := Nat.pow_le_pow_right (by decide) hk
      _ = Nat.pow (Nat.pow 2 3) k := Nat.pow_mul 2 3 k
      _ ≤ Nat.pow 10 k := Nat.pow_le_pow_left (by decide) k
      _ ≤ x.middle * Nat.pow 10 k := Nat.le_mul_of_pos_left _ hmiddle
  obtain ⟨hlo, hhi, hwide⟩ := middle_lt hx
  have hlead := zpow_leadingExponent_le hden (htens 400 hi)
  obtain ⟨g, hg⟩ := search_eq (k := 1) (by decide : 16 < 17) (onGrid?_seventeen hden hlo hhi hwide hlead)
  rw [hd] at hg
  simpa only [RoundsTo, beq_iff_eq] using value_of_onGrid? hg

end

/-- **The shortest decimal of a double rounds to it.** -/
theorem digits_roundsTo (hx : Normalized x) (hpos : x.mantissa ≠ 0) :
    x.digits.coefficient ≠ 0 ∧ RoundsTo (x.digits.value * (Nat.pow 2 1076 : Nat)) x := by
  have hdigits : digits.search x.lower x.middle x.upper (Nat.pow 2 1076) (x.mantissa % 2 == 0)
      (leadingExponent x.middle (Nat.pow 2 1076)) 1 17 = x.digits := rfl
  -- As a variable the power is not computed.
  have hi : 1076 ≤ 1200 := by decide
  generalize 1076 = i at *
  exact roundsTo_of_search hx hpos hi hdigits

/-- **Doubles with one shortest decimal have one magnitude.** -/
theorem eq_of_digits (hx : Normalized x) (hy : Normalized y) (hx0 : x.mantissa ≠ 0) (hy0 : y.mantissa ≠ 0)
    (h : x.digits.value = y.digits.value) : x.mantissa = y.mantissa ∧ x.scale = y.scale := by
  have hq := (digits_roundsTo hx hx0).2
  rw [h] at hq
  exact hq.unique hx hy (digits_roundsTo hy hy0).2

end PasskeyConsent.Binary64

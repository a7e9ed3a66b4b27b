import PasskeyConsent.Proofs.Collections.Runs
import PasskeyConsent.Proofs.Number.Shortest
/-!
# A double is told by its text

The text of a double is a sign and a numeral, and a numeral is cut into its digits, its fraction and its exponent in one
way.  The zeros that the layout drops and adds change none of its value, so doubles with one text have one shortest
decimal (`text_injective`).
-/
namespace PasskeyConsent

/-- A decimal numeral with a fraction, an exponent or both. -/
structure Numeral where
  whole : List Char
  fraction : List Char
  exponent : Option Int
deriving DecidableEq, Repr

namespace Numeral

def fractionChars (ds : List Char) : List Char := if ds = [] then [] else '.' :: ds

def exponentChars : Option Int → List Char
  | none => []
  | some e => 'e' :: (if e < 0 then '-' else '+') :: Nat.toDigits 10 e.natAbs

def chars (n : Numeral) : List Char := n.whole ++ (fractionChars n.fraction ++ exponentChars n.exponent)

def value (n : Numeral) : ℚ :=
  (Nat.ofDigitChars 10 (n.whole ++ n.fraction) 0 : Nat) * (10 : ℚ) ^ (n.exponent.getD 0 - n.fraction.length)

structure Proper (n : Numeral) : Prop where
  whole_ne_nil : n.whole ≠ []
  whole : n.whole.all Char.isDigit = true
  fraction : n.fraction.all Char.isDigit = true
  marked : n.fraction ≠ [] ∨ n.exponent ≠ none

theorem all_isDigit_toDigits (n : Nat) : (Nat.toDigits 10 n).all Char.isDigit = true :=
  List.all_eq_true.2 fun _ hc => Nat.isDigit_of_mem_toDigits (by decide) (by decide) hc

theorem toDigits_injective {m n : Nat} (h : Nat.toDigits 10 m = Nat.toDigits 10 n) : m = n := by
  rw [← Nat.ofDigitChars_ten_toDigits (n := m), h, Nat.ofDigitChars_ten_toDigits]

theorem exponentChars_injective {e f : Option Int} (h : exponentChars e = exponentChars f) : e = f := by
  cases e with
  | none => cases f with
    | none => rfl
    | some f => cases h
  | some e => cases f with
    | none => cases h
    | some f =>
      simp only [exponentChars, List.cons.injEq, true_and] at h
      have habs := toDigits_injective h.2
      have hsign : e < 0 ↔ f < 0 := by
        have hsign := h.1
        split at hsign <;> split at hsign
        · omega
        · exact absurd hsign (by decide)
        · exact absurd hsign (by decide)
        · omega
      rw [Option.some_inj]
      omega

/-- What follows the digits of a numeral begins with no digit. -/
theorem head?_exponentChars (e : Option Int) : (exponentChars e).head?.any Char.isDigit = false := by
  cases e <;> rfl

theorem head?_fractionChars (ds : List Char) (e : Option Int) :
    (fractionChars ds ++ exponentChars e).head?.any Char.isDigit = false := by
  unfold fractionChars
  split
  · exact head?_exponentChars e
  · rfl

variable {n m : Numeral}

/-- **A numeral is cut in one way.** -/
theorem eq_of_chars (hn : n.Proper) (hm : m.Proper) (h : n.chars = m.chars) : n = m := by
  obtain ⟨whole, fraction, exponent⟩ := n
  obtain ⟨whole', fraction', exponent'⟩ := m
  obtain ⟨rfl, hrest⟩ := append_inj_of_runs hn.whole hm.whole (head?_fractionChars _ _) (head?_fractionChars _ _) h
  suffices hparts : fraction = fraction' ∧ exponentChars exponent = exponentChars exponent' by
    rw [hparts.1, exponentChars_injective hparts.2]
  unfold fractionChars at hrest
  dsimp only at hrest
  split at hrest <;> split at hrest
  · rename_i hnil hnil'
    exact ⟨hnil.trans hnil'.symm, hrest⟩
  · cases exponent <;> cases hrest
  · cases exponent' <;> cases hrest
  · rw [List.cons_append, List.cons_append, List.cons.injEq] at hrest
    exact append_inj_of_runs hn.fraction hm.fraction (head?_exponentChars _) (head?_exponentChars _) hrest.2

end Numeral

namespace Binary64

open Numeral

variable {x y : Binary64}

/-- What is stripped from a number are zeros at its end. -/
theorem exists_dropZeros (fuel : Nat) {n : Nat} (hn : 0 < n) :
    0 < dropZeros fuel n ∧ ∃ j, Nat.toDigits 10 n = Nat.toDigits 10 (dropZeros fuel n) ++ List.replicate j '0' := by
  induction fuel generalizing n with
  | zero => exact ⟨hn, 0, (List.append_nil _).symm⟩
  | succ fuel ih =>
    rw [dropZeros]
    split
    · rename_i hzero
      have hpos : 0 < n / 10 := by omega
      obtain ⟨h, j, hj⟩ := ih hpos
      refine ⟨h, j + 1, ?_⟩
      have hlast : Nat.toDigits 10 n = Nat.toDigits 10 (n / 10) ++ Nat.toDigits 10 0 := by
        rw [Nat.toDigits_append_toDigits (by decide) hpos (by decide)]
        congr 1
        omega
      rw [hlast, hj, List.append_assoc, List.replicate_succ']
      rfl
    · exact ⟨hn, 0, (List.append_nil _).symm⟩

theorem ofDigitChars_append_zeros (ds : List Char) (k : Nat) :
    Nat.ofDigitChars 10 (ds ++ List.replicate k '0') 0 = 10 ^ k * Nat.ofDigitChars 10 ds 0 := by
  rw [Nat.ofDigitChars_append, Nat.ofDigitChars_replicate_zero]

theorem ofDigitChars_zeros_append (ds : List Char) (k : Nat) :
    Nat.ofDigitChars 10 (List.replicate k '0' ++ ds) 0 = Nat.ofDigitChars 10 ds 0 := by
  rw [Nat.ofDigitChars_append, Nat.ofDigitChars_replicate_zero, Nat.mul_zero]

section

variable {ds : List Char} {k : Nat} {e : Int} {exponent : Option Int}

/-- Digits that are cut in two are those of a numeral. -/
theorem proper_cut (hds : ds.all Char.isDigit = true) (hne : ds.take k ≠ []) (hmarked : ds.drop k ≠ [] ∨ exponent ≠ none) :
    Proper ⟨ds.take k, ds.drop k, exponent⟩ where
  whole_ne_nil := hne
  whole := List.all_eq_true.2 fun c hc => List.all_eq_true.1 hds c (List.mem_of_mem_take hc)
  fraction := List.all_eq_true.2 fun c hc => List.all_eq_true.1 hds c (List.mem_of_mem_drop hc)
  marked := hmarked

theorem value_cut (hk : k ≤ ds.length) : value ⟨ds.take k, ds.drop k, exponent⟩ =
    (Nat.ofDigitChars 10 ds 0 : Nat) * (10 : ℚ) ^ (exponent.getD 0 + k - ds.length) := by
  have hlength : ((ds.length - k : Nat) : Int) = ds.length - k := by omega
  rw [value, List.take_append_drop, List.length_drop, hlength, sub_sub_eq_add_sub]

/-- Digits that reach beyond the point are cut there, others filled up to it with zeros. -/
theorem exists_layOut_large (hne : ds ≠ []) (hds : ds.all Char.isDigit = true) (he : 0 ≤ e ∧ e ≤ 15) :
    ∃ n : Numeral, n.Proper ∧ (layOut ds e).toList = n.chars ∧
      n.value = (Nat.ofDigitChars 10 ds 0 : Nat) * (10 : ℚ) ^ (e + 1 - ds.length) := by
  rw [layOut, if_pos he]
  obtain ⟨k, rfl⟩ := Int.eq_ofNat_of_zero_le he.1
  rw [Int.toNat_natCast]
  rcases Nat.lt_or_ge (k + 1) ds.length with hlt | hge
  · have hfraction : ds.drop (k + 1) ≠ [] := by
      rw [Ne, List.drop_eq_nil_iff]
      omega
    have hpad : k + 1 - ds.length = 0 := by omega
    refine ⟨⟨ds.take (k + 1), ds.drop (k + 1), none⟩, proper_cut hds (by simpa using hne) (.inl hfraction), ?_, ?_⟩
    · simp [chars, fractionChars, exponentChars, hfraction, hpad, zeros]
    · rw [value_cut hlt.le, Option.getD_none, zero_add]
      rfl
  · have hfraction : ds.drop (k + 1) = [] := List.drop_eq_nil_of_le hge
    have hwhole : ds.take (k + 1) = ds := List.take_of_length_le hge
    have hpad : ((k : Int) + 1 - ds.length) = ((k + 1 - ds.length : Nat) : Int) := by omega
    refine ⟨⟨ds ++ List.replicate (k + 1 - ds.length) '0', ['0'], none⟩, ⟨by simp [hne], ?_, rfl, .inl (by simp)⟩, ?_, ?_⟩
    · simpa using hds
    · simp [chars, fractionChars, exponentChars, hfraction, hwhole, zeros]
    · rw [value, List.append_assoc, ← List.replicate_succ', ofDigitChars_append_zeros, hpad, zpow_natCast]
      push_cast
      simp only [Option.getD_none, List.length_singleton, pow_succ]
      norm_num
      ring

/-- Digits behind the point stand behind zeros. -/
theorem exists_layOut_small (hne : ds ≠ []) (hds : ds.all Char.isDigit = true) (he : -5 ≤ e ∧ e < 0) :
    ∃ n : Numeral, n.Proper ∧ (layOut ds e).toList = n.chars ∧
      n.value = (Nat.ofDigitChars 10 ds 0 : Nat) * (10 : ℚ) ^ (e + 1 - ds.length) := by
  rw [layOut, if_neg (by omega), if_pos he]
  refine ⟨⟨['0'], List.replicate (e.natAbs - 1) '0' ++ ds, none⟩, ⟨by simp, rfl, ?_, .inl (by simp [hne])⟩, ?_, ?_⟩
  · simpa using hds
  · simp [chars, fractionChars, exponentChars, hne, zeros]
  · have hvalue : Nat.ofDigitChars 10 (['0'] ++ (List.replicate (e.natAbs - 1) '0' ++ ds)) 0 = Nat.ofDigitChars 10 ds 0 :=
      ofDigitChars_zeros_append ds (e.natAbs - 1)
    rw [value, hvalue, List.length_append, List.length_replicate]
    congr 2
    simp only [Option.getD_none]
    omega

/-- **The layout of digits is a numeral of their value.** -/
theorem exists_layOut (hne : ds ≠ []) (hds : ds.all Char.isDigit = true) (e : Int) :
    ∃ n : Numeral, n.Proper ∧ (layOut ds e).toList = n.chars ∧
      n.value = (Nat.ofDigitChars 10 ds 0 : Nat) * (10 : ℚ) ^ (e + 1 - ds.length) := by
  by_cases hlarge : 0 ≤ e ∧ e ≤ 15
  · exact exists_layOut_large hne hds hlarge
  by_cases hsmall : -5 ≤ e ∧ e < 0
  · exact exists_layOut_small hne hds hsmall
  -- What is left has one digit before the point and an exponent.
  rw [layOut, if_neg hlarge, if_neg hsmall]
  refine ⟨⟨ds.take 1, ds.drop 1, some e⟩, proper_cut hds (by simpa using hne) (.inr (by simp)), ?_, ?_⟩
  · rw [Nat.toString_eq_ofList_toDigits]
    generalize ds.drop 1 = tail
    cases tail <;> by_cases he : e < 0 <;> simp [chars, fractionChars, exponentChars, he]
  · rw [value_cut (List.length_pos_iff.2 hne), Option.getD_some]
    rfl

end

/-- The number that a text of a double shows. -/
def shown (x : Binary64) : ℚ := if x.isZero then 0 else x.digits.value

/-- **The text of a double is its sign and a numeral of its shortest decimal.** -/
theorem exists_text (hx : Normalized x) :
    ∃ n : Numeral, n.Proper ∧ x.text.toList = (if x.negative then ['-'] else []) ++ n.chars ∧ n.value = x.shown := by
  have hsign : (if x.negative then "-" else "").toList = if x.negative then ['-'] else [] := by
    split <;> rfl
  unfold text shown
  dsimp only
  by_cases hzero : x.isZero = true
  · rw [if_pos hzero, if_pos hzero]
    refine ⟨⟨['0'], ['0'], none⟩, ⟨by simp, rfl, rfl, .inl (by simp)⟩, ?_, ?_⟩
    · rw [String.toList_append, hsign]
      rfl
    · simp [value, Nat.ofDigitChars_cons]
  · rw [if_neg hzero, if_neg hzero, Nat.toString_eq_ofList_toDigits, Nat.toString_eq_ofList_toDigits, String.length_ofList,
      String.toList_ofList]
    have hc := Nat.pos_of_ne_zero (digits_roundsTo hx (by simpa [isZero] using hzero)).1
    obtain ⟨-, j, hj⟩ := exists_dropZeros (Nat.toDigits 10 x.digits.coefficient).length hc
    generalize dropZeros (Nat.toDigits 10 x.digits.coefficient).length x.digits.coefficient = stripped at hj ⊢
    obtain ⟨n, hproper, hchars, hvalue⟩ := exists_layOut Nat.toDigits_ne_nil (all_isDigit_toDigits stripped)
      (x.digits.exponent + (Nat.toDigits 10 x.digits.coefficient).length - 1)
    refine ⟨n, hproper, by rw [String.toList_append, hsign, hchars], ?_⟩
    have hcoefficient : x.digits.coefficient = 10 ^ j * stripped := by
      rw [← Nat.ofDigitChars_ten_toDigits (n := x.digits.coefficient), hj, ofDigitChars_append_zeros,
        Nat.ofDigitChars_ten_toDigits]
    have hexponent : x.digits.exponent + ((Nat.toDigits 10 stripped).length + j : Nat) - 1 + 1 -
        (Nat.toDigits 10 stripped).length = x.digits.exponent + j := by
      push_cast
      ring
    rw [hvalue, Nat.ofDigitChars_ten_toDigits, hj, List.length_append, List.length_replicate, hexponent, Decimal.value,
      hcoefficient, zpow_add₀ (by norm_num), zpow_natCast]
    push_cast
    ring

theorem shown_eq_zero_iff (hx : Normalized x) : x.shown = 0 ↔ x.isZero = true := by
  unfold shown
  split
  · rename_i hzero
    simp [hzero]
  · rename_i hzero
    have hc := (digits_roundsTo hx (by simpa [isZero] using hzero)).1
    have hten : (10 : ℚ) ^ x.digits.exponent ≠ 0 := zpow_ne_zero _ (by norm_num)
    simp [Decimal.value, hc, hten, hzero]

theorem parts_of_isZero (hx : Normalized x) (h : x.isZero = true) : x.mantissa = 0 ∧ x.scale = 0 := by
  have hmantissa : x.mantissa = 0 := by simpa [isZero] using h
  refine ⟨hmantissa, hx.2.resolve_right ?_⟩
  simp [hmantissa]

/-- The texts of doubles of one sign begin alike. -/
theorem negative_eq_of_append {a b : Bool} {n m : Numeral} (hn : n.Proper) (hm : m.Proper)
    (h : (if a then ['-'] else []) ++ n.chars = (if b then ['-'] else []) ++ m.chars) : a = b ∧ n.chars = m.chars := by
  have hdigit : ∀ {n : Numeral} {cs : List Char}, n.Proper → n.chars ≠ '-' :: cs := by
    intro n cs hn h
    obtain ⟨d, ds, hwhole⟩ := List.exists_cons_of_ne_nil hn.whole_ne_nil
    have hd := hn.whole
    rw [chars, hwhole, List.cons_append, List.cons.injEq] at h
    rw [hwhole, List.all_cons, h.1] at hd
    cases hd
  cases a <;> cases b <;> simp only [if_true, if_false, Bool.false_eq_true, List.nil_append, List.singleton_append] at h
  · exact ⟨rfl, h⟩
  · exact absurd h (hdigit hn)
  · exact absurd h.symm (hdigit hm)
  · exact ⟨rfl, (List.cons.inj h).2⟩

/-- **A double is told by its text.** -/
theorem text_injective (hx : Normalized x) (hy : Normalized y) (h : x.text = y.text) : x = y := by
  obtain ⟨n, hn, hxchars, hxvalue⟩ := exists_text hx
  obtain ⟨m, hm, hychars, hyvalue⟩ := exists_text hy
  rw [h, hychars] at hxchars
  obtain ⟨hnegative, hchars⟩ := negative_eq_of_append hm hn hxchars
  have hshown : x.shown = y.shown := by rw [← hxvalue, ← hyvalue, eq_of_chars hn hm hchars.symm]
  suffices hmagnitude : x.mantissa = y.mantissa ∧ x.scale = y.scale by
    cases x
    cases y
    simp_all
  have hzero : x.isZero = y.isZero := by
    rw [Bool.eq_iff_iff, ← shown_eq_zero_iff hx, ← shown_eq_zero_iff hy, hshown]
  unfold shown at hshown
  rw [hzero] at hshown
  split at hshown <;> rename_i hy0
  · rw [hy0] at hzero
    obtain ⟨hmantissa, hscale⟩ := parts_of_isZero hx hzero
    obtain ⟨hmantissa', hscale'⟩ := parts_of_isZero hy hy0
    exact ⟨hmantissa.trans hmantissa'.symm, hscale.trans hscale'.symm⟩
  · have hx0 : ¬ x.isZero = true := by rwa [hzero]
    exact eq_of_digits hx hy (by simpa [isZero] using hx0) (by simpa [isZero] using hy0) hshown

end Binary64
end PasskeyConsent

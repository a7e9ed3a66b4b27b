import PasskeyConsent.Text.Numeral
/-!
# Numerals of numbers

The decimal form of a number is read as that number, up to the limit of the reader, and nothing is read to a number beyond
it.
-/
namespace PasskeyConsent.Text

theorem digitValue?_of_isDigit {c : Char} (h : c.isDigit = true) : digitValue? c = some (c.toNat - '0'.toNat) :=
  if_pos (by simpa [Char.isDigit, Char.le_def] using h)

/-- A value never gets smaller by reading on. -/
theorem le_ofDigitChars (cs : List Char) (value : Nat) : value ≤ Nat.ofDigitChars 10 cs value := by
  induction cs generalizing value with
  | nil => exact Nat.le_refl value
  | cons c cs ih =>
    rw [Nat.ofDigitChars_cons]
    exact Nat.le_trans (by omega) (ih _)

/-- Digits are read as the number that they continue. -/
theorem readDigits_eq_ok {limit : Nat} : ∀ {cs : List Char} {value : Nat}, (∀ c ∈ cs, c.isDigit = true) →
    Nat.ofDigitChars 10 cs value ≤ limit → readDigits limit value cs = .ok (Nat.ofDigitChars 10 cs value)
  | [], _, _, _ => rfl
  | c :: cs, value, hdigits, hlimit => by
    obtain ⟨hc, hcs⟩ := List.forall_mem_cons.1 hdigits
    rw [Nat.ofDigitChars_cons, Nat.mul_comm] at hlimit ⊢
    have hnext : value * 10 + (c.toNat - '0'.toNat) ≤ limit := Nat.le_trans (le_ofDigitChars _ _) hlimit
    rw [readDigits, digitValue?_of_isDigit hc]
    dsimp only
    rw [if_pos hnext, readDigits_eq_ok hcs hlimit]

theorem readNumeral_of_ne_plus {limit : Nat} {c : Char} {cs : List Char} (h : c ≠ '+') :
    readNumeral limit (String.ofList (c :: cs)) = readDigits limit 0 (c :: cs) := by
  unfold readNumeral
  rw [String.toList_ofList]
  split
  · rename_i heq
    cases heq
  · rename_i heq
    cases heq
    exact absurd rfl h
  · rename_i heq
    cases heq
    exact absurd rfl h
  · rfl

/-- **The decimal form of a number is read as the number.** -/
theorem readNumeral_toString {limit n : Nat} (h : n ≤ limit) : readNumeral limit (toString n) = .ok n := by
  have hdigits : ∀ c ∈ Nat.toDigits 10 n, c.isDigit = true := fun c hc =>
    Nat.isDigit_of_mem_toDigits (by decide) (by decide) hc
  have hvalue : Nat.ofDigitChars 10 (Nat.toDigits 10 n) 0 = n := Nat.ofDigitChars_ten_toDigits
  have hread : readDigits limit 0 (Nat.toDigits 10 n) = .ok n := by
    rw [readDigits_eq_ok hdigits (by rwa [hvalue]), hvalue]
  obtain ⟨c, cs, hcons⟩ := List.exists_cons_of_ne_nil (Nat.toDigits_ne_nil (b := 10) (n := n))
  rw [hcons] at hread hdigits
  have hplus : c ≠ '+' := by
    rintro rfl
    exact absurd (hdigits _ List.mem_cons_self) (by decide)
  rw [Nat.toString_eq_ofList_toDigits, hcons, readNumeral_of_ne_plus hplus, hread]

theorem le_of_readDigits {limit : Nat} : ∀ {cs : List Char} {value n : Nat},
    value ≤ limit → readDigits limit value cs = .ok n → n ≤ limit
  | [], _, _, hle, h => Except.ok.inj h ▸ hle
  | c :: cs, value, n, hle, h => by
    rw [readDigits] at h
    split at h
    · cases h
    · split at h
      · rename_i hnext
        exact le_of_readDigits hnext h
      · cases h

/-- A numeral that has been read is within its limit. -/
theorem le_of_readNumeral {limit n : Nat} {s : String} (h : readNumeral limit s = .ok n) : n ≤ limit := by
  unfold readNumeral at h
  split at h
  · cases h
  · cases h
  · exact le_of_readDigits (Nat.zero_le _) h
  · exact le_of_readDigits (Nat.zero_le _) h

end PasskeyConsent.Text

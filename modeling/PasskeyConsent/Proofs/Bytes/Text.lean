import PasskeyConsent.Bytes.Basic
/-!
# Texts and numbers among bytes

Where a byte string is made of texts and numbers one after another, two of them can be equal although the parts are
not.  A text that stands first ends at a character, whatever follows it, so of two equal strings the one begins with the
other's first text and goes on inside its own (`append_eq_append_cases`).  A number of eight bytes is told by them.
-/
namespace PasskeyConsent.Bytes

theorem ofText_append (s t : String) : ofText (s ++ t) = ofText s ++ ofText t := by
  simp [ofText]

@[simp] theorem ofText_inj {s t : String} : ofText s = ofText t ↔ s = t := by
  constructor
  · exact ofText_injective
  · intro h
    rw [h]

/-- **A text whose bytes begin with those of another begins with it.** -/
theorem exists_of_ofText_eq_append {s t : String} {rest : Bytes} (h : ofText t = ofText s ++ rest) :
    ∃ u, t = s ++ u ∧ rest = ofText u := by
  have hbytes : s.toList.utf8Encode ++ ⟨rest.toArray⟩ = t.toList.utf8Encode := by
    apply ByteArray.ext
    apply Array.toList_inj.1
    simpa [ofText] using h.symm
  obtain ⟨cs, hcs⟩ := List.isPrefix_of_utf8Encode_append_eq_utf8Encode _ hbytes
  have htext : t = s ++ String.ofList cs := by
    apply String.toList_inj.1
    rw [String.toList_append, String.toList_ofList, hcs]
  refine ⟨String.ofList cs, htext, ?_⟩
  rw [htext, ofText_append] at h
  exact (List.append_cancel_left h).symm

/-- **Two byte strings that begin with texts** are equal just when the one text goes on with some text that begins the
rest of the other. -/
theorem append_eq_append_cases {s t : String} {x y : Bytes} :
    ofText s ++ x = ofText t ++ y ↔
      (∃ u, t = s ++ u ∧ x = ofText u ++ y) ∨ ∃ u, s = t ++ u ∧ y = ofText u ++ x := by
  constructor
  · intro h
    rcases List.append_eq_append_iff.1 h with ⟨z, hz, rfl⟩ | ⟨z, hz, rfl⟩
    · obtain ⟨u, rfl, rfl⟩ := exists_of_ofText_eq_append hz
      exact .inl ⟨u, rfl, rfl⟩
    · obtain ⟨u, rfl, rfl⟩ := exists_of_ofText_eq_append hz
      exact .inr ⟨u, rfl, rfl⟩
  · rintro (⟨u, rfl, rfl⟩ | ⟨u, rfl, rfl⟩)
    · rw [ofText_append, List.append_assoc]
    · rw [ofText_append, List.append_assoc]

@[simp] theorem length_littleEndian64 (n : Nat) : (littleEndian64 n).length = 8 := by
  simp [littleEndian64]

/-- Numbers with the same lower digits are the same up to those above. -/
theorem mod_pow_eq_of_digits {m n k : Nat}
    (h : ∀ i < k, m / Nat.pow 256 i % 256 = n / Nat.pow 256 i % 256) : m % Nat.pow 256 k = n % Nat.pow 256 k := by
  induction k with
  | zero => exact (Nat.mod_one m).trans (Nat.mod_one n).symm
  | succ k ih =>
    have hlower := ih fun i hi => h i (by omega)
    have hdigit := h k (by omega)
    have hsucc (a : Nat) : a % Nat.pow 256 (k + 1) = a % Nat.pow 256 k + Nat.pow 256 k * (a / Nat.pow 256 k % 256) :=
      Nat.mod_pow_succ
    rw [hsucc, hsucc, hlower, hdigit]

/-- **A number of eight bytes is told by them.** -/
theorem littleEndian64_injective {m n : UInt64} (h : littleEndian64 m.toNat = littleEndian64 n.toNat) : m = n := by
  have hdigits (i : Nat) (hi : i < 8) : m.toNat / Nat.pow 256 i % 256 = n.toNat / Nat.pow 256 i % 256 := by
    have hbyte := congrArg (fun bs => (bs[i]?).map UInt8.toNat) h
    simpa [littleEndian64, hi] using hbyte
  have hmod := mod_pow_eq_of_digits hdigits
  rw [Nat.mod_eq_of_lt m.toNat_lt, Nat.mod_eq_of_lt n.toNat_lt] at hmod
  exact UInt64.toNat_inj.1 hmod

end PasskeyConsent.Bytes

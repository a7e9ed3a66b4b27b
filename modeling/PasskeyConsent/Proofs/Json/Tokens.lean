import PasskeyConsent.Json.Document
import PasskeyConsent.Proofs.Collections.Runs
import PasskeyConsent.Proofs.Json.Printer
import PasskeyConsent.Proofs.Text.Numeral
/-!
# Reading what is printed, by token

The blanks, words, strings and integers of a printed text are read to what they were printed from, whatever stands behind
them: a string up to its closing mark (`readString_escaped`), and an integer up to what does not go on with it
(`numberToken_toDigits`).
-/
namespace PasskeyConsent

open Json (escapeChar)

/-! ## Blanks -/

/-- The characters between the tokens of a text. -/
def Cursor.isBlank (c : Char) : Bool := c = ' ' || c = '\n' || c = '\t' || c = '\r'

namespace Cursor

variable {cs : List Char}

/-- Blanks are skipped up to what is none. -/
theorem skipBlanks_append : ∀ {bs : List Char} {p : Place}, bs.all isBlank = true → cs.head?.all (!isBlank ·) = true →
    ∃ q, (⟨bs ++ cs, p⟩ : Cursor).skipBlanks = ⟨cs, q⟩
  | [], p, _, hcs => by
    cases cs with
    | nil => exact ⟨p, rfl⟩
    | cons c cs =>
      refine ⟨p, ?_⟩
      have hc : ¬(c = ' ' ∨ c = '\n' ∨ c = '\t' ∨ c = '\r') := by
        simpa [isBlank, and_assoc] using hcs
      show skipBlanksFrom p (c :: cs) = _
      rw [skipBlanksFrom, if_neg hc]
  | b :: bs, p, hbs, hcs => by
    rw [List.all_cons, Bool.and_eq_true] at hbs
    have hb : b = ' ' ∨ b = '\n' ∨ b = '\t' ∨ b = '\r' := by simpa [isBlank, or_assoc] using hbs.1
    obtain ⟨q, hq⟩ := skipBlanks_append (p := p.advance b) hbs.2 hcs
    refine ⟨q, ?_⟩
    show skipBlanksFrom p (b :: (bs ++ cs)) = _
    rw [skipBlanksFrom, if_pos hb]
    exact hq

end Cursor

/-! ## Words -/

theorem wordEnd_append (rest : List Char) : ∀ (ws : List Char) (p : Place),
    ∃ q, wordEnd ws ⟨ws ++ rest, p⟩ = .ok ⟨rest, q⟩
  | [], p => ⟨p, rfl⟩
  | w :: ws, p => by
    obtain ⟨q, hq⟩ := wordEnd_append rest ws (p.advance w)
    refine ⟨q, ?_⟩
    rw [List.cons_append, wordEnd]
    dsimp only
    rw [if_pos rfl, hq]

/-! ## Strings -/

theorem hexBytes_cons {d : Char} {x : Nat} (h : Bytes.hexValue? d = some x) (n v : Nat) (rest : List Char) (p : Place) :
    hexBytes (n + 1) v ⟨d :: rest, p⟩ = hexBytes n (16 * v + x) ⟨rest, p.next⟩ := by
  rw [hexBytes]
  simp only [h]

/-- The escape of a character below U+0020 is read as the character. -/
theorem exists_escape_control {c : Char} (h : c.toNat < 32) (rest : List Char) (p : Place) : ∃ q,
    (escape ⟨'u' :: '0' :: '0' :: Bytes.hexDigit (c.toNat / 16) :: Bytes.hexDigit (c.toNat % 16) :: rest, p⟩).1 =
      .ok (c, ⟨rest, q⟩) := by
  have hzero : Bytes.hexValue? '0' = some 0 := by decide
  have hhigh := Json.hexValue?_hexDigit (show c.toNat / 16 < 16 by omega)
  have hlow := Json.hexValue?_hexDigit (show c.toNat % 16 < 16 by omega)
  have hvalue : 16 * (c.toNat / 16) + c.toNat % 16 = c.toNat := Nat.div_add_mod _ _
  obtain ⟨q, hhex⟩ : ∃ q, hexEscape ⟨'0' :: '0' :: Bytes.hexDigit (c.toNat / 16) ::
      Bytes.hexDigit (c.toNat % 16) :: rest, p.next⟩ = (.ok c.toNat, ⟨rest, q⟩) := by
    refine ⟨p.next.next.next.next.next, ?_⟩
    rw [hexEscape, hexBytes_cons hzero, hexBytes_cons hzero, hexBytes_cons hhigh, hexBytes_cons hlow, hexBytes]
    simp only [Nat.mul_zero, Nat.zero_add, hvalue]
  have heat (cs : List Char) : (⟨'u' :: cs, p⟩ : Cursor).eat = ⟨cs, p.next⟩ := rfl
  refine ⟨q, ?_⟩
  rw [escape]
  dsimp only
  rw [heat, hhex]
  dsimp only
  -- A control is no half of a surrogate pair.
  rw [if_neg (by omega), if_neg (by omega), Char.ofNat_toNat]
  rfl

/-- What is written of a character is the character itself or an escape that stands for it. -/
theorem escapeChar_cases (c : Char) :
    (escapeChar c = [c] ∧ c ≠ '"' ∧ c ≠ '\\' ∧ ¬c.toNat < 32) ∨
      ∃ e, escapeChar c = '\\' :: e ∧
        ∀ (rest : List Char) (p : Place), ∃ q, (escape ⟨e ++ rest, p⟩).1 = .ok (c, ⟨rest, q⟩) := by
  unfold escapeChar
  by_cases hquote : c = '"'
  · subst hquote
    exact .inr ⟨['"'], rfl, fun rest p => ⟨_, rfl⟩⟩
  rw [if_neg hquote]
  by_cases hslash : c = '\\'
  · subst hslash
    exact .inr ⟨['\\'], rfl, fun rest p => ⟨_, rfl⟩⟩
  rw [if_neg hslash]
  -- Five controls are written by a letter, every other one by its number.
  split
  · rename_i h
    cases Json.eq_ofNat_of_toNat h
    exact .inr ⟨['b'], rfl, fun rest p => ⟨_, rfl⟩⟩
  split
  · rename_i h
    cases Json.eq_ofNat_of_toNat h
    exact .inr ⟨['t'], rfl, fun rest p => ⟨_, rfl⟩⟩
  split
  · rename_i h
    cases Json.eq_ofNat_of_toNat h
    exact .inr ⟨['n'], rfl, fun rest p => ⟨_, rfl⟩⟩
  split
  · rename_i h
    cases Json.eq_ofNat_of_toNat h
    exact .inr ⟨['f'], rfl, fun rest p => ⟨_, rfl⟩⟩
  split
  · rename_i h
    cases Json.eq_ofNat_of_toNat h
    exact .inr ⟨['r'], rfl, fun rest p => ⟨_, rfl⟩⟩
  split
  · rename_i h
    exact .inr ⟨['u', '0', '0', Bytes.hexDigit (c.toNat / 16), Bytes.hexDigit (c.toNat % 16)], rfl, exists_escape_control h⟩
  · rename_i h
    exact .inl ⟨rfl, hquote, hslash, h⟩

/-- **A string in quotation marks is read to its end.** -/
theorem stringToken_escaped (rest : List Char) : ∀ (cs : List Char) {fuel : Nat} (acc : List Char) (p : Place),
    cs.length < fuel → ∃ q, stringToken fuel acc ⟨cs.flatMap escapeChar ++ '"' :: rest, p⟩ =
      ⟨.ok (String.ofList (acc.reverse ++ cs)), .ok ⟨rest, q⟩⟩
  | [], fuel + 1, acc, p, _ => ⟨p.next, by rw [stringToken, List.append_nil]; rfl⟩
  | c :: cs, fuel + 1, acc, p, hfuel => by
    have hcs : cs.length < fuel := Nat.lt_of_succ_lt_succ hfuel
    have hacc : acc.reverse ++ c :: cs = (c :: acc).reverse ++ cs := by simp
    rw [List.flatMap_cons, List.append_assoc, hacc]
    rcases escapeChar_cases c with ⟨hc, hquote, hslash, hcontrol⟩ | ⟨e, he, hescape⟩
    · obtain ⟨q, hq⟩ := stringToken_escaped rest cs (c :: acc) (p.advance c) hcs
      refine ⟨q, ?_⟩
      rw [hc, List.singleton_append, stringToken]
      dsimp only
      split
      · rename_i heq
        cases heq
      · rename_i heq
        exact absurd (List.cons.inj heq).1 hquote
      · rename_i heq
        exact absurd (List.cons.inj heq).1 hslash
      · rename_i heq
        cases heq
        rw [if_neg hcontrol, hq]
    · obtain ⟨p', hp'⟩ := hescape (cs.flatMap escapeChar ++ '"' :: rest) p.next
      obtain ⟨q, hq⟩ := stringToken_escaped rest cs (c :: acc) p' hcs
      have heat (text : List Char) : (⟨'\\' :: text, p⟩ : Cursor).eat = ⟨text, p.next⟩ := rfl
      refine ⟨q, ?_⟩
      rw [he, List.cons_append, stringToken]
      dsimp only
      split
      · rename_i heq
        cases heq
      · rename_i heq
        cases heq
      · rw [heat]
        split
        · rename_i heq
          rw [heq] at hp'
          cases hp'
          exact hq
        · rename_i heq
          rw [heq] at hp'
          cases hp'
      · rename_i hslash heq
        exact absurd (List.cons.inj heq).1.symm hslash

theorem length_le_escaped (cs : List Char) : cs.length ≤ (cs.flatMap escapeChar).length := by
  induction cs with
  | nil => exact Nat.le_refl 0
  | cons c cs ih =>
    have hc : 0 < (escapeChar c).length := by
      rcases escapeChar_cases c with ⟨hc, -⟩ | ⟨e, he, -⟩
      · rw [hc]
        exact Nat.one_pos
      · rw [he]
        exact Nat.succ_pos _
    rw [List.flatMap_cons, List.length_append, List.length_cons]
    omega

/-- **A string is read from between its quotation marks.** -/
theorem readString_escaped (s : String) (rest : List Char) (p : Place) :
    ∃ q, readString ⟨s.toList.flatMap escapeChar ++ '"' :: rest, p⟩ = ⟨.ok s, .ok ⟨rest, q⟩⟩ := by
  have hfuel : s.toList.length < (s.toList.flatMap escapeChar ++ '"' :: rest).length + 1 := by
    have := length_le_escaped s.toList
    rw [List.length_append]
    omega
  obtain ⟨q, hq⟩ := stringToken_escaped rest s.toList [] p hfuel
  refine ⟨q, ?_⟩
  rw [readString, hq, List.reverse_nil, List.nil_append, String.ofList_toList]

/-! ## Numbers -/

/-- Digits go on from a significand as long as it fits. -/
theorem foldl_whole : ∀ {ds : List Char} {v : Nat}, (∀ c ∈ ds, c.isDigit = true) → Nat.ofDigitChars 10 ds v ≤ Text.maxU64 →
    ds.foldl Significand.whole ⟨v, 0, false⟩ = ⟨Nat.ofDigitChars 10 ds v, 0, false⟩
  | [], _, _, _ => rfl
  | c :: ds, v, hdigits, hmax => by
    rw [Nat.ofDigitChars_cons, Nat.mul_comm] at hmax ⊢
    have hnext : v * 10 + (c.toNat - 48) ≤ Text.maxU64 := Nat.le_trans (Text.le_ofDigitChars _ _) hmax
    have hwhole : Significand.whole ⟨v, 0, false⟩ c = ⟨v * 10 + (c.toNat - 48), 0, false⟩ := by
      rw [Significand.whole]
      exact (if_neg Bool.false_ne_true).trans (if_pos hnext)
    rw [List.foldl_cons, hwhole]
    exact foldl_whole (List.forall_mem_cons.1 hdigits).2 hmax

/-- The decimal form of a number has no zero in front of other digits. -/
theorem toDigits_ne_zero_cons (n : Nat) (c : Char) (cs : List Char) : Nat.toDigits 10 n ≠ '0' :: c :: cs := by
  induction n using Nat.strongRecOn generalizing c cs with
  | _ n ih =>
    intro h
    by_cases hlt : n < 10
    · rw [Nat.toDigits_of_lt_base hlt] at h
      cases (List.cons.inj h).2
    · have hpos : 0 < n / 10 := by omega
      have hsplit : Nat.toDigits 10 (n / 10) ++ Nat.toDigits 10 (n % 10) = Nat.toDigits 10 n := by
        rw [Nat.toDigits_append_toDigits (by decide) hpos (by omega), Nat.div_add_mod]
      rw [← hsplit] at h
      obtain ⟨d, ds, hds⟩ := List.exists_cons_of_ne_nil (Nat.toDigits_ne_nil (b := 10) (n := n / 10))
      rw [hds, List.cons_append, List.cons.injEq] at h
      obtain ⟨rfl, -⟩ := h
      cases ds with
      | nil =>
        have hzero : n / 10 = 0 := Numeral.toDigits_injective hds
        omega
      | cons e es => exact ih (n / 10) (by omega) e es hds

/-- Whether a text does not begin with what could go on with an integer. -/
def EndsNumber (rest : List Char) : Prop := ∀ c cs, rest = c :: cs → c.isDigit = false ∧ c ≠ '.' ∧ c ≠ 'e' ∧ c ≠ 'E'

/-- **A decimal form is read as its number.** -/
theorem numberToken_toDigits (negative : Bool) {n : Nat} (hn : n ≤ Text.maxU64) {rest : List Char} (hrest : EndsNumber rest)
    (p : Place) : ∃ q, numberToken negative ⟨Nat.toDigits 10 n ++ rest, p⟩ =
      ⟨wholeNumber negative ⟨n, 0, false⟩ q, .ok ⟨rest, q⟩⟩ := by
  have hdigits : ∀ c ∈ Nat.toDigits 10 n, c.isDigit = true := fun c hc =>
    Nat.isDigit_of_mem_toDigits (by decide) (by decide) hc
  have htake : (Nat.toDigits 10 n ++ rest).takeWhile Char.isDigit = Nat.toDigits 10 n := by
    refine takeWhile_of_run (List.all_eq_true.2 hdigits) ?_
    cases rest with
    | nil => rfl
    | cons c cs => exact (hrest c cs rfl).1
  have hvalue : (Nat.toDigits 10 n).foldl Significand.whole ⟨0, 0, false⟩ = ⟨n, 0, false⟩ := by
    rw [foldl_whole hdigits (by rwa [Nat.ofDigitChars_ten_toDigits]), Nat.ofDigitChars_ten_toDigits]
  refine ⟨p.add (Nat.toDigits 10 n).length, ?_⟩
  rw [numberToken]
  dsimp only
  rw [htake, List.drop_left]
  split
  · rename_i heq
    exact absurd heq Nat.toDigits_ne_nil
  · rename_i heq
    exact absurd heq (toDigits_ne_zero_cons n _ _)
  · rw [hvalue]
    split
    · exact absurd rfl (hrest _ _ rfl).2.1
    · exact absurd rfl (hrest _ _ rfl).2.2.1
    · exact absurd rfl (hrest _ _ rfl).2.2.2
    · rfl

end PasskeyConsent

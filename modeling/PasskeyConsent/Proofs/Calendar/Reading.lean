import PasskeyConsent.Proofs.Calendar.Days
import PasskeyConsent.Json.Codec
/-!
# Instants in writing

An instant that `Instant.read` has read is within the calendar and is late in its second only at the end of a minute
(`proper_of_read`), and every such instant is read from the text that it is written as (`read_text`).  So reading and
writing settle after one round: the instants that can be read are those that are read back (`proper_iff_read_text`).
-/
namespace PasskeyConsent.Instant

open Calendar

/-! ## Numbers -/

theorem isDigitChar_of_isDigit {c : Char} (h : c.isDigit = true) : isDigitChar c = true := h

theorem code_of_isDigitChar {c : Char} (h : isDigitChar c = true) : 48 ≤ c.toNat ∧ c.toNat ≤ 57 := by
  simpa [isDigitChar, Char.le_def, UInt32.le_iff_toNat_le] using h

theorem not_isBlank_of_isDigitChar {c : Char} (h : isDigitChar c = true) : Text.isBlank c = false := by
  have hcode := code_of_isDigitChar h
  simp [Text.isBlank]
  omega

theorem skipBlank_cons {c : Char} (h : Text.isBlank c = false) (cs : List Char) : skipBlank (c :: cs) = c :: cs :=
  List.dropWhile_cons_of_neg (by rw [h]; exact Bool.false_ne_true)

/-- **A number is read to its end**: up to the width, or to what is no digit. -/
theorem number_append {width : Nat} {ds rest : List Char} (hds : ∀ c ∈ ds, isDigitChar c = true) (hne : ds ≠ [])
    (hlength : ds.length ≤ width) (hends : ds.length = width ∨ ∀ c ∈ rest.head?, isDigitChar c = false) :
    number width (ds ++ rest) = .ok (Nat.ofDigitChars 10 ds 0, rest) := by
  have hrest : (rest.take (width - ds.length)).takeWhile isDigitChar = [] := by
    rcases hends with hwidth | hstop
    · rw [hwidth, Nat.sub_self, List.take_zero]
      rfl
    · cases hcount : width - ds.length with
      | zero => rfl
      | succ n =>
        cases rest with
        | nil => rfl
        | cons c rest =>
          rw [List.take_succ_cons]
          exact List.takeWhile_cons_of_neg (by rw [hstop c rfl]; exact Bool.false_ne_true)
  have htaken : ((ds ++ rest).take width).takeWhile isDigitChar = ds := by
    rw [List.take_append, List.take_of_length_le hlength, List.takeWhile_append_of_pos hds, hrest, List.append_nil]
  unfold number
  rw [htaken]
  cases ds with
  | nil => exact absurd rfl hne
  | cons d ds =>
    show Except.ok (_, (d :: ds ++ rest).drop (d :: ds).length) = _
    rw [List.drop_left]
    rfl

theorem digits_pad (width n : Nat) : ∀ c ∈ pad width n, isDigitChar c = true := by
  intro c hc
  rcases List.mem_append.1 hc with hc | hc
  · rw [List.eq_of_mem_replicate hc]
    decide
  · exact isDigitChar_of_isDigit (Nat.isDigit_of_mem_toDigits (by decide) (by decide) hc)

theorem pad_ne_nil (width n : Nat) : pad width n ≠ [] :=
  List.append_ne_nil_of_right_ne_nil _ Nat.toDigits_ne_nil

theorem length_pad {width n : Nat} (hwidth : 0 < width) (h : n < 10 ^ width) : (pad width n).length = width := by
  have hlength : (Nat.toDigits 10 n).length ≤ width := (Nat.length_toDigits_le_iff (by decide) hwidth).2 h
  unfold pad
  rw [List.length_append, List.length_replicate]
  omega

theorem value_pad (width n : Nat) : Nat.ofDigitChars 10 (pad width n) 0 = n := by
  unfold pad
  rw [Nat.ofDigitChars_append, Nat.ofDigitChars_replicate_zero, Nat.mul_zero, Nat.ofDigitChars_ten_toDigits]

theorem number_pad {width n : Nat} (hwidth : 0 < width) (h : n < 10 ^ width) (rest : List Char) :
    number width (pad width n ++ rest) = .ok (n, rest) := by
  have hlength := length_pad hwidth h
  rw [number_append (digits_pad width n) (pad_ne_nil width n) (Nat.le_of_eq hlength) (.inl hlength), value_pad]

theorem skipBlank_pad (width n : Nat) (rest : List Char) : skipBlank (pad width n ++ rest) = pad width n ++ rest := by
  obtain ⟨c, cs, hcons⟩ := List.exists_cons_of_ne_nil (pad_ne_nil width n)
  have hdigit := digits_pad width n c (hcons ▸ List.mem_cons_self)
  rw [hcons]
  exact skipBlank_cons (not_isBlank_of_isDigitChar hdigit) _

theorem part_pad {lo hi n : Nat} (hlo : lo ≤ n) (hhi : n ≤ hi) (h : n < 100) (rest : List Char) :
    part lo hi (pad 2 n ++ rest) = .ok (n, rest) := by
  unfold part
  rw [skipBlank_pad, number_pad (by decide) h]
  exact if_pos ⟨hlo, hhi⟩

theorem literal_cons {c : Char} (h : Text.isBlank c = false) (cs : List Char) : literal c (c :: cs) = .ok cs := by
  unfold literal
  rw [skipBlank_cons h]
  exact if_pos rfl

/-! ## The parts of an instant -/

/-- A year with a sign is read to the separator behind it. -/
theorem longNumber_pad {n : Nat} (h : n < 2 ^ 63) (rest : List Char) :
    longNumber (pad 4 n ++ '-' :: rest) = .ok (n, '-' :: rest) := by
  have hnumber : number (pad 4 n ++ '-' :: rest).length (pad 4 n ++ '-' :: rest) = .ok (n, '-' :: rest) := by
    rw [number_append (digits_pad 4 n) (pad_ne_nil 4 n) (by rw [List.length_append]; omega), value_pad]
    refine .inr fun c hc => ?_
    cases hc
    rfl
  unfold longNumber
  rw [hnumber]
  exact if_pos h

theorem ok_bind {ε α β : Type} (a : α) (f : α → Except ε β) : (Except.ok a >>= f) = f a := rfl

theorem year_minus {cs rest : List Char} {n : Nat} (hread : longNumber cs = .ok (n, rest)) (hn : n ≤ 2147483648) :
    year ('-' :: cs) = .ok (-(n : Int), rest) := by
  have hrange : -2147483648 ≤ -(n : Int) ∧ -(n : Int) < 2147483648 := by omega
  unfold year
  rw [skipBlank_cons (by decide)]
  split
  · rename_i heq
    cases heq
    rw [hread, ok_bind]
    dsimp only
    rw [pure_bind]
    exact if_pos hrange
  · rename_i heq
    cases heq
  · rename_i _ hminus _
    exact absurd rfl (hminus cs)

theorem year_plus {cs rest : List Char} {n : Nat} (hread : longNumber cs = .ok (n, rest)) (hn : n < 2147483648) :
    year ('+' :: cs) = .ok (n, rest) := by
  have hrange : -2147483648 ≤ (n : Int) ∧ (n : Int) < 2147483648 := by omega
  unfold year
  rw [skipBlank_cons (by decide)]
  split
  · rename_i heq
    cases heq
  · rename_i heq
    cases heq
    rw [hread, ok_bind]
    dsimp only
    rw [pure_bind]
    exact if_pos hrange
  · rename_i _ _ hplus
    exact absurd rfl (hplus cs)

theorem year_unsigned {n : Nat} (hn : n < 10000) (rest : List Char) : year (pad 4 n ++ rest) = .ok (n, rest) := by
  have hrange : -2147483648 ≤ (n : Int) ∧ (n : Int) < 2147483648 := by omega
  have hread : number 4 (pad 4 n ++ rest) = .ok (n, rest) := number_pad (by decide) hn rest
  have hskip := skipBlank_pad 4 n rest
  obtain ⟨c, cs, hcons⟩ := List.exists_cons_of_ne_nil (pad_ne_nil 4 n)
  have hdigit := digits_pad 4 n c (hcons ▸ List.mem_cons_self)
  rw [hcons, List.cons_append] at hread hskip ⊢
  unfold year
  rw [hskip]
  split
  · rename_i heq
    cases heq
    exact absurd hdigit (by decide)
  · rename_i heq
    cases heq
    exact absurd hdigit (by decide)
  · rw [hread, ok_bind]
    dsimp only
    rw [pure_bind]
    exact if_pos hrange

/-- **A year is read to the separator behind it.** -/
theorem year_yearChars {y : Int} (hlow : -2147483648 ≤ y) (hhigh : y < 2147483648) (rest : List Char) :
    year (yearChars y ++ '-' :: rest) = .ok (y, '-' :: rest) := by
  unfold yearChars
  split
  · rename_i hyear
    rw [year_unsigned (by omega), Int.toNat_of_nonneg hyear.1]
  · split
    · have hy : -(y.natAbs : Int) = y := by omega
      rw [List.cons_append, year_minus (longNumber_pad (by omega) rest) (by omega), hy]
    · have hy : (y.natAbs : Int) = y := by omega
      rw [List.cons_append, year_plus (longNumber_pad (by omega) rest) (by omega), hy]

/-- A fraction of some digits behind a point, up to the zone. -/
theorem fraction_pad {width n : Nat} (hwidth : 0 < width) (hnine : width ≤ 9) (h : n < 10 ^ width) :
    fraction ('.' :: (pad width n ++ ['Z'])) = .ok (n * 10 ^ (9 - width), ['Z']) := by
  have hlength := length_pad hwidth h
  have hnumber : number 9 (pad width n ++ ['Z']) = .ok (n, ['Z']) := by
    rw [number_append (digits_pad width n) (pad_ne_nil width n) (by omega), value_pad]
    refine .inr fun c hc => ?_
    cases hc
    rfl
  have hused : (pad width n ++ ['Z']).length - ['Z'].length = width := by
    rw [List.length_append, hlength, Nat.add_sub_cancel]
  simp only [fraction, hnumber, hused, bind, Except.bind, pure, Except.pure]
  rfl

theorem fraction_fractionChars {n : Nat} (h : n < 1000000000) : fraction (fractionChars n ++ ['Z']) = .ok (n, ['Z']) := by
  unfold fractionChars
  split
  · rename_i hzero
    rw [hzero]
    rfl
  · split
    · rename_i hmillis
      rw [List.cons_append, fraction_pad (by decide) (by decide) (by omega)]
      have hn : n / 1000000 * 10 ^ (9 - 3) = n := by omega
      rw [hn]
    · split
      · rename_i hmicros
        rw [List.cons_append, fraction_pad (by decide) (by decide) (by omega)]
        have hn : n / 1000 * 10 ^ (9 - 6) = n := by omega
        rw [hn]
      · rw [List.cons_append, fraction_pad (by decide) (by decide) (by omega), Nat.sub_self, Nat.pow_zero, Nat.mul_one]

theorem zone_utc : zone ['Z'] = .ok (0, []) := rfl

theorem readChars_fields {y : Int} {mo d hh mi ss n : Nat} {t : Instant} (hy : inYears y = true)
    (hd : (⟨y, mo, d⟩ : Date).Proper) (hhh : hh ≤ 23) (hmi : mi ≤ 59) (hss : ss ≤ 60) (hn : n < 1000000000)
    (hseconds : t.seconds = dayNumber ⟨y, mo, d⟩ * 86400 + (hh * 3600 + mi * 60 + if ss = 60 then 59 else ss : Nat))
    (hnanos : t.nanos = if ss = 60 then n + 1000000000 else n)
    (hrange : firstSecond ≤ t.seconds ∧ t.seconds ≤ lastSecond) :
    readChars (yearChars y ++ '-' :: (pad 2 mo ++ '-' :: (pad 2 d ++ 'T' :: (pad 2 hh ++ ':' :: (pad 2 mi ++
      ':' :: (pad 2 ss ++ (fractionChars n ++ ['Z']))))))) = .ok t := by
  have hyears : minYear ≤ y ∧ y ≤ maxYear := by simpa [inYears] using hy
  have hmonth : daysInMonth y mo ≤ 31 := by
    unfold daysInMonth
    split <;> split <;> decide
  obtain ⟨⟨hmo, hmo'⟩, hday, hday'⟩ := hd
  dsimp only at hmo hmo' hday hday'
  have hdate : ¬(!inYears y || decide (daysInMonth y mo < d)) = true := by
    rw [hy, decide_eq_false (Nat.not_lt.2 hday')]
    exact Bool.false_ne_true
  unfold minYear maxYear at hyears
  unfold readChars
  rw [year_yearChars (by omega) (by omega), ok_bind]
  dsimp only
  rw [literal_cons (by decide), ok_bind]
  rw [part_pad hmo hmo' (by omega), ok_bind]
  dsimp only
  rw [literal_cons (by decide), ok_bind]
  rw [part_pad hday (by omega) (by omega), ok_bind]
  dsimp only
  rw [if_pos (.inr (.inl rfl)), pure_bind, part_pad (by omega) hhh (by omega), ok_bind]
  dsimp only
  rw [literal_cons (by decide), ok_bind, part_pad (by omega) hmi (by omega), ok_bind]
  dsimp only
  rw [literal_cons (by decide), ok_bind, part_pad (by omega) hss (by omega), ok_bind]
  dsimp only
  rw [fraction_fractionChars hn, ok_bind]
  dsimp only
  rw [zone_utc, ok_bind]
  dsimp only
  rw [if_neg (show ¬(!(skipBlank []).isEmpty) = true from Bool.false_ne_true), if_neg hdate,
    if_neg (show ¬86400 ≤ (0 : Int).natAbs by decide), Int.sub_zero, ← hseconds, ← hnanos, if_pos hrange]
  rfl

/-- An instant of the calendar, late in its second only at the end of a minute. -/
structure Proper (t : Instant) : Prop where
  first : firstSecond ≤ t.seconds
  last : t.seconds ≤ lastSecond
  nanos : t.nanos < 1000000000 ∨ t.nanos < 2000000000 ∧ t.seconds % 60 = 59

theorem readChars_chars {t : Instant} (h : t.Proper) : readChars t.chars = .ok t := by
  obtain ⟨hfirst, hlast, hnanos⟩ := h
  have hparts : (t.seconds % 86400).toNat / 3600 * 3600 + (t.seconds % 86400).toNat / 60 % 60 * 60 +
      (t.seconds % 86400).toNat % 60 = t.seconds % 86400 := by omega
  have hseconds : t.seconds = t.seconds / 86400 * 86400 + t.seconds % 86400 := by omega
  have hlate : 1000000000 ≤ t.nanos → (t.seconds % 86400).toNat % 60 = 59 := by omega
  unfold chars
  dsimp only
  simp only [List.append_assoc, List.cons_append]
  refine readChars_fields (inYears_dateOfDay hfirst hlast) (proper_dateOfDay _) (by omega) (by omega) ?_ ?_ ?_ ?_
    ⟨hfirst, hlast⟩
  · split <;> omega
  · split <;> omega
  · rw [dayNumber_dateOfDay]
    split <;> split <;> omega
  · split <;> split <;> omega

/-- **Every such instant is read back from the text it is written as.** -/
theorem read_text {t : Instant} (h : t.Proper) : Instant.read t.text = .ok t := by
  unfold Instant.read text
  rw [String.toList_ofList]
  exact readChars_chars h

/-! ## What can be read -/

theorem ofDigitChars_lt {ds : List Char} (hds : ∀ c ∈ ds, isDigitChar c = true) (n : Nat) :
    Nat.ofDigitChars 10 ds n < (n + 1) * 10 ^ ds.length := by
  induction ds generalizing n with
  | nil => rw [Nat.ofDigitChars_nil, List.length_nil, Nat.pow_zero, Nat.mul_one]; exact Nat.lt_succ_self n
  | cons d ds ih =>
    have hdigit : d.toNat - '0'.toNat ≤ 9 := by
      have hcode := code_of_isDigitChar (hds d List.mem_cons_self)
      exact Nat.sub_le_of_le_add hcode.2
    rw [Nat.ofDigitChars_cons, List.length_cons, Nat.pow_succ', ← Nat.mul_assoc]
    refine Nat.lt_of_lt_of_le (ih (fun c hc => hds c (List.mem_cons_of_mem d hc)) _) (Nat.mul_le_mul_right _ ?_)
    omega

/-- A number is read off as many digits as it may have. -/
theorem number_of_ok {width n : Nat} {cs rest : List Char} (h : number width cs = .ok (n, rest)) :
    ∃ ds, cs = ds ++ rest ∧ ds.length ≤ width ∧ n < 10 ^ ds.length := by
  have hbegins : (cs.take width).takeWhile isDigitChar <+: cs :=
    (List.takeWhile_prefix _).trans (List.take_prefix width cs)
  have hlength : ((cs.take width).takeWhile isDigitChar).length ≤ width :=
    Nat.le_trans (List.takeWhile_prefix _).length_le (List.length_take_le width cs)
  have hdigits : ∀ c ∈ (cs.take width).takeWhile isDigitChar, isDigitChar c = true :=
    List.all_eq_true.1 List.all_takeWhile
  unfold number at h
  dsimp only at h
  generalize (cs.take width).takeWhile isDigitChar = ds at h hbegins hlength hdigits
  split at h
  · cases h
  · cases h
  · cases h
    refine ⟨ds, List.prefix_iff_eq_append.1 hbegins |>.symm, hlength, ?_⟩
    have hlt := ofDigitChars_lt hdigits 0
    rw [Nat.zero_add, Nat.one_mul] at hlt
    exact hlt

theorem part_of_ok {lo hi n : Nat} {cs rest : List Char} (h : part lo hi cs = .ok (n, rest)) : lo ≤ n ∧ n ≤ hi := by
  obtain ⟨⟨m, cs'⟩, -, h⟩ := ok_of_bind h
  dsimp only at h
  split at h
  · rename_i hrange
    cases h
    exact hrange
  · cases h

theorem fraction_of_ok {n : Nat} {cs rest : List Char} (h : fraction cs = .ok (n, rest)) : n < 1000000000 := by
  unfold fraction at h
  split at h
  · rename_i cs
    obtain ⟨⟨m, rest'⟩, hnumber, h⟩ := ok_of_bind h
    obtain ⟨ds, hcs, hlength, hm⟩ := number_of_ok hnumber
    cases h
    have hused : cs.length - rest'.length = ds.length := by
      rw [hcs, List.length_append, Nat.add_sub_cancel]
    have hnine : 10 ^ ds.length * 10 ^ (9 - ds.length) = 1000000000 := by
      rw [← Nat.pow_add, Nat.add_sub_cancel' hlength]
    rw [hused, ← hnine]
    exact Nat.mul_lt_mul_of_pos_right hm (Nat.pow_pos (by decide))
  · cases h
    decide

/-- An offset is a number of minutes. -/
theorem offset_of_ok {s : Int} {cs rest : List Char} (h : offset cs = .ok (s, rest)) : s % 60 = 0 := by
  unfold offset at h
  split at h
  · cases h
  · rename_i c cs
    split at h
    · cases h
      decide
    · dsimp only at h
      split at h
      · cases h
      · obtain ⟨⟨h₁, h₂, cs⟩, -, h⟩ := ok_of_bind h
        obtain ⟨⟨m₁, m₂, cs⟩, -, h⟩ := ok_of_bind h
        dsimp only at h
        split at h
        · cases h
        · cases h
          split <;> omega

theorem zone_of_ok {s : Int} {cs rest : List Char} (h : zone cs = .ok (s, rest)) : s % 60 = 0 := by
  unfold zone at h
  dsimp only at h
  split at h
  · cases h
    rfl
  · exact offset_of_ok h

/-- What stands behind a check that has been passed. -/
theorem ok_of_check {c : Prop} [Decidable c] {ε α β : Type} {e : ε} {f : α → Except ε β} {x : Except ε β} {b : β}
    (h : (if c then throw e >>= f else x) = .ok b) : x = .ok b := by
  split at h
  · cases h
  · exact h

theorem proper_of_readChars {cs : List Char} {t : Instant} (h : readChars cs = .ok t) : t.Proper := by
  -- Of all that has been read only the second, its fraction and the offset matter, and of all checks only the last.
  obtain ⟨⟨y, cs⟩, -, h⟩ := ok_of_bind h
  obtain ⟨cs, -, h⟩ := ok_of_bind h
  obtain ⟨⟨mo, cs⟩, -, h⟩ := ok_of_bind h
  obtain ⟨cs, -, h⟩ := ok_of_bind h
  obtain ⟨⟨d, cs⟩, -, h⟩ := ok_of_bind h
  cases cs with
  | nil => cases h
  | cons c cs =>
    by_cases hseparator : c = 't' ∨ c = 'T' ∨ c = ' '
    · dsimp only at h
      rw [if_pos hseparator] at h
      obtain ⟨cs, -, h⟩ := ok_of_bind h
      obtain ⟨⟨hh, cs⟩, -, h⟩ := ok_of_bind h
      obtain ⟨cs, -, h⟩ := ok_of_bind h
      obtain ⟨⟨mi, cs⟩, -, h⟩ := ok_of_bind h
      obtain ⟨cs, -, h⟩ := ok_of_bind h
      obtain ⟨⟨ss, cs⟩, hss, h⟩ := ok_of_bind h
      obtain ⟨⟨n, cs⟩, hn, h⟩ := ok_of_bind h
      obtain ⟨⟨off, cs⟩, hoff, h⟩ := ok_of_bind h
      replace hss := part_of_ok hss
      replace hn := fraction_of_ok hn
      replace hoff := zone_of_ok hoff
      replace h := ok_of_check (ok_of_check (ok_of_check h))
      by_cases hlast : ss = 60
      · rw [if_pos hlast, if_pos hlast] at h
        split at h
        · rename_i hrange
          cases h
          refine ⟨hrange.1, hrange.2, .inr ⟨?_, ?_⟩⟩
          · exact Nat.add_lt_add_right hn 1000000000
          · dsimp only
            omega
        · cases h
      · rw [if_neg hlast, if_neg hlast] at h
        split at h
        · rename_i hrange
          cases h
          exact ⟨hrange.1, hrange.2, .inl hn⟩
        · cases h
    · dsimp only at h
      rw [if_neg hseparator] at h
      cases h

/-- What has been read is within the calendar, and late in its second only at the end of a minute. -/
theorem proper_of_read {s : String} {t : Instant} (h : Instant.read s = .ok t) : t.Proper :=
  proper_of_readChars h

/-- **The instants that can be read are those that are read back.** -/
theorem proper_iff_read_text {t : Instant} : t.Proper ↔ Instant.read t.text = .ok t :=
  ⟨read_text, proper_of_read⟩

/-- Half a second into a leap second that no minute ends with is written as half a second into the next one. -/
example : Instant.read (Instant.text ⟨0, 1500000000⟩) = .ok ⟨1, 500000000⟩ := by decide +kernel

end PasskeyConsent.Instant

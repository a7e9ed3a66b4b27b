import Mathlib.Tactic.IntervalCases
import PasskeyConsent.Calendar.Instant
/-!
# Days and dates

`dateOfDay` finds the date of a day by an estimate: the days of an era less those that its leap years have too many,
in years of 365 days.  The estimate never falls and is right at both ends of each of the 400 years of an era
(`evened_le`, `evened_ends`), so it is right within them; the date of every day is a date of the calendar, and
the day of that date is the day (`dayNumber_dateOfDay`).
-/
namespace PasskeyConsent.Calendar

/-- The days of an era before one of its years, which begin in March. -/
def yearStart (y : Int) : Int := 365 * y + y / 4 - y / 100

/-- The days before a day of an era, as if every year had 365. -/
def evened (doe : Int) : Int := doe - doe / 1460 + doe / 36524 - doe / 146096

theorem evened_le_succ (a : Int) : evened a ≤ evened (a + 1) := by
  -- A day that ends an era ends a century too, so what is taken off is put on again.
  have hera : a / 146096 = a / 36524 / 4 := by
    rw [Int.ediv_ediv_of_nonneg (by decide)]
    rfl
  have hera' : (a + 1) / 146096 = (a + 1) / 36524 / 4 := by
    rw [Int.ediv_ediv_of_nonneg (by decide)]
    rfl
  unfold evened
  omega

theorem evened_le {a b : Int} (h : a ≤ b) : evened a ≤ evened b := by
  obtain ⟨n, rfl⟩ := Int.le.dest h
  induction n with
  | zero => exact Int.le_of_eq (congrArg evened (by omega))
  | succ n ih =>
    refine Int.le_trans (ih (by omega)) (Int.le_trans (evened_le_succ _) (Int.le_of_eq (congrArg evened ?_)))
    omega

/-- The estimate is right on the first and on the last day of each year of an era. -/
theorem evened_ends : ∀ y : Fin 400, 365 * (y : Int) ≤ evened (yearStart y) ∧
    evened (yearStart (y + 1) - 1) < 365 * ((y : Int) + 1) := by decide +kernel

/-- **The year of a day** of an era, counted from March. -/
theorem year_of_day {doe y : Int} (hlow : 0 ≤ doe) (hhigh : doe ≤ 146096) (hy : y = evened doe / 365) :
    0 ≤ y ∧ y ≤ 399 ∧ yearStart y ≤ doe ∧ (doe < yearStart (y + 1) ∨ y = 399 ∧ doe = 146096) := by
  have hfirst : evened 0 ≤ evened doe := evened_le hlow
  have hlast : evened doe ≤ evened 146096 := evened_le hhigh
  have hzero : evened 0 = 0 := by decide
  have hend : evened 146096 = 145999 := by decide
  have hlower : 0 ≤ y := by omega
  have hupper : y ≤ 399 := by omega
  have hends (z : Int) (h₀ : 0 ≤ z) (h₁ : z ≤ 399) :
      365 * z ≤ evened (yearStart z) ∧ evened (yearStart (z + 1) - 1) < 365 * (z + 1) := by
    obtain ⟨n, rfl⟩ := Int.eq_ofNat_of_zero_le h₀
    exact evened_ends ⟨n, by omega⟩
  refine ⟨hlower, hupper, ?_, ?_⟩
  · by_contra hnot
    have hle : evened doe ≤ evened (yearStart y - 1) := evened_le (by omega)
    by_cases hy₀ : y = 0
    · subst hy₀
      exact hnot hlow
    · have h := (hends (y - 1) (by omega) (by omega)).2
      rw [Int.sub_add_cancel] at h
      omega
  · by_cases hlater : doe < yearStart (y + 1)
    · exact .inl hlater
    · by_cases hyear : y = 399
      · subst hyear
        have hstart : yearStart (399 + 1) = 146096 := by decide
        omega
      · have h := (hends (y + 1) (by omega) (by omega)).1
        have hle : evened (yearStart (y + 1)) ≤ evened doe := evened_le (by omega)
        omega

/-- A year from March on has a day more if the February at its end has. -/
theorem yearStart_succ (y : Int) : yearStart (y + 1) ≤ yearStart y + 366 ∧
    (yearStart (y + 1) = yearStart y + 366 → (y + 1) % 4 = 0 ∧ (y + 1) % 100 ≠ 0) := by
  unfold yearStart
  omega

/-- The days of a year that begins in March, month by month. -/
theorem month_of_day {doy mp : Int} (hlow : 0 ≤ doy) (hhigh : doy ≤ 365) (hmp : mp = (5 * doy + 2) / 153) :
    0 ≤ mp ∧ mp ≤ 11 ∧ 0 ≤ doy - (153 * mp + 2) / 5 ∧ (mp ≤ 9 ↔ doy ≤ 305) := by omega

structure Date.Proper (d : Date) : Prop where
  month : 1 ≤ d.month ∧ d.month ≤ 12
  day : 1 ≤ d.day ∧ d.day ≤ daysInMonth d.year d.month

/-- A day of the calendar by its parts: the year from March in its era, and the month and the day in that year. -/
structure Parts (n era y doy mp : Int) : Prop where
  year : 0 ≤ y ∧ y ≤ 399
  month : 0 ≤ mp ∧ mp ≤ 11
  day : 0 ≤ doy ∧ doy ≤ 365 ∧ 0 ≤ doy - (153 * mp + 2) / 5
  monthOfDay : mp = (5 * doy + 2) / 153
  leap : doy = 365 → (y + 1) % 4 = 0 ∧ ((y + 1) % 100 ≠ 0 ∨ y = 399)
  total : n = era * 146097 + (yearStart y + doy) - 719468

/-- The date of a day that has been taken to parts. -/
def dateOfParts (era y doy mp : Int) : Date :=
  let month := if mp < 10 then mp + 3 else mp - 9
  ⟨y + era * 400 + (if month ≤ 2 then 1 else 0), month.toNat, (doy - (153 * mp + 2) / 5 + 1).toNat⟩

theorem exists_parts (n : Int) : ∃ era y doy mp, Parts n era y doy mp ∧ dateOfDay n = dateOfParts era y doy mp := by
  let era := (n + 719468) / 146097
  let doe := n + 719468 - era * 146097
  let y := evened doe / 365
  let doy := doe - yearStart y
  obtain ⟨hlow, hhigh, hstart, hend⟩ := year_of_day (by omega) (by omega) (show y = evened doe / 365 from rfl)
  have hdoe : doe = n + 719468 - era * 146097 := rfl
  have hdoy : doy = doe - yearStart y := rfl
  have hlast : yearStart (399 + 1) = 146096 := by decide
  obtain ⟨hyear, hleap⟩ := yearStart_succ y
  have hdate : dateOfDay n = dateOfParts era y doy ((5 * doy + 2) / 153) := rfl
  clear_value era doe y doy
  have hlength : doy ≤ 365 ∧ (doy = 365 → (y + 1) % 4 = 0 ∧ ((y + 1) % 100 ≠ 0 ∨ y = 399)) := by
    rcases hend with hend | ⟨rfl, hend⟩
    · omega
    · omega
  obtain ⟨hmlow, hmhigh, hday, -⟩ := month_of_day (by omega) hlength.1 rfl
  exact ⟨era, y, doy, (5 * doy + 2) / 153, ⟨⟨hlow, hhigh⟩, ⟨hmlow, hmhigh⟩, ⟨by omega, hlength.1, hday⟩, rfl, hlength.2,
    by omega⟩, hdate⟩

variable {n era y doy mp : Int}

theorem dayNumber_of_year {d : Date} (hlow : 0 ≤ y) (hhigh : y ≤ 399)
    (hyear : (if d.month ≤ 2 then d.year - 1 else d.year) = y + era * 400) :
    dayNumber d = era * 146097 + (yearStart y + ((153 * (((d.month : Int) + 9) % 12) + 2) / 5 + d.day - 1)) - 719468 := by
  unfold dayNumber yearStart
  dsimp only
  rw [hyear]
  have hera : (y + era * 400) / 400 = era := by omega
  rw [hera, Int.add_sub_cancel]
  omega

theorem Parts.dayNumber_eq (h : Parts n era y doy mp) : dayNumber (dateOfParts era y doy mp) = n := by
  obtain ⟨⟨hlow, hhigh⟩, hmonth, hday, -, -, htotal⟩ := h
  have hback : (((dateOfParts era y doy mp).month : Int) + 9) % 12 = mp := by
    unfold dateOfParts
    dsimp only
    split <;> omega
  have hyear : (if (dateOfParts era y doy mp).month ≤ 2 then (dateOfParts era y doy mp).year - 1
      else (dateOfParts era y doy mp).year) = y + era * 400 := by
    unfold dateOfParts
    dsimp only
    split <;> split <;> omega
  rw [dayNumber_of_year hlow hhigh hyear, hback, htotal]
  unfold dateOfParts
  dsimp only
  omega

theorem Parts.proper (h : Parts n era y doy mp) : (dateOfParts era y doy mp).Proper := by
  obtain ⟨hyear, hmonth, hday, hmp, hleap, -⟩ := h
  refine ⟨?_, ?_⟩
  · unfold dateOfParts
    dsimp only
    split <;> omega
  · obtain ⟨hlow, hhigh⟩ := hmonth
    refine ⟨by unfold dateOfParts; dsimp only; omega, ?_⟩
    interval_cases mp <;> first
      | (show _ ≤ 31; unfold dateOfParts; dsimp only; omega)
      | (show _ ≤ 30; unfold dateOfParts; dsimp only; omega)
      | skip
    show (doy - (153 * 11 + 2) / 5 + 1).toNat ≤ if isLeap (y + era * 400 + 1) then 29 else 28
    by_cases hlast : doy = 365
    · have hisLeap : isLeap (y + era * 400 + 1) = true := by
        obtain ⟨hfour, hcentury⟩ := hleap hlast
        simp only [isLeap, Bool.and_eq_true, Bool.or_eq_true, beq_iff_eq, bne_iff_ne]
        omega
      rw [if_pos hisLeap]
      omega
    · split <;> omega

/-- **The day of the date of a day is the day.** -/
theorem dayNumber_dateOfDay (n : Int) : dayNumber (dateOfDay n) = n := by
  obtain ⟨era, y, doy, mp, parts, hdate⟩ := exists_parts n
  rw [hdate]
  exact parts.dayNumber_eq

theorem proper_dateOfDay (n : Int) : (dateOfDay n).Proper := by
  obtain ⟨era, y, doy, mp, parts, hdate⟩ := exists_parts n
  rw [hdate]
  exact parts.proper

/-- Between the first and the last second of the calendar all years are of it. -/
theorem inYears_dateOfDay {t : Int} (hfirst : firstSecond ≤ t) (hlast : t ≤ lastSecond) :
    inYears (dateOfDay (t / 86400)).year = true := by
  obtain ⟨era, y, doy, mp, ⟨hyear, hmonth, hday, hmp, -, htotal⟩, hdate⟩ := exists_parts (t / 86400)
  have hfirst : -8334601228800 ≤ t := hfirst
  have hlast : t ≤ 8210266876799 := hlast
  rw [hdate]
  unfold dateOfParts inYears minYear maxYear
  unfold yearStart at htotal
  dsimp only
  simp only [Bool.and_eq_true, decide_eq_true_eq]
  -- The first year of the calendar begins with the January of the year from March before, and so the last one ends.
  have hera : -656 ≤ era ∧ era ≤ 655 := by omega
  split <;> omega

end PasskeyConsent.Calendar

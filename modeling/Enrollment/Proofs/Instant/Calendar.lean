import Enrollment.Instant.Calendar
/-!
# Days and dates

The date of a day is on the calendar and leads back to that day. The calendar repeats after 400
years, so the arithmetic is done within one era, and there by centuries: the quotients that find
the year are only linear once the century is fixed.

Results:
1. `dayNumber_dateOf`: the day of the date of a day is that day.
2. `isValid_dateOf`: the date of a day is on the calendar.
3. `year_dateOf`: the days that an instant may lie on have the years that it may lie in.
-/

namespace Enrollment.Calendar

/-! ## One era -/

/-- The year of an era, from March to March, in which a day of the era lies. -/
def yearOfEra (dayOfEra : Int) : Int :=
  (dayOfEra - dayOfEra / 1460 + dayOfEra / 36524 - dayOfEra / 146096) / 365

/-- The day of its year, counted from March, on which a day of an era lies. -/
def dayOfYear (dayOfEra : Int) : Int :=
  dayOfEra - (365 * yearOfEra dayOfEra + yearOfEra dayOfEra / 4 - yearOfEra dayOfEra / 100)

/-- The year of a day leaves a day of that year over, and the 365th only if the year ends with a
leap day. -/
theorem dayOfYear_bounds (dayOfEra : Int) (h0 : 0 ≤ dayOfEra) (h1 : dayOfEra < 146097) :
    0 ≤ yearOfEra dayOfEra ∧ yearOfEra dayOfEra < 400 ∧
    0 ≤ dayOfYear dayOfEra ∧ dayOfYear dayOfEra ≤ 365 ∧
    (dayOfYear dayOfEra = 365 → yearOfEra dayOfEra % 4 = 3 ∧
      (yearOfEra dayOfEra % 100 ≠ 99 ∨ yearOfEra dayOfEra = 399)) := by
  have hyear : yearOfEra dayOfEra =
    (dayOfEra - dayOfEra / 1460 + dayOfEra / 36524 - dayOfEra / 146096) / 365 := rfl
  unfold dayOfYear
  generalize yearOfEra dayOfEra = y at hyear ⊢
  have hcentury : dayOfEra / 36524 = 0 ∨ dayOfEra / 36524 = 1 ∨ dayOfEra / 36524 = 2 ∨
    dayOfEra / 36524 = 3 ∨ dayOfEra / 36524 = 4 := by omega
  have hlast : dayOfEra / 146096 = 0 ∨ dayOfEra / 146096 = 1 := by omega
  have hy : y / 100 = 0 ∨ y / 100 = 1 ∨ y / 100 = 2 ∨ y / 100 = 3 := by
    rcases hcentury with h | h | h | h | h <;> omega
  -- Within a century every quotient but those by four and 365 is a constant.
  rcases hcentury with hc | hc | hc | hc | hc <;> rcases hlast with hl | hl <;>
    rcases hy with hy | hy | hy | hy <;> omega

/-- What the date of a day is made of: its era, the year `y` of the era and the day `d` of that
year, and from them the month `m` and the day of the month `n`; years begin with March. -/
structure Parts (day era y d m n : Int) : Prop where
  day_eq : day = era * 146097 + (365 * y + y / 4 - y / 100 + d) - 719468
  year_nonneg : 0 ≤ y
  year_lt : y < 400
  day_nonneg : 0 ≤ d
  day_le : d ≤ 365
  leap : d = 365 → y % 4 = 3 ∧ (y % 100 ≠ 99 ∨ y = 399)
  month_eq : m = (5 * d + 2) / 153
  dayOfMonth_eq : n = d - (153 * m + 2) / 5 + 1

/-- The date of a month and a day of a year that begins with March. -/
def dateFromMarch (year month day : Int) : Date :=
  let m := if month < 10 then month + 3 else month - 9
  ⟨if m ≤ 2 then year + 1 else year, m.toNat, day.toNat⟩

theorem dateOf_parts (day : Int) : ∃ era y d m n, Parts day era y d m n ∧
    dateOf day = dateFromMarch (y + era * 400) m n := by
  let e := (day + 719468) % 146097
  obtain ⟨hy0, hy1, hd0, hd1, hleap⟩ :=
    dayOfYear_bounds e (by omega) (by omega)
  have hd : dayOfYear e = e - (365 * yearOfEra e + yearOfEra e / 4 - yearOfEra e / 100) := rfl
  exact ⟨(day + 719468) / 146097, yearOfEra e, dayOfYear e, _, _,
    ⟨by omega, hy0, hy1, hd0, hd1, hleap, rfl, rfl⟩, rfl⟩

/-! ## Back to the day -/

theorem dayNumber_dateFromMarch {day era y d m n : Int} (h : Parts day era y d m n) :
    dayNumber (dateFromMarch (y + era * 400) m n) = day := by
  obtain ⟨hday, hy0, hy1, hd0, hd1, -, hm, hn⟩ := h
  have hera : (y + era * 400) / 400 = era := by omega
  have hyear : (y + era * 400) % 400 = y := by omega
  have hn0 : ((n.toNat : Nat) : Int) = n := by omega
  unfold dateFromMarch dayNumber
  by_cases hlt : m < 10
  · have h2 : ¬ m + 3 ≤ 2 := by omega
    have h3 : ¬ (m + 3).toNat ≤ 2 := by omega
    have h12 : ((((m + 3).toNat + 9) % 12 : Nat) : Int) = m := by omega
    simp only [hlt, h2, h3, ↓reduceIte, h12, hera, hyear, hn0]
    omega
  · have h2 : m - 9 ≤ 2 := by omega
    have h3 : (m - 9).toNat ≤ 2 := by omega
    have h12 : ((((m - 9).toNat + 9) % 12 : Nat) : Int) = m := by omega
    simp only [hlt, h2, h3, ↓reduceIte, h12, Int.add_sub_cancel, hera, hyear, hn0]
    omega

theorem dayNumber_dateOf (day : Int) : dayNumber (dateOf day) = day := by
  obtain ⟨era, y, d, m, n, h, hdate⟩ := dateOf_parts day
  rw [hdate]
  exact dayNumber_dateFromMarch h

/-! ## On the calendar -/

theorem isLeap_of_parts {day era y d m n : Int} (h : Parts day era y d m n) (hd : d = 365) :
    isLeap (y + era * 400 + 1) = true := by
  obtain ⟨h4, h100⟩ := h.leap hd
  have := h.year_lt
  simp only [isLeap, Bool.and_eq_true, beq_iff_eq, Bool.or_eq_true, bne_iff_ne]
  omega

theorem isValid_dateFromMarch {day era y d m n : Int} (h : Parts day era y d m n) :
    (dateFromMarch (y + era * 400) m n).isValid = true := by
  have hleap := isLeap_of_parts h
  obtain ⟨-, -, -, hd0, hd1, -, hm, hn⟩ := h
  have hmonth : m = 0 ∨ m = 1 ∨ m = 2 ∨ m = 3 ∨ m = 4 ∨ m = 5 ∨ m = 6 ∨ m = 7 ∨ m = 8 ∨ m = 9 ∨
    m = 10 ∨ m = 11 := by omega
  unfold dateFromMarch Date.isValid
  rcases hmonth with rfl | rfl | rfl | rfl | rfl | rfl | rfl | rfl | rfl | rfl | rfl | rfl <;>
    simp [monthLength] <;> (try split) <;> try omega
  -- February of a year without a leap day: day 365 would make it a leap year.
  next hnot =>
    have hd : d ≠ 365 := fun hd => hnot (hleap hd)
    omega

theorem isValid_dateOf (day : Int) : (dateOf day).isValid = true := by
  obtain ⟨era, y, d, m, n, h, hdate⟩ := dateOf_parts day
  rw [hdate]
  exact isValid_dateFromMarch h

theorem year_dateOf {day : Int} (h0 : firstDay ≤ day) (h1 : day ≤ lastDay) :
    firstYear ≤ (dateOf day).year ∧ (dateOf day).year ≤ lastYear := by
  obtain ⟨era, y, d, m, n, ⟨hday, hy0, hy1, hd0, hd1, -, hm, -⟩, hdate⟩ := dateOf_parts day
  unfold firstDay at h0
  unfold lastDay at h1
  simp only [hdate, dateFromMarch, firstYear, lastYear]
  have hera : -656 ≤ era ∧ era ≤ 655 := by omega
  -- The first era is entered in January of its year 256, the last one left before January of 142.
  have hfirst : era = -656 → 256 ≤ y ∧ (y = 256 → 306 ≤ d) := by
    rintro rfl
    have hy : 256 ≤ y := by omega
    exact ⟨hy, by rintro rfl; omega⟩
  have hlast : era = 655 → y ≤ 142 ∧ (y = 142 → d < 306) := by
    rintro rfl
    have hy : y ≤ 142 := by omega
    exact ⟨hy, by rintro rfl; omega⟩
  by_cases hlt : m < 10
  · have h2 : ¬ m + 3 ≤ 2 := by omega
    simp only [hlt, h2, ↓reduceIte]
    omega
  · have h2 : m - 9 ≤ 2 := by omega
    simp only [hlt, h2, ↓reduceIte]
    omega

end Enrollment.Calendar

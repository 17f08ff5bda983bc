import DocTemplate.Proofs.Calendar.Days

/-!
# Years and days

The days of a year lie between the first of January and the first of January of the next year. So
the year of a day number can be told by comparing it with first days, without taking it apart.

## Main definitions

* `Date.firstDay` — the day number of the first of January of a year.

## Main statements

* `Date.year_ofDayNumber_lt_iff` — the years of day numbers before the first day of a year.
* `Date.year_ofDayNumber_between_iff` — the day numbers of some years in a row.
-/

namespace DocTemplate.Date

variable {d : Date}

/-- The day number of the first of January of a year. -/
def firstDay (year : Int) : Int :=
  dayNumber ⟨year, 1, 1⟩

/-- Years are counted from March on, so that January belongs to the year before. -/
theorem firstDay_eq (year : Int) :
    firstDay year = 365 * (year - 1) + (year - 1) / 4 - (year - 1) / 100 + (year - 1) / 400 + 306 +
      epoch := by
  simp only [firstDay, dayNumber, daysOfEra]
  norm_num
  omega

theorem firstDay_mono {y z : Int} (h : y ≤ z) : firstDay y ≤ firstDay z := by
  rw [firstDay_eq, firstDay_eq]
  omega

theorem firstDay_le_dayNumber (hmonth : 1 ≤ d.month) (hday : 1 ≤ d.day) :
    firstDay d.year ≤ d.dayNumber := by
  rw [firstDay_eq]
  simp only [dayNumber, daysOfEra]
  split_ifs <;> omega

theorem dayNumber_lt_firstDay (hmonth : d.month ≤ 12) (hday : d.day ≤ 31) :
    d.dayNumber < firstDay (d.year + 1) := by
  rw [firstDay_eq]
  simp only [dayNumber, daysOfEra]
  split_ifs <;> omega

/-- A day lies in a year before another one exactly if it is before the first day of that. -/
theorem year_ofDayNumber_lt_iff (n year : Int) :
    (ofDayNumber n).year < year ↔ n < firstDay year := by
  obtain ⟨⟨hmonth, hmonth'⟩, hday, hday'⟩ := ofDayNumber_bounds n
  have hlow := firstDay_le_dayNumber hmonth hday
  have hhigh := dayNumber_lt_firstDay hmonth' (hday'.trans (daysInMonth_le _ _))
  rw [dayNumber_ofDayNumber] at hlow hhigh
  constructor
  · intro h
    exact hhigh.trans_le (firstDay_mono (by omega))
  · intro h
    by_contra hle
    have := firstDay_mono (Int.not_lt.mp hle)
    omega

/-- The days of some years in a row. -/
theorem year_ofDayNumber_between_iff (n low high : Int) :
    low ≤ (ofDayNumber n).year ∧ (ofDayNumber n).year ≤ high ↔
      firstDay low ≤ n ∧ n < firstDay (high + 1) := by
  have hlow := year_ofDayNumber_lt_iff n low
  have hhigh := year_ofDayNumber_lt_iff n (high + 1)
  omega

end DocTemplate.Date

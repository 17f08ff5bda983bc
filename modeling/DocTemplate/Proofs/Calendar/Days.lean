import DocTemplate.Calendar.Date
import Mathlib.Tactic.IntervalCases

/-!
# Days and dates

An era of 400 years is taken apart into centuries, cycles of four years, years and days. The last
year of a cycle is a day longer, the last cycle of a century a day shorter unless the century is the
last one of the era. With these parts the formulas of the calendar become linear.

## Main definitions

* `Date.EraDay` — a day of an era by century, cycle, year and day.

## Main statements

* `Date.dayNumber_ofDayNumber` — the date of a day number has this day number.
* `Date.isValid_ofDayNumber` — the date of a day number exists if its year is in range.
-/

namespace DocTemplate.Date

/-- A day of an era by its century, the cycle of four years, the year and the day in it. -/
structure EraDay where
  century : Int
  cycle : Int
  year : Int
  day : Int
  century_bounds : 0 ≤ century ∧ century ≤ 3
  cycle_bounds : 0 ≤ cycle ∧ cycle ≤ 24
  year_bounds : 0 ≤ year ∧ year ≤ 3
  day_bounds : 0 ≤ day ∧ day ≤ 365
  leap : day = 365 → year = 3 ∧ (cycle ≤ 23 ∨ century = 3)

namespace EraDay

/-- The days since the start of the era. -/
def number (d : EraDay) : Int :=
  36524 * d.century + 1461 * d.cycle + 365 * d.year + d.day

/-- The years since the start of the era. -/
def yearNumber (d : EraDay) : Int :=
  100 * d.century + 4 * d.cycle + d.year

theorem number_bounds (d : EraDay) : 0 ≤ d.number ∧ d.number < daysOfEra := by
  have := d.leap
  have := d.century_bounds
  have := d.cycle_bounds
  have := d.year_bounds
  have := d.day_bounds
  simp only [number, daysOfEra]
  omega

theorem exists_number_eq {n : Int} (h : 0 ≤ n) (hlt : n < daysOfEra) :
    ∃ d : EraDay, d.number = n := by
  unfold daysOfEra at hlt
  obtain ⟨century, rest, hn, hcentury, hrest⟩ : ∃ century rest : Int,
      n = 36524 * century + rest ∧ (0 ≤ century ∧ century ≤ 3) ∧
        (0 ≤ rest ∧ rest ≤ 36524 ∧ (rest = 36524 → century = 3)) := by
    by_cases hlast : n = 146096
    · exact ⟨3, 36524, by omega⟩
    · exact ⟨n / 36524, n % 36524, by omega⟩
  obtain ⟨year, day, hcycle, hyear, hday⟩ : ∃ year day : Int,
      rest % 1461 = 365 * year + day ∧ (0 ≤ year ∧ year ≤ 3) ∧
        (0 ≤ day ∧ day ≤ 365 ∧ (day = 365 → year = 3 ∧ rest % 1461 = 1460)) := by
    by_cases hlast : rest % 1461 = 1460
    · exact ⟨3, 365, by omega⟩
    · exact ⟨rest % 1461 / 365, rest % 1461 % 365, by omega⟩
  exact ⟨⟨century, rest / 1461, year, day, by omega, by omega, by omega, by omega, by omega⟩, by
    simp only [number]
    omega⟩

/-- The year of a day of the era. -/
theorem yearNumber_eq (d : EraDay) :
    (d.number - d.number / 1460 + d.number / 36524 - d.number / 146096) / 365 = d.yearNumber := by
  obtain ⟨century, cycle, year, day, hcentury, hcycle, hyear, hday, hleap⟩ := d
  simp only [number, yearNumber]
  generalize hrest : 1461 * cycle + 365 * year + day = rest
  generalize hn : 36524 * century + 1461 * cycle + 365 * year + day = n
  have hcenturies : n / 36524 - n / 146096 = century := by
    obtain hlast | hlast : rest = 36524 ∧ century = 3 ∨ 0 ≤ rest ∧ rest < 36524 := by omega
    · obtain rfl : n = 146096 := by omega
      omega
    · omega
  -- A cycle has 1461 days, so that 1460 of them are counted one cycle too many near its end.
  have hcycles : n / 1460 = 25 * century + cycle ∨
      n / 1460 = 25 * century + cycle + 1 ∧ 1095 < 365 * year + day := by omega
  omega

/-- The day of the year of a day of the era. -/
theorem number_sub (d : EraDay) :
    d.number - (365 * d.yearNumber + d.yearNumber / 4 - d.yearNumber / 100) = d.day := by
  obtain ⟨century, cycle, year, day, hcentury, hcycle, hyear, hday, hleap⟩ := d
  simp only [number, yearNumber]
  have hcycles : (100 * century + 4 * cycle + year) / 4 = 25 * century + cycle := by omega
  have hcenturies : (100 * century + 4 * cycle + year) / 100 = century := by omega
  omega

/-- Only a year that a leap year follows has a day 365, since years are counted from March on. -/
theorem isLeapYear_of_day_eq (d : EraDay) (h : d.day = 365) (era : Int) :
    isLeapYear (d.yearNumber + 400 * era + 1) = true := by
  obtain ⟨hyear, hcycle⟩ := d.leap h
  have := d.century_bounds
  have := d.cycle_bounds
  simp only [isLeapYear, yearNumber, Bool.and_eq_true, Bool.or_eq_true, beq_iff_eq, bne_iff_ne]
  omega

/-- The month of the year, counted from March on. -/
def month (d : EraDay) : Int :=
  (5 * d.day + 2) / 153

/-- The day of the month, from 1. -/
def monthDay (d : EraDay) : Int :=
  d.day - (153 * d.month + 2) / 5 + 1

theorem month_bounds (d : EraDay) : 0 ≤ d.month ∧ d.month ≤ 11 := by
  have := d.day_bounds
  simp only [month]
  omega

/-- The date of a day in an era. -/
def date (d : EraDay) (era : Int) : Date :=
  let year := d.yearNumber + 400 * era
  if d.month < 10 then ⟨year, (d.month + 3).toNat, d.monthDay.toNat⟩
  else ⟨year + 1, (d.month - 9).toNat, d.monthDay.toNat⟩

theorem ofDayNumber_eq (d : EraDay) (era : Int) :
    ofDayNumber (era * daysOfEra + d.number + epoch) = d.date era := by
  have hbounds := d.number_bounds
  have hera : (era * daysOfEra + d.number) / daysOfEra = era := by
    rw [Int.mul_comm, Int.mul_add_ediv_left _ _ (by decide),
      Int.ediv_eq_zero_of_lt hbounds.1 hbounds.2, Int.add_zero]
  have hday : (era * daysOfEra + d.number) % daysOfEra = d.number := by
    rw [Int.mul_comm, Int.mul_add_emod_self_left, Int.emod_eq_of_lt hbounds.1 hbounds.2]
  simp only [ofDayNumber, Int.add_sub_cancel, hera, hday, yearNumber_eq, number_sub]
  rfl

theorem isLeapYear_or_day_lt (d : EraDay) (era : Int) :
    isLeapYear (d.yearNumber + 400 * era + 1) = true ∨ d.day ≤ 364 := by
  by_cases h : d.day = 365
  · exact .inl (d.isLeapYear_of_day_eq h era)
  · have := d.day_bounds
    exact .inr (by omega)

/-- The day of the month is one that the month has. -/
theorem monthDay_bounds (d : EraDay) (era : Int) :
    1 ≤ d.monthDay ∧ d.monthDay ≤ daysInMonth (d.date era).year (d.date era).month := by
  have hday := d.day_bounds
  have hleap := d.isLeapYear_or_day_lt era
  obtain ⟨hlow, hhigh⟩ := d.month_bounds
  have hmonth : (5 * d.day + 2) / 153 = d.month := rfl
  simp only [date, monthDay]
  generalize d.month = month at hlow hhigh hmonth
  interval_cases month
  -- February is the last month; only there the year matters.
  case «11» =>
    simp only [daysInMonth]
    obtain h | h := hleap
    · simp [h]
      omega
    · split <;> simp <;> omega
  all_goals
    simp [daysInMonth]
    omega

theorem month_date_bounds (d : EraDay) (era : Int) :
    1 ≤ (d.date era).month ∧ (d.date era).month ≤ 12 := by
  have := d.month_bounds
  simp only [date]
  split <;> dsimp only <;> omega

theorem yearNumber_bounds (d : EraDay) : 0 ≤ d.yearNumber ∧ d.yearNumber < 400 := by
  have := d.century_bounds
  have := d.cycle_bounds
  have := d.year_bounds
  simp only [yearNumber]
  omega

/-- The date of a day in an era has the number of this day. -/
theorem dayNumber_date (d : EraDay) (era : Int) :
    (d.date era).dayNumber = era * daysOfEra + d.number + epoch := by
  have hyear := d.yearNumber_bounds
  have hsub := d.number_sub
  have hmonth := d.month_bounds
  have hday := (d.monthDay_bounds era).1
  have hera : (d.yearNumber + 400 * era) / 400 = era := by omega
  have hyearOfEra : (d.yearNumber + 400 * era) % 400 = d.yearNumber := by omega
  have hdayOfYear : (153 * d.month + 2) / 5 + d.monthDay - 1 = d.day := by
    simp only [monthDay]
    omega
  by_cases h : d.month < 10
  · have hfirst : ¬(d.month + 3).toNat ≤ 2 := by omega
    have hindex : ((d.month + 3).toNat : Int) - 3 = d.month := by omega
    simp only [date, if_pos h, dayNumber, if_neg hfirst, hindex, hera, hyearOfEra,
      Int.toNat_of_nonneg (by omega : 0 ≤ d.monthDay), hdayOfYear]
    omega
  · have hlast : (d.month - 9).toNat ≤ 2 := by omega
    have hindex : ((d.month - 9).toNat : Int) + 9 = d.month := by omega
    simp only [date, if_neg h, dayNumber, if_pos hlast, hindex, Int.add_sub_cancel, hera,
      hyearOfEra, Int.toNat_of_nonneg (by omega : 0 ≤ d.monthDay), hdayOfYear]
    omega

end EraDay

/-- Every day number is that of a day in an era. -/
theorem exists_eraDay (n : Int) :
    ∃ (era : Int) (d : EraDay), n = era * daysOfEra + d.number + epoch := by
  have hpos : (0 : Int) < daysOfEra := by decide
  obtain ⟨d, hd⟩ := EraDay.exists_number_eq (Int.emod_nonneg (n - epoch) (ne_of_gt hpos))
    (Int.emod_lt_of_pos (n - epoch) hpos)
  refine ⟨(n - epoch) / daysOfEra, d, ?_⟩
  rw [hd, Int.ediv_mul_add_emod, Int.sub_add_cancel]

/-- The date of a day number has this day number. -/
theorem dayNumber_ofDayNumber (n : Int) : (ofDayNumber n).dayNumber = n := by
  obtain ⟨era, d, rfl⟩ := exists_eraDay n
  rw [d.ofDayNumber_eq, d.dayNumber_date]

/-- The month of a date of a day number exists, and the day is one of the month. -/
theorem ofDayNumber_bounds (n : Int) :
    (1 ≤ (ofDayNumber n).month ∧ (ofDayNumber n).month ≤ 12) ∧ 1 ≤ (ofDayNumber n).day ∧
      (ofDayNumber n).day ≤ daysInMonth (ofDayNumber n).year (ofDayNumber n).month := by
  obtain ⟨era, d, rfl⟩ := exists_eraDay n
  obtain ⟨hfirst, hlast⟩ := d.monthDay_bounds era
  have hday : (d.date era).day = d.monthDay.toNat := by
    simp only [EraDay.date]
    split <;> rfl
  rw [d.ofDayNumber_eq, hday]
  exact ⟨d.month_date_bounds era, by omega, by omega⟩

/-- The date of a day number exists if its year is in range. -/
theorem isValid_ofDayNumber {n : Int} (hmin : minYear ≤ (ofDayNumber n).year)
    (hmax : (ofDayNumber n).year ≤ maxYear) : (ofDayNumber n).isValid = true := by
  obtain ⟨⟨hmonth, hmonth'⟩, hday, hday'⟩ := ofDayNumber_bounds n
  simp [isValid, hmin, hmax, hmonth, hmonth', hday, hday']

theorem daysInMonth_le (year : Int) (month : Nat) : daysInMonth year month ≤ 31 := by
  unfold daysInMonth
  split
  · split <;> decide
  · split <;> decide

end DocTemplate.Date

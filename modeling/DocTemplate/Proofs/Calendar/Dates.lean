import DocTemplate.Proofs.Calendar.Days
import DocTemplate.Proofs.Calendar.Fields

/-!
# The texts of dates

A date is written as year, month and day, and a year beyond four digits has a sign. The readers that
put up with fields of any width find the date again in such a text, whatever the year is, and stop
behind it. The reader of full time stamps does not, since a date alone is no time stamp.

## Main definitions

* `Date.text` — the date as written in documents.

## Main statements

* `Instant.looseDate_text` — the date is read back.
* `Instant.readStamp?_date_text` — a date is no time stamp.
-/

namespace DocTemplate

/-- The date as written in documents: year, month and day with dashes between them. -/
def Date.text (d : Date) : List Char :=
  Instant.yearText d.year ++ '-' :: (Instant.padded 2 d.month ++ '-' :: Instant.padded 2 d.day)

namespace Instant

variable {d : Date} {rest : List Char}

/-! ### Years -/

theorem yearText_of_plain {year : Int} (h : 0 ≤ year ∧ year ≤ 9999) :
    yearText year = padded 4 year.toNat :=
  if_pos h

/-- Every year that has no plain text has a sign. -/
theorem exists_sign {year : Int} (h : ¬(0 ≤ year ∧ year ≤ 9999)) :
    ∃ sign, (sign = '+' ∧ 0 ≤ year ∨ sign = '-' ∧ year < 0) ∧
      yearText year = sign :: padded 4 year.natAbs := by
  rw [yearText, if_neg h]
  split_ifs with hnegative
  · exact ⟨'-', .inr ⟨rfl, hnegative⟩, rfl⟩
  · exact ⟨'+', .inl ⟨rfl, Int.not_lt.mp hnegative⟩, rfl⟩

/-- A year is read up to the dash behind it. -/
theorem looseYear_yearText (year : Int) (rest : List Char) :
    looseYear (yearText year ++ '-' :: rest) = some (year, '-' :: rest) := by
  have hdigits : ∀ n, ∀ c ∈ padded 4 n, c.isDigit := fun _ _ hc => isDigit_of_mem_padded hc
  have hread : ∀ n width, (padded 4 n).length ≤ width →
      digitsUpTo width (padded 4 n ++ '-' :: rest) = some (n, '-' :: rest) := by
    intro n width hwidth
    rw [digitsUpTo_append (padded_ne_nil 4 n) (hdigits n) (by simp) hwidth, natOfDigits_padded]
  by_cases hplain : 0 ≤ year ∧ year ≤ 9999
  · have hlength := length_padded (n := year.toNat) (by decide : 0 < 4) (by omega)
    have hfirst : ∀ c ∈ (padded 4 year.toNat ++ '-' :: rest).head?, c.isDigit := by
      rw [List.head?_append_of_ne_nil _ (padded_ne_nil 4 _)]
      exact fun c hc => hdigits _ c (List.mem_of_mem_head? hc)
    rw [yearText_of_plain hplain, looseYear, trimStart_append (padded_ne_nil 4 _) (hdigits _)]
    -- A digit is no sign.
    split
    · rename_i htext
      exact absurd (hfirst '-' (by rw [htext]; rfl)) (by decide)
    · rename_i htext
      exact absurd (hfirst '+' (by rw [htext]; rfl)) (by decide)
    · rw [hread _ _ hlength.le, Option.map_some]
      simp only [Int.toNat_of_nonneg hplain.1]
  · obtain ⟨sign, hsign, htext⟩ := exists_sign hplain
    have hall := hread year.natAbs (padded 4 year.natAbs ++ '-' :: rest).length (by simp)
    rw [htext, List.cons_append]
    obtain ⟨rfl, hnonneg⟩ | ⟨rfl, hnegative⟩ := hsign
    · have hplus := congrArg (Option.map fun p : Nat × List Char => ((p.1 : Int), p.2)) hall
      rwa [Option.map_some, Int.natAbs_of_nonneg hnonneg] at hplus
    · have hminus := congrArg (Option.map fun p : Nat × List Char => (-(p.1 : Int), p.2)) hall
      rwa [Option.map_some, Int.ofNat_natAbs_of_nonpos hnegative.le, Int.neg_neg] at hminus

theorem exists_yearText_eq_cons (year : Int) :
    ∃ first rest, yearText year = first :: rest ∧ Text.isBlank first = false := by
  unfold yearText
  split_ifs
  · obtain ⟨first, rest, heq⟩ := List.exists_cons_of_ne_nil (padded_ne_nil 4 year.toNat)
    have hdigit : first.isDigit := isDigit_of_mem_padded (heq ▸ List.mem_cons_self)
    exact ⟨first, rest, heq, Text.isBlank_of_isDigit hdigit⟩
  · exact ⟨_, _, rfl, by decide⟩
  · exact ⟨_, _, rfl, by decide⟩

/-! ### Dates -/

/-- The month and the day of a day number fit into their fields. -/
theorem date_fields_lt (t : Instant) : t.date.month < 10 ^ 2 ∧ t.date.day < 10 ^ 2 := by
  obtain ⟨⟨-, hmonth⟩, -, hday⟩ := Date.ofDayNumber_bounds t.dayNumber
  have hlength := Date.daysInMonth_le (Date.ofDayNumber t.dayNumber).year
    (Date.ofDayNumber t.dayNumber).month
  simp only [date]
  omega

section Fields

variable (hmonth : d.month < 10 ^ 2) (hday : d.day < 10 ^ 2)

include hmonth hday

/-- A date is read back up to what follows it. -/
theorem looseDate_text (hrest : ∀ c ∈ rest.head?, c.isDigit = false) :
    looseDate (d.text ++ rest) = some (d, rest) := by
  have hfield := looseField_padded_cons hmonth (by decide : '-'.isDigit = false)
    (padded 2 d.day ++ rest)
  rw [looseDate, Date.text]
  simp only [List.append_assoc, List.cons_append, looseYear_yearText, mark_self, hfield,
    looseField_padded hday hrest, Option.bind_eq_bind, Option.bind_some]

/-- A date is no time stamp: it ends in front of the time, or it starts with a sign. -/
theorem readStamp?_date_text : readStamp? d.text = none := by
  by_cases hplain : 0 ≤ d.year ∧ d.year ≤ 9999
  · have hyear : d.year.toNat < 10 ^ 4 := by omega
    have hlast := digitsOf_padded (by decide) hday []
    rw [List.append_nil] at hlast
    rw [Date.text, yearText_of_plain hplain, readStamp?, digitsOf_padded (by decide) hyear]
    dsimp only [Option.bind_eq_bind, Option.bind_some]
    rw [mark_self, Option.bind_some, digitsOf_padded (by decide) hmonth, Option.bind_some]
    dsimp only
    rw [mark_self, Option.bind_some, hlast]
    rfl
  · obtain ⟨sign, hsign, htext⟩ := exists_sign hplain
    have hdigit : sign.isDigit = false := by
      obtain ⟨rfl, -⟩ | ⟨rfl, -⟩ := hsign <;> rfl
    have hnone : ∀ rest, digitsOf 4 (sign :: rest) = none := by
      simp [digitsOf, hdigit]
    rw [Date.text, htext, List.cons_append, readStamp?, hnone]
    rfl

end Fields

end Instant

end DocTemplate

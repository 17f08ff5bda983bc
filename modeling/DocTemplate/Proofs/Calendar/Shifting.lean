import DocTemplate.Function.Standard
import DocTemplate.Proofs.Calendar.Stamps

/-!
# Shifted dates

The functions that shift a date answer with its text. A call around them reads this text again,
which gives the shifted instant as long as its year has four digits; for other years the text is no
date, and the call around takes the present instead.

## Main definitions

* `CalendarFunctions.Answers` — what a function answers whatever the present is.

## Main statements

* `CalendarFunctions.shifted_read_back` — when the text of a shifted date is read back.
-/

namespace DocTemplate.CalendarFunctions

variable {now : Instant} {date count result : Value} {name : String} {unit : Nat}

/-- The functions that shift a date, with the seconds of their units. -/
def shifts : List (String × Nat) :=
  [("addDays", 86400), ("addHours", 3600)]

theorem standard?_shift (now : Instant) (h : (name, unit) ∈ shifts) :
    Builtin.standard? now name = some (.binary (addUnits now unit)) := by
  simp only [shifts, List.mem_cons, Prod.mk.injEq, List.not_mem_nil, or_false] at h
  obtain ⟨rfl, rfl⟩ | ⟨rfl, rfl⟩ := h
  · rfl
  · rfl

theorem instantOf_string {s : String} {t : Instant} (h : Instant.parse s = .ok t) :
    instantOf now (.string s) = t := by
  simp only [instantOf, h]

/-- A function answers a call with a value whatever the present is. -/
def Answers (name : String) (args : List Value) (v : Value) : Prop :=
  ∀ now, (Builtin.standard? now name).map (·.call args) = some (.ok v)

/-- A shift that succeeds answers with the text of the shifted instant. -/
theorem call_shift_eq_ok (hname : (name, unit) ∈ shifts) {s : String} {t : Instant}
    (hs : Instant.parse s = .ok t) :
    (Builtin.standard? now name).map (·.call [.string s, count]) = some (.ok result) ↔
      ∃ u, t.add? (count.toInteger * unit) = some u ∧
        result = .string (String.ofList u.text) := by
  have hcall : (Builtin.binary (addUnits now unit)).call [.string s, count] =
      addUnits now unit (.string s) count := rfl
  rw [standard?_shift now hname, Option.map_some, hcall, addUnits, instantOf_string hs]
  cases t.add? (count.toInteger * unit) with
  | none => simp
  | some u => simp [eq_comm]

/-- The text of an instant stands for it if its year is plain, and for the present otherwise. -/
theorem instantOf_text {u : Instant} (hu : u.WellFormed) (present : Instant) :
    instantOf present (.string (String.ofList u.text)) = if u.HasPlainYear then u else present := by
  rw [instantOf, Instant.parse_text hu]
  split_ifs <;> rfl

/-- The text of a shifted date is read back as the very instant that was written, its fraction and
its leap second included, if the year of this instant is plain. Otherwise it is no date, and what is
called with it takes the present. -/
theorem shifted_read_back (hname : (name, unit) ∈ shifts) {s : String} {t : Instant}
    (hs : Instant.parse s = .ok t)
    (hcall : (Builtin.standard? now name).map (·.call [.string s, count]) = some (.ok result)) :
    ∃ u text, t.add? (count.toInteger * unit) = some u ∧ result = .string text ∧
      text = String.ofList u.text ∧
      Instant.parse text = (if u.HasPlainYear then .ok u else .error (.unrecognised text)) ∧
      ∀ present, instantOf present result = if u.HasPlainYear then u else present := by
  obtain ⟨u, hu, rfl⟩ := (call_shift_eq_ok hname hs).mp hcall
  have hformed := ((Instant.wellFormed_of_parse hs).add? hu).1
  exact ⟨u, _, hu, rfl, rfl, Instant.parse_text hformed, instantOf_text hformed⟩

/-- A leap second with a fraction comes back when no hours are added to it. -/
theorem shifted_read_back_leap_second :
    Instant.parse "2016-12-31T23:59:60.25Z" = .ok ⟨17166, 86399, 1250000000⟩ ∧
      (Builtin.standard? ⟨0, 0, 0⟩ "addHours").map
        (·.call [.string "2016-12-31T23:59:60.25Z", .number 0]) =
          some (.ok (.string "2016-12-31T23:59:60.250Z")) ∧
      Instant.parse "2016-12-31T23:59:60.250Z" = .ok ⟨17166, 86399, 1250000000⟩ := by
  have hname : ("addHours", 3600) ∈ shifts := by decide
  have hs : Instant.parse "2016-12-31T23:59:60.25Z" = .ok ⟨17166, 86399, 1250000000⟩ := by
    decide +kernel
  have hadd : Instant.add? ⟨17166, 86399, 1250000000⟩ ((Value.number 0).toInteger * (3600 : Nat)) =
      some ⟨17166, 86399, 1250000000⟩ := by
    decide +kernel
  have htext : String.ofList (Instant.text ⟨17166, 86399, 1250000000⟩) =
      "2016-12-31T23:59:60.250Z" := by
    decide +kernel
  have hcall : (Builtin.standard? ⟨0, 0, 0⟩ "addHours").map
      (·.call [.string "2016-12-31T23:59:60.25Z", .number 0]) =
        some (.ok (.string "2016-12-31T23:59:60.250Z")) :=
    (call_shift_eq_ok hname hs).mpr ⟨_, hadd, congrArg _ htext.symm⟩
  obtain ⟨u, text, hu, hresult, -, hread, -⟩ := shifted_read_back hname hs hcall
  obtain rfl := Option.some.inj (hadd.symm.trans hu)
  cases hresult
  exact ⟨hs, hcall, hread.trans (if_pos (by decide))⟩

/-- The day after the last one with a plain year is no date for a call around it. -/
theorem shifted_lost_behind_year_9999 :
    Instant.parse "9999-12-31" = .ok ⟨2932896, 0, 0⟩ ∧
      (Builtin.standard? ⟨0, 0, 0⟩ "addDays").map (·.call [.string "9999-12-31", .number 1]) =
        some (.ok (.string "+10000-01-01T00:00:00Z")) ∧
      Instant.parse "+10000-01-01T00:00:00Z" = .error (.unrecognised "+10000-01-01T00:00:00Z") ∧
      instantOf ⟨0, 0, 0⟩ (.string "+10000-01-01T00:00:00Z") = ⟨0, 0, 0⟩ := by
  have hname : ("addDays", 86400) ∈ shifts := by decide
  have hs : Instant.parse "9999-12-31" = .ok ⟨2932896, 0, 0⟩ := by
    decide +kernel
  have hadd : Instant.add? ⟨2932896, 0, 0⟩ ((Value.number 1).toInteger * (86400 : Nat)) =
      some ⟨2932897, 0, 0⟩ := by
    decide +kernel
  have htext : String.ofList (Instant.text ⟨2932897, 0, 0⟩) = "+10000-01-01T00:00:00Z" := by
    decide +kernel
  exact ⟨hs, (call_shift_eq_ok hname hs).mpr ⟨_, hadd, congrArg _ htext.symm⟩,
    by decide +kernel, by decide +kernel⟩

end DocTemplate.CalendarFunctions

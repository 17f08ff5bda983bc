import DocTemplate.Proofs.Calendar.Shifting

/-!
# Dates written without a pattern

A date that is written without a pattern is a date again, over the whole range of years. Two of the
four forms of dates have the year in front, but only the one without a time of day fits such a text,
so that it stands for the start of its day.

## Main definitions

* `Instant.startOfDay` — the midnight at which the day of an instant starts.
* `CalendarFunctions.dateParts` — the functions that answer with a part of a date.

## Main statements

* `Instant.parse_date_text` — the text of a date is read as the start of its day.
* `CalendarFunctions.default_rendering_is_date` — what holds of a date written without a pattern.
-/

namespace DocTemplate

namespace Instant

variable {t : Instant}

/-- The midnight at which the day of an instant starts. -/
def startOfDay (t : Instant) : Instant :=
  ⟨t.dayNumber, 0, 0⟩

@[simp] theorem date_startOfDay (t : Instant) : t.startOfDay.date = t.date := rfl

theorem ofParts?_startOfDay (h : t.inRange = true) :
    ofParts? t.date 0 0 0 0 0 = some t.startOfDay := by
  have hformed : t.startOfDay.WellFormed := by
    constructor <;> simp [startOfDay, daySeconds, secondNanos, isLeap]
  have hrange : t.startOfDay.inRange = true := h
  have hclock : t.startOfDay.hour = 0 ∧ t.startOfDay.minute = 0 ∧ t.startOfDay.clockSecond = 0 ∧
      t.startOfDay.fraction = 0 := by
    simp [hour, minute, clockSecond, fraction, startOfDay]
  obtain ⟨hhour, hminute, hsecond, hfraction⟩ := hclock
  have hparts := ofParts?_date hformed hrange
  rwa [hhour, hminute, hsecond, hfraction, date_startOfDay] at hparts

/-- Nothing is trimmed from the text of a date. -/
theorem trim_date_text (d : Date) : Text.trim d.text = d.text := by
  obtain ⟨first, behind, hyear, hfirst⟩ := exists_yearText_eq_cons d.year
  obtain ⟨before, last, hday⟩ : ∃ before last, padded 2 d.day = before ++ [last] :=
    ⟨_, _, (List.dropLast_append_getLast (padded_ne_nil 2 d.day)).symm⟩
  have hdigit : last.isDigit := isDigit_of_mem_padded (by rw [hday]; simp)
  have htext : d.text =
      first :: (behind ++ '-' :: (padded 2 d.month ++ '-' :: before)) ++ [last] := by
    simp [Date.text, hyear, hday]
  rw [htext]
  exact Text.trim_eq_self hfirst (Text.isBlank_of_isDigit hdigit)

/-- The text of a date is read as the start of its day. -/
theorem parse_date_text (h : t.inRange = true) :
    parse (String.ofList t.date.text) = .ok t.startOfDay := by
  obtain ⟨hmonth, hday⟩ := date_fields_lt t
  have hdate : looseDate t.date.text = some (t.date, []) := by
    rw [← List.append_nil t.date.text]
    exact looseDate_text hmonth hday (by simp)
  have hdateTime : readDateTime? t.date.text = none := by
    rw [readDateTime?, hdate]
    rfl
  have hplain : readDate? t.date.text = some t.startOfDay := by
    rw [readDate?, hdate]
    exact ofParts?_startOfDay h
  have hread : readTrimmed? t.date.text = some t.startOfDay := by
    rw [readTrimmed?, readStamp?_date_text hmonth hday, hdateTime, hplain]
    rfl
  simp only [parse, String.toList_ofList, trim_date_text, hread]

end Instant

namespace CalendarFunctions

variable {s : String} {t : Instant} {name : String} {part : Date → Int}

/-- The functions that answer with a part of a date. -/
def dateParts : List (String × (Date → Int)) :=
  [("getYear", fun d => d.year), ("getMonth", fun d => d.month), ("getDay", fun d => d.day)]

theorem answers_part (hname : (name, part) ∈ dateParts) (hs : Instant.parse s = .ok t) :
    Answers name [.string s] (ofInt (part t.date)) := by
  intro now
  have hstandard : Builtin.standard? now name =
      some (.total1 fun date => ofInt (part (instantOf now date).date)) := by
    simp only [dateParts, List.mem_cons, Prod.mk.injEq, List.not_mem_nil, or_false] at hname
    obtain ⟨rfl, rfl⟩ | ⟨rfl, rfl⟩ | ⟨rfl, rfl⟩ := hname <;> rfl
  have hcall : (Builtin.total1 fun date => ofInt (part (instantOf now date).date)).call
      [.string s] = .ok (ofInt (part (instantOf now (.string s)).date)) := rfl
  rw [hstandard, Option.map_some, hcall, instantOf_string hs]

/-- A pattern that is not given writes the text of the date. -/
theorem render_defaultPattern (t : Instant) :
    DatePattern.render defaultPattern t = String.ofList t.date.text := by
  have hpieces : DatePattern.pieces defaultPattern.toList = [.field .year, .character '-',
      .field .monthTwoDigits, .character '-', .field .dayTwoDigits] := by
    decide +kernel
  simp [DatePattern.render, hpieces, DatePattern.Piece.render, DateField.render, Date.text]

theorem answers_formatDateTime (hs : Instant.parse s = .ok t) :
    Answers "formatDateTime" [.string s] (.string (String.ofList t.date.text)) := by
  intro now
  have hcall : (Builtin.standard? now "formatDateTime").map (·.call [.string s]) =
      some (.ok (.string (DatePattern.render defaultPattern (instantOf now (.string s))))) := rfl
  rw [hcall, instantOf_string hs, render_defaultPattern]

/-- A date that is read, whatever its year, is written without a pattern as a text that is read as
the start of the same day in UTC. Year, month and day of both are the same, and the text is written
as itself. -/
theorem default_rendering_is_date (hs : Instant.parse s = .ok t) :
    ∃ text, Answers "formatDateTime" [.string s] (.string text) ∧
      Instant.parse text = .ok t.startOfDay ∧
      (∀ name part, (name, part) ∈ dateParts →
        Answers name [.string s] (ofInt (part t.date)) ∧
        Answers name [.string text] (ofInt (part t.date))) ∧
      Answers "formatDateTime" [.string text] (.string text) := by
  have htext := Instant.parse_date_text (Instant.inRange_of_parse hs)
  exact ⟨_, answers_formatDateTime hs, htext,
    fun name part hname => ⟨answers_part hname hs, answers_part (t := t.startOfDay) hname htext⟩,
    answers_formatDateTime (t := t.startOfDay) htext⟩

/-- An offset that leads into the year before the year 0. -/
theorem default_rendering_is_date_before_year_zero :
    Instant.parse "0000-01-01T00:00:00.5+00:01" = .ok ⟨-719529, 86340, 500000000⟩ ∧
      ∃ text, Answers "formatDateTime" [.string "0000-01-01T00:00:00.5+00:01"] (.string text) ∧
        Instant.parse text = .ok ⟨-719529, 0, 0⟩ ∧
        Answers "getYear" [.string text] (ofInt (-1)) ∧
        Answers "getDay" [.string "0000-01-01T00:00:00.5+00:01"] (ofInt 31) ∧
        Answers "formatDateTime" [.string text] (.string text) := by
  have hs : Instant.parse "0000-01-01T00:00:00.5+00:01" = .ok ⟨-719529, 86340, 500000000⟩ := by
    decide +kernel
  obtain ⟨text, hformat, hread, hparts, hagain⟩ := default_rendering_is_date hs
  have hyear := (hparts "getYear" (fun d => d.year) (.head _)).2
  have hday := (hparts "getDay" (fun d => d.day) (.tail _ (.tail _ (.head _)))).1
  have hdate : Instant.date ⟨-719529, 86340, 500000000⟩ = ⟨-1, 12, 31⟩ := by decide
  rw [hdate] at hyear hday
  exact ⟨hs, text, hformat, hread, hyear, hday, hagain⟩

end CalendarFunctions

end DocTemplate

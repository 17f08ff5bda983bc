import DocTemplate.Proofs.Calendar.Dates
import DocTemplate.Proofs.Calendar.Years

/-!
# The texts of instants

An instant is read back from its text exactly if its year has four digits and no sign. The reader of
full time stamps knows no other years, and the other readers, which do, stop in front of the `Z`.

## Main definitions

* `Instant.WellFormed` — the instants that a date and a time of day can make.
* `Instant.HasPlainYear` — an instant whose year is written with four digits and no sign.
* `Instant.Parts` — what the readers find in a text.

## Main statements

* `Instant.exists_parts_of_parse` — what is read has been put together from parts.
* `Instant.wellFormed_of_parse`, `Instant.inRange_of_parse` — only such instants are read.
* `Instant.parse_text` — which texts of instants are read back.
-/

namespace DocTemplate.Instant

variable {t u : Instant} {text rest : List Char}

/-- An instant within its day. Only the last second of a minute is followed by a leap second. -/
structure WellFormed (t : Instant) : Prop where
  second_lt : t.second < daySeconds
  nanos_lt : t.nanos < 2 * secondNanos
  leap : t.isLeap = true → t.second % 60 = 59

/-- An instant whose year is written with four digits and no sign. -/
def HasPlainYear (t : Instant) : Prop :=
  0 ≤ t.date.year ∧ t.date.year ≤ 9999

instance (t : Instant) : Decidable t.HasPlainYear :=
  inferInstanceAs (Decidable (_ ∧ _))

theorem isLeap_iff : t.isLeap = true ↔ secondNanos ≤ t.nanos :=
  decide_eq_true_iff

theorem inRange_iff :
    t.inRange = true ↔ Date.minYear ≤ t.date.year ∧ t.date.year ≤ Date.maxYear := by
  simp [inRange]

/-! ### Instants that are read -/

/-- The parts of a text that describes an instant. An offset is less than a day, and only a year of
four digits comes with one. -/
structure Parts where
  date : Date
  hour : Nat
  minute : Nat
  second : Nat
  nanos : Nat
  offset : Int
  nanos_lt : nanos < secondNanos
  offset_bounds : offset % 60 = 0 ∧ offset.natAbs < daySeconds
  year_bounds : offset = 0 ∨ 0 ≤ date.year ∧ date.year ≤ 9999

/-- The instant that is put together from its parts. -/
def Parts.instant? (p : Parts) : Option Instant :=
  ofParts? p.date p.hour p.minute p.second p.nanos p.offset

theorem bounds_of_offsetPart {offset : Int} (h : offsetPart text = some (offset, rest)) :
    offset % 60 = 0 ∧ offset.natAbs < daySeconds := by
  unfold offsetPart at h
  split at h
  · cases h
  · rename_i c behind
    by_cases hz : c = 'Z' ∨ c = 'z'
    · rw [if_pos hz] at h
      cases h
      decide
    rw [if_neg hz] at h
    split at h
    · simp only [Option.bind_eq_bind, Option.bind_eq_some_iff] at h
      obtain ⟨⟨hours, _⟩, -, _, -, ⟨minutes, _⟩, -, h⟩ := h
      split at h
      · cases h
        unfold daySeconds
        split <;> omega
      · cases h
    · cases h

theorem exists_parts_of_readStamp? (h : readStamp? text = some t) :
    ∃ p : Parts, p.instant? = some t := by
  unfold readStamp? at h
  obtain ⟨⟨year, _⟩, hyear, h⟩ := Option.bind_eq_some_iff.mp h
  -- The other fields of the date, and the mark in front of the time of day.
  iterate 4 obtain ⟨_, -, h⟩ := Option.bind_eq_some_iff.mp h
  dsimp only at h
  split at h
  on_goal 1 => split at h
  all_goals
    obtain ⟨_, -, h⟩ := Option.bind_eq_some_iff.mp h
    iterate 5 obtain ⟨_, -, h⟩ := Option.bind_eq_some_iff.mp h
    obtain ⟨⟨nanos, _⟩, hnanos, h⟩ := Option.bind_eq_some_iff.mp h
    obtain ⟨⟨offset, _⟩, hoffset, h⟩ := Option.bind_eq_some_iff.mp h
    dsimp only at h
    split_ifs at h
    have hfour : year < 10 ^ 4 := lt_of_digitsOf hyear
    exact ⟨⟨_, _, _, _, nanos, offset, lt_of_fractionPart hnanos, bounds_of_offsetPart hoffset,
      .inr ⟨by simp, by dsimp only; omega⟩⟩, h⟩

theorem exists_parts_of_readDateTime? (h : readDateTime? text = some t) :
    ∃ p : Parts, p.instant? = some t := by
  simp only [readDateTime?, Option.bind_eq_bind, Option.bind_eq_some_iff] at h
  obtain ⟨_, -, _, -, _, -, _, -, _, -, _, -, _, -, ⟨nanos, _⟩, hnanos, h⟩ := h
  split_ifs at h
  exact ⟨⟨_, _, _, _, nanos, 0, lt_of_fractionPart hnanos, by decide, .inl rfl⟩, h⟩

/-- The parts of a text that gives a date only. -/
def Parts.ofDate (date : Date) : Parts :=
  ⟨date, 0, 0, 0, 0, 0, by decide, by decide, .inl rfl⟩

theorem exists_parts_of_readDate? (h : readDate? text = some t) :
    ∃ p : Parts, p.instant? = some t := by
  simp only [readDate?, Option.bind_eq_bind, Option.bind_eq_some_iff] at h
  obtain ⟨_, -, h⟩ := h
  split_ifs at h
  exact ⟨.ofDate _, h⟩

theorem exists_parts_of_readSlashDate? (h : readSlashDate? text = some t) :
    ∃ p : Parts, p.instant? = some t := by
  simp only [readSlashDate?, Option.bind_eq_bind, Option.bind_eq_some_iff] at h
  obtain ⟨_, -, _, -, _, -, _, -, _, -, h⟩ := h
  split_ifs at h
  exact ⟨.ofDate _, h⟩

/-- What is read has been put together from parts. -/
theorem exists_parts_of_parse {s : String} (h : parse s = .ok t) :
    ∃ p : Parts, p.instant? = some t := by
  unfold parse at h
  dsimp only at h
  split at h
  · rename_i hread
    cases h
    simp only [readTrimmed?, Option.orElse_eq_or, Option.or_eq_some_iff] at hread
    obtain hread | ⟨-, hread | ⟨-, hread | ⟨-, hread⟩⟩⟩ := hread
    · exact exists_parts_of_readStamp? hread
    · exact exists_parts_of_readDateTime? hread
    · exact exists_parts_of_readDate? hread
    · exact exists_parts_of_readSlashDate? hread
  · cases h

theorem Parts.wellFormed {p : Parts} (h : p.instant? = some t) : t.WellFormed := by
  have hnanos := p.nanos_lt
  have hoffset := p.offset_bounds
  unfold secondNanos at hnanos
  unfold instant? ofParts? at h
  split at h
  · cases h
    by_cases hleap : p.second = 60
    · simp only [hleap, ofSeconds, if_true]
      constructor <;> simp only [isLeap_iff, daySeconds, secondNanos]
      · omega
      · omega
      · omega
    · simp only [hleap, ofSeconds, if_false]
      constructor <;> simp only [isLeap_iff, daySeconds, secondNanos]
      · omega
      · omega
      · omega
  · cases h

/-- An instant is in range if its day is one of the days of the years in range. -/
theorem inRange_iff_dayNumber : t.inRange = true ↔
    Date.firstDay Date.minYear ≤ t.dayNumber ∧ t.dayNumber < Date.firstDay (Date.maxYear + 1) :=
  inRange_iff.trans (Date.year_ofDayNumber_between_iff _ _ _)

/-- An offset leads at most to the day before or behind, which is in range, since only years far
from the ends of the range come with one. -/
theorem Parts.inRange {p : Parts} (h : p.instant? = some t) : t.inRange = true := by
  have hoffset := p.offset_bounds
  unfold instant? ofParts? at h
  split at h
  · rename_i hparts
    obtain ⟨hvalid, hhour, hminute, hsecond⟩ := hparts
    simp only [Date.isValid, Bool.and_eq_true, decide_eq_true_eq] at hvalid
    obtain ⟨⟨⟨⟨⟨hmin, hmax⟩, hmonth⟩, hmonth'⟩, hday⟩, hday'⟩ := hvalid
    have hlow := Date.firstDay_le_dayNumber hmonth hday
    have hhigh := Date.dayNumber_lt_firstDay hmonth' (hday'.trans (Date.daysInMonth_le _ _))
    cases h
    rw [inRange_iff_dayNumber]
    simp only [ofSeconds, daySeconds] at hoffset ⊢
    obtain hzero | ⟨hfirst, hlast⟩ := p.year_bounds
    · have hleast := Date.firstDay_mono hmin
      have hgreatest := Date.firstDay_mono (Int.add_le_add_right hmax 1)
      split_ifs <;> omega
    · have hleast := Date.firstDay_mono hfirst
      have hgreatest := Date.firstDay_mono (Int.add_le_add_right hlast 1)
      have hbounds : Date.firstDay Date.minYear < Date.firstDay 0 ∧
          Date.firstDay (9999 + 1) < Date.firstDay (Date.maxYear + 1) := by decide
      split_ifs <;> omega
  · cases h

/-- Only well-formed instants are read. -/
theorem wellFormed_of_parse {s : String} (h : parse s = .ok t) : t.WellFormed :=
  have ⟨_, hparts⟩ := exists_parts_of_parse h
  Parts.wellFormed hparts

/-- Only instants in range are read. -/
theorem inRange_of_parse {s : String} (h : parse s = .ok t) : t.inRange = true :=
  have ⟨_, hparts⟩ := exists_parts_of_parse h
  Parts.inRange hparts

/-! ### Instants that are shifted -/

/-- Seconds within the day stay in it. -/
theorem ofSeconds_of_lt {second : Nat} (h : second < daySeconds) (dayNumber : Int) (nanos : Nat) :
    ofSeconds dayNumber second nanos = ⟨dayNumber, second, nanos⟩ := by
  have hday : (second : Int) / daySeconds = 0 :=
    Int.ediv_eq_zero_of_lt (by omega) (by omega)
  have htime : (second : Int) % daySeconds = second :=
    Int.emod_eq_of_lt (by omega) (by omega)
  rw [ofSeconds, hday, htime, Int.add_zero, Int.toNat_natCast]

theorem wellFormed_ofSeconds {dayNumber seconds : Int} {nanos : Nat} (h : nanos < secondNanos) :
    (ofSeconds dayNumber seconds nanos).WellFormed := by
  unfold secondNanos at h
  constructor <;> simp only [ofSeconds, isLeap_iff, daySeconds, secondNanos] <;> omega

/-- A shift leaves every leap second unless it is by nothing. -/
theorem WellFormed.shift (h : t.WellFormed) (seconds : Int) : (t.shift seconds).WellFormed := by
  have hfraction : t.fraction < secondNanos := Nat.mod_lt _ (by decide)
  unfold Instant.shift
  split_ifs with hforth hback
  · exact wellFormed_ofSeconds hfraction
  · exact wellFormed_ofSeconds hfraction
  · by_cases hleap : t.isLeap = true
    · obtain rfl : seconds = 0 := by grind
      rwa [Int.add_zero, ofSeconds_of_lt h.second_lt]
    · exact wellFormed_ofSeconds (Nat.lt_of_not_le (mt isLeap_iff.mpr hleap))

theorem WellFormed.add? {seconds : Int} (ht : t.WellFormed) (h : t.add? seconds = some u) :
    u.WellFormed ∧ u.inRange = true := by
  unfold Instant.add? at h
  split_ifs at h with hrange
  cases h
  exact ⟨ht.shift seconds, hrange.2⟩

/-! ### Texts of instants -/

/-- The date and the time of day of an instant make this instant. -/
theorem ofParts?_date (ht : t.WellFormed) (hrange : t.inRange = true) :
    ofParts? t.date t.hour t.minute t.clockSecond t.fraction 0 = some t := by
  obtain ⟨hsecond, hnanos, hleap⟩ := ht
  have hvalid : t.date.isValid = true := by
    obtain ⟨hmin, hmax⟩ := inRange_iff.mp hrange
    exact Date.isValid_ofDayNumber hmin hmax
  have hday : t.date.dayNumber = t.dayNumber := Date.dayNumber_ofDayNumber _
  have hstart := ofSeconds_of_lt hsecond t.dayNumber t.nanos
  simp only [isLeap_iff, daySeconds, secondNanos] at hsecond hnanos hleap
  have hclock : t.hour < 24 ∧ t.minute < 60 ∧ t.clockSecond ≤ 60 := by
    simp only [hour, minute, clockSecond, secondNanos]
    omega
  have hseconds : (t.hour : Int) * 3600 + t.minute * 60 +
      (if t.clockSecond = 60 then 59 else t.clockSecond : Nat) = t.second := by
    split_ifs with hsixty <;> simp only [hour, minute, clockSecond, secondNanos] at hsixty ⊢ <;>
      omega
  have hfraction : (if t.clockSecond = 60 then t.fraction + secondNanos else t.fraction) =
      t.nanos := by
    split_ifs with hsixty <;> simp only [clockSecond, fraction, secondNanos] at hsixty ⊢ <;> omega
  rw [ofParts?, if_pos ⟨hvalid, hclock⟩]
  simp only [hday, hfraction, Int.sub_zero]
  rw [hseconds, hstart]

theorem text_eq (t : Instant) :
    t.text = t.date.text ++ 'T' :: (padded 2 t.hour ++ ':' :: (padded 2 t.minute ++ ':' ::
      (padded 2 t.clockSecond ++ (fractionText t.fraction ++ ['Z'])))) := by
  simp [text, Date.text]

/-- The numbers of a time of day fit into their fields. -/
theorem WellFormed.clock_fields_lt (ht : t.WellFormed) :
    t.hour < 10 ^ 2 ∧ t.minute < 10 ^ 2 ∧ t.clockSecond < 10 ^ 2 := by
  obtain ⟨hsecond, hnanos, -⟩ := ht
  simp only [daySeconds, secondNanos] at hsecond hnanos
  simp only [hour, minute, clockSecond, secondNanos]
  omega

theorem fraction_lt (t : Instant) : t.fraction < secondNanos :=
  Nat.mod_lt _ (by decide)

theorem fractionPart_fraction (t : Instant) :
    fractionPart (fractionText t.fraction ++ ['Z']) = some (t.fraction, ['Z']) :=
  fractionPart_fractionText t.fraction_lt (by simp)

theorem HasPlainYear.inRange (h : t.HasPlainYear) : t.inRange = true := by
  rw [inRange_iff, Date.minYear, Date.maxYear]
  unfold HasPlainYear at h
  omega

/-- The reader of full time stamps reads a text with a plain year back. -/
theorem readStamp?_text (ht : t.WellFormed) (hyear : t.HasPlainYear) :
    readStamp? t.text = some t := by
  have hlt : t.date.year.toNat < 10 ^ 4 := by
    unfold HasPlainYear at hyear
    omega
  obtain ⟨hmonth, hday⟩ := date_fields_lt t
  obtain ⟨hhour, hminute, hsecond⟩ := ht.clock_fields_lt
  have hfraction := fractionPart_fraction t
  have hoffset : offsetPart ['Z'] = some (0, []) := rfl
  rw [text_eq, Date.text, yearText_of_plain hyear]
  simp [readStamp?, mark, digitsOf_padded (by decide) hlt, digitsOf_padded (by decide) hmonth,
    digitsOf_padded (by decide) hday, digitsOf_padded (by decide) hhour,
    digitsOf_padded (by decide) hminute, digitsOf_padded (by decide) hsecond, hfraction, hoffset,
    Int.toNat_of_nonneg hyear.1, ofParts?_date ht hyear.inRange]

/-- The lenient readers stop in front of the `Z` of a text with a signed year. -/
theorem readTrimmed?_text_of_sign (ht : t.WellFormed) (hyear : ¬t.HasPlainYear) :
    readTrimmed? t.text = none := by
  obtain ⟨sign, hsign, hyearText⟩ := exists_sign hyear
  obtain ⟨hmonth, hday⟩ := date_fields_lt t
  obtain ⟨hhour, hminute, hsecond⟩ := ht.clock_fields_lt
  have hdigit : sign.isDigit = false := by
    obtain ⟨rfl, -⟩ | ⟨rfl, -⟩ := hsign <;> rfl
  have hblank : Text.isBlank sign = false := by
    obtain ⟨rfl, -⟩ | ⟨rfl, -⟩ := hsign <;> decide
  have hdate : looseDate t.text = some (t.date, 'T' :: (padded 2 t.hour ++ ':' ::
      (padded 2 t.minute ++ ':' :: (padded 2 t.clockSecond ++
        (fractionText t.fraction ++ ['Z']))))) := by
    rw [text_eq]
    exact looseDate_text hmonth hday (by simp)
  have hhead : ∀ c ∈ (fractionText t.fraction ++ ['Z']).head?, c.isDigit = false := by
    unfold fractionText
    split_ifs <;> simp
  have hfraction := fractionPart_fraction t
  have hstamp : readStamp? t.text = none := by
    rw [text_eq, Date.text, hyearText, List.cons_append]
    simp [readStamp?, digitsOf, hdigit]
  have hdateTime : readDateTime? t.text = none := by
    simp [readDateTime?, hdate, mark, looseField_padded_cons hhour,
      looseField_padded_cons hminute, looseField_padded hsecond hhead, hfraction]
  have hplainDate : readDate? t.text = none := by
    simp [readDate?, hdate]
  have hslash : readSlashDate? t.text = none := by
    rw [text_eq, Date.text, hyearText, List.cons_append]
    simp [readSlashDate?, looseField, Text.trimStart, digitsUpTo, hblank, hdigit]
  simp [readTrimmed?, hstamp, hdateTime, hplainDate, hslash]

/-- Nothing is trimmed from the text of an instant. -/
theorem trim_text (t : Instant) : Text.trim t.text = t.text := by
  obtain ⟨first, rest, hyear, hfirst⟩ := exists_yearText_eq_cons t.date.year
  have hlast : Text.isBlank 'Z' = false := by decide
  dsimp only [text]
  rw [hyear]
  exact Text.trim_eq_self hfirst hlast

/-- The text of an instant is read back if its year is plain, and otherwise it is no date. -/
theorem parse_text (ht : t.WellFormed) :
    parse (String.ofList t.text) = if t.HasPlainYear then .ok t
      else .error (.unrecognised (String.ofList t.text)) := by
  rw [parse, String.toList_ofList, trim_text]
  split_ifs with hyear
  · simp [readTrimmed?, readStamp?_text ht hyear]
  · simp [readTrimmed?_text_of_sign ht hyear]

end DocTemplate.Instant

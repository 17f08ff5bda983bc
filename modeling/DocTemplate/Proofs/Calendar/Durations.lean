import DocTemplate.Proofs.Calendar.Shifting
import DocTemplate.Proofs.Number.Doubles
import DocTemplate.Proofs.Number.Integers

/-!
# Durations

Away from leap seconds the steps between instants add up, and the difference of two instants that
are days apart is the number of these days. The functions on dates write what they have shifted and
read it again, so that they obey the same laws as long as the years are plain.

## Main definitions

* `CalendarFunctions.written` — an instant as the functions answer with it.

## Main statements

* `Instant.shift_shift` — steps add up.
* `Instant.daysUntil_shift_days` — a difference undoes a shift.
* `Instant.daysUntil_swap` — a difference taken the other way round is the negative one.
* `CalendarFunctions.shifts_and_differences_agree` — the laws of the functions.
-/

namespace DocTemplate.Instant

variable {t u : Instant} {seconds : Int}

/-! ### Steps away from leap seconds -/

theorem shift_of_not_isLeap (h : t.isLeap = false) (seconds : Int) :
    t.shift seconds = ofSeconds t.dayNumber (t.second + seconds) t.nanos := by
  simp [shift, h]

theorem isLeap_shift (h : t.isLeap = false) (seconds : Int) :
    (t.shift seconds).isLeap = false := by
  rw [shift_of_not_isLeap h]
  exact h

/-- Steps add up. -/
theorem shift_shift (h : t.isLeap = false) (first second : Int) :
    (t.shift first).shift second = t.shift (first + second) := by
  rw [shift_of_not_isLeap (isLeap_shift h first), shift_of_not_isLeap h, shift_of_not_isLeap h]
  simp only [ofSeconds, daySeconds, mk.injEq, and_true]
  omega

/-- Whole days lead to the same time of another day. -/
theorem shift_days (ht : t.WellFormed) (h : t.isLeap = false) (days : Int) :
    t.shift (days * daySeconds) = ⟨t.dayNumber + days, t.second, t.nanos⟩ := by
  have hsecond := ht.second_lt
  rw [shift_of_not_isLeap h]
  simp only [ofSeconds, daySeconds, mk.injEq, and_true] at hsecond ⊢
  omega

/-- A step between two instants in range is far shorter than the longest one that is allowed. -/
theorem natAbs_lt_of_inRange (ht : t.WellFormed) (hleap : t.isLeap = false) (h : t.inRange = true)
    (hshift : (t.shift seconds).inRange = true) : seconds.natAbs < 2 ^ 53 := by
  have hsecond := ht.second_lt
  have hrange : -2 ^ 30 < Date.firstDay Date.minYear ∧
      Date.firstDay (Date.maxYear + 1) < 2 ^ 30 := by decide
  rw [inRange_iff_dayNumber] at h hshift
  rw [shift_of_not_isLeap hleap] at hshift
  simp only [ofSeconds, daySeconds] at hsecond hshift
  omega

/-- A step that stays in range is allowed. -/
theorem add?_eq_some (ht : t.WellFormed) (hleap : t.isLeap = false) (h : t.inRange = true)
    (hshift : (t.shift seconds).inRange = true) : t.add? seconds = some (t.shift seconds) := by
  have hshort := natAbs_lt_of_inRange ht hleap h hshift
  have hallowed : 2 ^ 53 ≤ maxShift.natAbs := by decide
  rw [add?, if_pos ⟨by omega, hshift⟩]

/-! ### Differences -/

/-- The difference to an instant some days later is the number of these days. -/
theorem daysUntil_shift_days (ht : t.WellFormed) (h : t.isLeap = false) (days : Int) :
    t.daysUntil (t.shift (days * daySeconds)) = days := by
  have hclock : t.clockDifference ⟨t.dayNumber + days, t.second, t.nanos⟩ = 0 := by
    simp [clockDifference]
  have hnanos : (daySeconds * secondNanos : Int) ≠ 0 := by decide
  rw [shift_days ht h, daysUntil, hclock, Int.add_zero, add_sub_cancel_left,
    Int.mul_tdiv_cancel _ hnanos]

theorem clockDifference_swap (t u : Instant) : u.clockDifference t = -t.clockDifference u := by
  simp only [clockDifference, secondNanos]
  split_ifs <;> omega

/-- A difference taken the other way round is the negative one, also between leap seconds. -/
theorem daysUntil_swap (t u : Instant) : u.daysUntil t = -t.daysUntil u := by
  rw [daysUntil, daysUntil, clockDifference_swap, ← Int.neg_tdiv]
  congr 1
  rw [Int.neg_add, ← Int.neg_mul, Int.neg_sub]

end DocTemplate.Instant

namespace DocTemplate.CalendarFunctions

variable {s : String} {t u : Instant} {name : String} {unit : Nat} {n : Int}

/-- An instant as the functions answer with it. -/
def written (t : Instant) : Value :=
  .string (String.ofList t.text)

theorem toInteger_ofInt (h : n.natAbs < 2 ^ 53) : (ofInt n).toInteger = n := by
  simpa [Value.toInteger, ofInt, Value.toNumber] using Number.toInt64_ofInt h

/-- The difference of two texts that are read as instants does not depend on the present. -/
theorem answers_dateDiff {a b : String} (ha : Instant.parse a = .ok t)
    (hb : Instant.parse b = .ok u) :
    Answers "dateDiff" [.string a, .string b] (ofInt (t.daysUntil u)) := by
  intro now
  have hcall : (Builtin.standard? now "dateDiff").map (·.call [.string a, .string b]) =
      some (.ok (ofInt ((instantOf now (.string a)).daysUntil (instantOf now (.string b))))) := rfl
  rw [hcall, instantOf_string ha, instantOf_string hb]

theorem unit_pos (h : (name, unit) ∈ shifts) : 0 < unit := by
  have hpos : ∀ entry ∈ shifts, 0 < entry.2 := by decide
  exact hpos _ h

/-- A shift to a plain year is carried out. -/
theorem answers_shift (hname : (name, unit) ∈ shifts) (hs : Instant.parse s = .ok t)
    (hleap : t.isLeap = false) (hyear : (t.shift (n * unit)).HasPlainYear) :
    Answers name [.string s, ofInt n] (written (t.shift (n * unit))) := by
  intro now
  have ht := Instant.wellFormed_of_parse hs
  have hrange := Instant.inRange_of_parse hs
  have hshort := Instant.natAbs_lt_of_inRange ht hleap hrange hyear.inRange
  have hexact : n.natAbs < 2 ^ 53 := by
    rw [Int.natAbs_mul, Int.natAbs_natCast] at hshort
    exact (Nat.le_mul_of_pos_right _ (unit_pos hname)).trans_lt hshort
  refine (call_shift_eq_ok hname hs).mpr ⟨_, ?_, rfl⟩
  rw [toInteger_ofInt hexact]
  exact Instant.add?_eq_some ht hleap hrange hyear.inRange

theorem parse_shift (hs : Instant.parse s = .ok t) {seconds : Int}
    (hyear : (t.shift seconds).HasPlainYear) :
    Instant.parse (String.ofList (t.shift seconds).text) = .ok (t.shift seconds) := by
  rw [Instant.parse_text ((Instant.wellFormed_of_parse hs).shift seconds), if_pos hyear]

/-- Shifts of a date that is no leap second and differences fit together as long as the years are
plain. The difference to a date some days later is the number of days, days are 24 hours, and shifts
by the same unit add up. Differences of all dates that are read change their sign when the dates
change places. -/
theorem shifts_and_differences_agree :
    (∀ s t, Instant.parse s = .ok t → t.isLeap = false →
      (∀ n : Int, (t.shift (n * Instant.daySeconds)).HasPlainYear →
        Answers "addDays" [.string s, ofInt n] (written (t.shift (n * Instant.daySeconds))) ∧
        Answers "addHours" [.string s, ofInt (24 * n)]
          (written (t.shift (n * Instant.daySeconds))) ∧
        Answers "dateDiff" [.string s, written (t.shift (n * Instant.daySeconds))] (ofInt n)) ∧
      (∀ name unit, (name, unit) ∈ shifts → ∀ m n : Int, (t.shift (m * unit)).HasPlainYear →
        (t.shift ((m + n) * unit)).HasPlainYear →
        Answers name [.string s, ofInt m] (written (t.shift (m * unit))) ∧
        Answers name [written (t.shift (m * unit)), ofInt n] (written (t.shift ((m + n) * unit))) ∧
        Answers name [.string s, ofInt (m + n)] (written (t.shift ((m + n) * unit))))) ∧
    (∀ a b t u, Instant.parse a = .ok t → Instant.parse b = .ok u →
      ∃ n, Answers "dateDiff" [.string a, .string b] (ofInt n) ∧
        Answers "dateDiff" [.string b, .string a] (ofInt (-n))) := by
  refine ⟨fun s t hs hleap => ⟨fun n hyear => ?_, fun name unit hname m n hfirst hlast => ?_⟩,
    fun a b t u ha hb => ⟨_, answers_dateDiff ha hb, ?_⟩⟩
  · have ht := Instant.wellFormed_of_parse hs
    have hhours : 24 * n * (3600 : Nat) = n * Instant.daySeconds := by
      rw [Instant.daySeconds]
      omega
    refine ⟨answers_shift (by decide) hs hleap hyear, ?_, ?_⟩
    · rw [← hhours] at hyear ⊢
      exact answers_shift (by decide) hs hleap hyear
    · have hdiff := answers_dateDiff hs (parse_shift hs hyear)
      rwa [Instant.daysUntil_shift_days ht hleap n] at hdiff
  · have hsum : (t.shift (m * unit)).shift (n * unit) = t.shift ((m + n) * unit) := by
      rw [Instant.shift_shift hleap, Int.add_mul]
    refine ⟨answers_shift hname hs hleap hfirst, ?_, answers_shift hname hs hleap hlast⟩
    rw [← hsum] at hlast ⊢
    exact answers_shift hname (parse_shift hs hfirst) (Instant.isLeap_shift hleap _) hlast
  · rw [← Instant.daysUntil_swap]
    exact answers_dateDiff hb ha

/-- A leap day that an offset leads to, a year before it, hours that add up across midnight, and the
differences between a leap second and the day after it. -/
theorem shifts_and_differences_agree_leap_day :
    Instant.parse "2024-03-01T00:30:00+01:00" = .ok ⟨19782, 84600, 0⟩ ∧
      Answers "addDays" [.string "2024-03-01T00:30:00+01:00", ofInt (-366)]
        (.string "2023-02-28T23:30:00Z") ∧
      Answers "dateDiff" [.string "2024-03-01T00:30:00+01:00", .string "2023-02-28T23:30:00Z"]
        (ofInt (-366)) ∧
      Answers "addHours" [.string "2024-03-01T00:30:00Z", ofInt (-2)]
        (.string "2024-02-29T22:30:00Z") ∧
      ∃ n, Answers "dateDiff" [.string "2016-12-31T23:59:60.25Z", .string "01/02/2017"] (ofInt n) ∧
        Answers "dateDiff" [.string "01/02/2017", .string "2016-12-31T23:59:60.25Z"]
          (ofInt (-n)) := by
  have hs : Instant.parse "2024-03-01T00:30:00+01:00" = .ok ⟨19782, 84600, 0⟩ := by
    decide +kernel
  have ha : Instant.parse "2016-12-31T23:59:60.25Z" = .ok ⟨17166, 86399, 1250000000⟩ := by
    decide +kernel
  have hb : Instant.parse "01/02/2017" = .ok ⟨17168, 0, 0⟩ := by
    decide +kernel
  have hyear : written (Instant.shift ⟨19782, 84600, 0⟩ (-366 * Instant.daySeconds)) =
      .string "2023-02-28T23:30:00Z" := congrArg Value.string (by decide +kernel)
  have hhour : written (Instant.shift ⟨19782, 84600, 0⟩ (1 * (3600 : Nat))) =
      .string "2024-03-01T00:30:00Z" := congrArg Value.string (by decide +kernel)
  have hback : written (Instant.shift ⟨19782, 84600, 0⟩ ((1 + -2) * (3600 : Nat))) =
      .string "2024-02-29T22:30:00Z" := congrArg Value.string (by decide +kernel)
  obtain ⟨hlaws, hswap⟩ := shifts_and_differences_agree
  obtain ⟨hdays, hunits⟩ := hlaws _ _ hs rfl
  obtain ⟨hshift, -, hdiff⟩ := hdays (-366) (by decide +kernel)
  obtain ⟨-, hsecond, -⟩ :=
    hunits "addHours" 3600 (by decide) 1 (-2) (by decide +kernel) (by decide +kernel)
  rw [hyear] at hshift hdiff
  rw [hhour, hback] at hsecond
  exact ⟨hs, hshift, hdiff, hsecond, hswap _ _ _ _ ha hb⟩

end DocTemplate.CalendarFunctions

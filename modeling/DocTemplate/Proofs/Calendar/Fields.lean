import DocTemplate.Calendar.Reading
import DocTemplate.Proofs.Decimal.Digits
import DocTemplate.Proofs.Text.Blank
import DocTemplate.Proofs.Text.Splitting

/-!
# The fields of dates

A number that is padded with zeros is read back from a field of its width, and from a field that may
be shorter if no digit follows. The same holds of the fraction of a second.

## Main statements

* `Instant.digitsOf_padded`, `Instant.looseField_padded` — padded numbers are read back.
* `Instant.fractionPart_fractionText` — fractions are read back.
-/

namespace DocTemplate.Instant

variable {width n : Nat} {ds rest : List Char}

theorem isDigit_of_mem_padded {c : Char} (h : c ∈ padded width n) : c.isDigit := by
  obtain h | h := List.mem_append.mp h
  · exact isDigit_of_mem_zeros h
  · exact isDigit_of_mem_toDigits h

theorem natOfDigits_padded (width n : Nat) : natOfDigits (padded width n) = n :=
  (natOfDigits_zeros_append _ _).trans (natOfDigits_toDigits n)

theorem length_padded (hwidth : 0 < width) (h : n < 10 ^ width) :
    (padded width n).length = width := by
  have hle := (Nat.length_toDigits_le_iff (by decide : 1 < 10) hwidth).mpr h
  simp only [padded, List.length_append, List.length_replicate]
  omega

theorem padded_ne_nil (width n : Nat) : padded width n ≠ [] := by
  simp [padded, Nat.toDigits_ne_nil]

/-- A number is read back from a field of its width. -/
theorem digitsOf_padded (hwidth : 0 < width) (h : n < 10 ^ width) (rest : List Char) :
    digitsOf width (padded width n ++ rest) = some (n, rest) := by
  have hlength := length_padded hwidth h
  have hdigits : ∀ c ∈ padded width n, c.isDigit := fun c hc => isDigit_of_mem_padded hc
  have htake : (padded width n).takeWhile Char.isDigit = padded width n := by
    have hnone : ∀ c ∈ ([] : List Char).head?, Char.isDigit c = false := by simp
    simpa using Text.takeWhile_append_of_head hdigits hnone
  simp [digitsOf, List.take_left' hlength, List.drop_left' hlength, htake, hlength,
    natOfDigits_padded]

theorem mark_self (c : Char) (rest : List Char) : mark c (c :: rest) = some rest :=
  if_pos rfl

/-- What is read from a field of some width is no greater number than fits into it. -/
theorem lt_of_digitsOf {text : List Char} (h : digitsOf width text = some (n, rest)) :
    n < 10 ^ width := by
  unfold digitsOf at h
  dsimp only at h
  split_ifs at h with hlength
  cases h
  have hdigits : ∀ c ∈ (text.take width).takeWhile Char.isDigit, c.isDigit := fun c hc =>
    List.all_eq_true.mp List.all_takeWhile c hc
  exact (natOfDigits_lt hdigits).trans_eq (by rw [hlength])

/-- Digits that no digit follows are read as a whole if there is room for them. -/
theorem digitsUpTo_append (hne : ds ≠ []) (hds : ∀ c ∈ ds, c.isDigit)
    (hrest : ∀ c ∈ rest.head?, c.isDigit = false) (hwidth : ds.length ≤ width) :
    digitsUpTo width (ds ++ rest) = some (natOfDigits ds, rest) := by
  have htake : ((ds ++ rest).take width).takeWhile Char.isDigit = ds := by
    rw [List.take_append, List.take_of_length_le hwidth]
    refine Text.takeWhile_append_of_head hds fun c hc => hrest c ?_
    obtain ⟨k, hk⟩ : ∃ k, k = width - ds.length := ⟨_, rfl⟩
    rw [← hk] at hc
    cases k with
    | zero => simp at hc
    | succ k => simpa [List.head?_take] using hc
  simp [digitsUpTo, htake, hne]

/-- Digits are no blanks. -/
theorem trimStart_append (hne : ds ≠ []) (hds : ∀ c ∈ ds, c.isDigit) (rest : List Char) :
    Text.trimStart (ds ++ rest) = ds ++ rest := by
  obtain ⟨c, ds, rfl⟩ := List.exists_cons_of_ne_nil hne
  have hblank := Text.isBlank_of_isDigit (hds c (by simp))
  simp [Text.trimStart, hblank]

theorem looseField_padded (h : n < 10 ^ 2) (hrest : ∀ c ∈ rest.head?, c.isDigit = false) :
    looseField (padded 2 n ++ rest) = some (n, rest) := by
  have hdigits : ∀ c ∈ padded 2 n, c.isDigit := fun c hc => isDigit_of_mem_padded hc
  have hne := padded_ne_nil 2 n
  have hlength : (padded 2 n).length ≤ 2 := Nat.le_of_eq (length_padded (by decide) h)
  rw [looseField, trimStart_append hne hdigits, digitsUpTo_append hne hdigits hrest hlength,
    natOfDigits_padded]

theorem looseField_padded_cons (h : n < 10 ^ 2) {c : Char} (hc : c.isDigit = false)
    (rest : List Char) : looseField (padded 2 n ++ c :: rest) = some (n, c :: rest) :=
  looseField_padded h (by simpa using hc)

/-- Digits behind a point, nine at most, are read as nanoseconds. -/
theorem fractionPart_point (hne : ds ≠ []) (hds : ∀ c ∈ ds, c.isDigit) (hlength : ds.length ≤ 9)
    (hrest : ∀ c ∈ rest.head?, c.isDigit = false) :
    fractionPart ('.' :: (ds ++ rest)) =
      some (natOfDigits ds * 10 ^ (9 - ds.length), rest) := by
  have htake := Text.takeWhile_append_of_head hds hrest
  have hdrop := Text.dropWhile_append_of_head hds hrest
  simp [fractionPart, htake, hdrop, hne, List.take_of_length_le hlength]

theorem fractionPart_padded (hwidth : 0 < width) (hnine : width ≤ 9) (h : n < 10 ^ width)
    (hrest : ∀ c ∈ rest.head?, c.isDigit = false) :
    fractionPart ('.' :: (padded width n ++ rest)) = some (n * 10 ^ (9 - width), rest) := by
  have hlength := length_padded hwidth h
  rw [fractionPart_point (padded_ne_nil width n) (fun c hc => isDigit_of_mem_padded hc)
    (by omega) hrest, hlength, natOfDigits_padded]

/-- A fraction of a second is read back from its text. -/
theorem fractionPart_fractionText {nanos : Nat} (h : nanos < secondNanos)
    (hrest : ∀ c ∈ rest.head?, c.isDigit = false ∧ c ≠ '.') :
    fractionPart (fractionText nanos ++ rest) = some (nanos, rest) := by
  have hdigit : ∀ c ∈ rest.head?, c.isDigit = false := fun c hc => (hrest c hc).1
  unfold secondNanos at h
  unfold fractionText
  split_ifs with hzero hmillis hmicros
  · subst hzero
    cases rest with
    | nil => rfl
    | cons c rest =>
      have hpoint : c ≠ '.' := (hrest c rfl).2
      simp [fractionPart, hpoint]
  · rw [List.cons_append, fractionPart_padded (by decide) (by decide) (by omega) hdigit]
    congr 2
    omega
  · rw [List.cons_append, fractionPart_padded (by decide) (by decide) (by omega) hdigit]
    congr 2
    omega
  · rw [List.cons_append, fractionPart_padded (by decide) (by decide) (by omega) hdigit]
    simp

/-- What is read as the fraction of a second is less than a second. -/
theorem lt_of_fractionPart {text : List Char} {nanos : Nat}
    (h : fractionPart text = some (nanos, rest)) : nanos < secondNanos := by
  unfold fractionPart at h
  split at h
  · rename_i behind
    dsimp only at h
    split at h
    · cases h
    · simp only [Option.some.injEq, Prod.mk.injEq] at h
      obtain ⟨rfl, -⟩ := h
      have hdigits : ∀ c ∈ (behind.takeWhile Char.isDigit).take 9, c.isDigit := fun c hc =>
        List.all_eq_true.mp List.all_takeWhile c (List.mem_of_mem_take hc)
      have hlength : ((behind.takeWhile Char.isDigit).take 9).length ≤ 9 :=
        List.length_take_le _ _
      generalize (behind.takeWhile Char.isDigit).take 9 = nine at hdigits hlength
      calc natOfDigits nine * 10 ^ (9 - nine.length)
        _ < 10 ^ nine.length * 10 ^ (9 - nine.length) :=
          Nat.mul_lt_mul_of_pos_right (natOfDigits_lt hdigits) (Nat.pow_pos (by decide))
        _ = secondNanos := by rw [← Nat.pow_add, Nat.add_sub_cancel' hlength]; rfl
  · cases h
    decide

end DocTemplate.Instant

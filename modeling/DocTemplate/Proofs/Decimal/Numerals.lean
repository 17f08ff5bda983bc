import DocTemplate.Decimal.Numeral
import DocTemplate.Proofs.Text.Splitting

/-!
# Spellings of numbers

Which texts are read as a number is said by a grammar: an optional sign, digits with an optional
point on either side or among them, and an optional exponent with a sign of its own. The reader
takes apart the texts of the grammar and no others.

## Main definitions

* `Numeral.SignSpelled`, `Numeral.FractionSpelled`, `Numeral.ExponentSpelled` — the pieces of a
  written number that may be missing.
* `Numeral.IntegerSpelled` — a text that spells an integer.
* `Numeral.Spelled` — a text that spells a numeral.

## Main statements

* `Numeral.exponent?_eq_some_iff` — which texts are read as a signed integer.
* `Numeral.read?_eq_some_iff` — a text is read as a numeral exactly if it spells it.
-/

namespace DocTemplate.Numeral

/-- An optional sign and what stands behind it. -/
inductive SignSpelled (body : List Char) : Bool → List Char → Prop
  | none : SignSpelled body false body
  | plus : SignSpelled body false ('+' :: body)
  | minus : SignSpelled body true ('-' :: body)

/-- Digits behind a point, of which there may be none, or no point at all. -/
inductive FractionSpelled : List Char → List Char → Prop
  | none : FractionSpelled [] []
  | point {digits : List Char} (hdigits : ∀ c ∈ digits, c.isDigit) :
      FractionSpelled digits ('.' :: digits)

/-- An integer with at least one digit and an optional sign. -/
inductive IntegerSpelled : Int → List Char → Prop
  | intro {negative : Bool} {digits text : List Char} (hne : digits ≠ [])
      (hdigits : ∀ c ∈ digits, c.isDigit) (hsign : SignSpelled digits negative text) :
      IntegerSpelled (if negative then -(natOfDigits digits : Int) else natOfDigits digits) text

/-- A letter with an integer behind it, or no exponent at all. -/
inductive ExponentSpelled : Int → List Char → Prop
  | none : ExponentSpelled 0 []
  | some {letter : Char} {e : Int} {text : List Char} (hletter : letter = 'e' ∨ letter = 'E')
      (h : IntegerSpelled e text) : ExponentSpelled e (letter :: text)

/-- A text spells a numeral: there is a digit on one side of the point at least. -/
inductive Spelled (n : Numeral) : List Char → Prop
  | intro {fraction exponent text : List Char} (hwhole : ∀ c ∈ n.whole, c.isDigit)
      (hfraction : FractionSpelled n.fraction fraction) (hne : n.whole ++ n.fraction ≠ [])
      (hexponent : ExponentSpelled n.exponent exponent)
      (hsign : SignSpelled (n.whole ++ (fraction ++ exponent)) n.negative text) : Spelled n text

variable {body text fraction exponent : List Char} {negative : Bool} {e : Int}

theorem FractionSpelled.forall_isDigit {digits : List Char} (h : FractionSpelled digits fraction) :
    ∀ c ∈ digits, c.isDigit := by
  cases h with
  | none => exact List.forall_mem_nil _
  | point hdigits => exact hdigits

/-! ### Signs -/

theorem signSpelled_sign (text : List Char) : SignSpelled (sign text).2 (sign text).1 text := by
  unfold sign
  split
  · exact .minus
  · exact .plus
  · exact .none

/-- A sign is taken off, if what stands behind it does not begin with another. -/
theorem SignSpelled.sign_eq (h : SignSpelled body negative text)
    (hbody : ∀ c ∈ body.head?, c ≠ '-' ∧ c ≠ '+') : sign text = (negative, body) := by
  cases h with
  | plus | minus => rfl
  | none =>
    unfold sign
    split
    · exact absurd rfl (hbody '-' rfl).1
    · exact absurd rfl (hbody '+' rfl).2
    · rfl

theorem not_sign_of_isDigit {c : Char} (h : c.isDigit) : c ≠ '-' ∧ c ≠ '+' :=
  ⟨by rintro rfl; exact absurd h (by decide), by rintro rfl; exact absurd h (by decide)⟩

/-! ### Exponents -/

/-- A text is read as an integer exactly if it spells it. -/
theorem exponent?_eq_some_iff : exponent? text = some e ↔ IntegerSpelled e text := by
  constructor
  · intro h
    simp only [exponent?] at h
    split at h
    · cases h
    · rename_i hguard
      simp only [Bool.or_eq_true, List.isEmpty_iff, Bool.not_eq_true', not_or,
        Bool.not_eq_false, List.all_eq_true] at hguard
      cases h
      exact .intro hguard.1 hguard.2 (signSpelled_sign text)
  · rintro ⟨hne, hdigits, hsign⟩
    have htext := hsign.sign_eq fun c hc =>
      not_sign_of_isDigit (hdigits c (List.mem_of_mem_head? hc))
    simp [exponent?, htext, List.all_eq_true.mpr hdigits, hne]

/-- The exponent at the end of a number, which is zero if there is none. -/
def readExponent? : List Char → Option Int
  | [] => some 0
  | c :: more => if c = 'e' ∨ c = 'E' then exponent? more else none

theorem readExponent?_eq_some_iff : readExponent? text = some e ↔ ExponentSpelled e text := by
  constructor
  · intro h
    match text with
    | [] =>
      cases h
      exact .none
    | c :: more =>
      rw [readExponent?, Option.ite_none_right_eq_some] at h
      exact .some h.1 (exponent?_eq_some_iff.mp h.2)
  · intro h
    cases h with
    | none => rfl
    | some hletter h => rw [readExponent?, if_pos hletter, exponent?_eq_some_iff.mpr h]

/-- An exponent stops the digits in front of it and is not taken for a point. -/
theorem ExponentSpelled.head (h : ExponentSpelled e exponent) :
    ∀ c ∈ exponent.head?, c.isDigit = false ∧ c ≠ '.' := by
  cases h with
  | none => nofun
  | some hletter =>
    rintro _ ⟨⟩
    obtain rfl | rfl := hletter <;> decide

/-! ### Digits behind the point -/

/-- The digits behind a point, if there is one, and what follows. -/
def splitFraction : List Char → List Char × List Char
  | '.' :: more => (more.takeWhile Char.isDigit, more.dropWhile Char.isDigit)
  | rest => ([], rest)

theorem splitFraction_eq {digits rest : List Char} (h : FractionSpelled digits fraction)
    (hrest : ∀ c ∈ rest.head?, c.isDigit = false ∧ c ≠ '.') :
    splitFraction (fraction ++ rest) = (digits, rest) := by
  cases h with
  | none =>
    rw [List.nil_append]
    unfold splitFraction
    split
    · exact absurd rfl (hrest '.' rfl).2
    · rfl
  | point hdigits =>
    have hstop : ∀ c ∈ rest.head?, c.isDigit = false := fun c hc => (hrest c hc).1
    rw [List.cons_append, splitFraction, Text.takeWhile_append_of_head hdigits hstop,
      Text.dropWhile_append_of_head hdigits hstop]

theorem exists_fractionSpelled (text : List Char) :
    ∃ fraction, FractionSpelled (splitFraction text).1 fraction ∧
      fraction ++ (splitFraction text).2 = text := by
  unfold splitFraction
  split
  · rename_i more
    refine ⟨_, .point fun c hc => ?_, ?_⟩
    · exact List.all_eq_true.mp List.all_takeWhile c hc
    · rw [List.cons_append, List.takeWhile_append_dropWhile]
  · exact ⟨[], .none, rfl⟩

/-! ### Numbers -/

/-- A number is read piece by piece. -/
theorem read?_eq (text : List Char) :
    read? text =
      let whole := (sign text).2.takeWhile Char.isDigit
      let behind := splitFraction ((sign text).2.dropWhile Char.isDigit)
      if whole.isEmpty && behind.1.isEmpty then none
      else (readExponent? behind.2).map (⟨(sign text).1, whole, behind.1, ·⟩) := by
  have hsplit : ∀ behind : List Char, splitFraction behind =
      match behind with
      | '.' :: more => (more.takeWhile Char.isDigit, more.dropWhile Char.isDigit)
      | _ => ([], behind) := by
    intro behind
    unfold splitFraction
    split <;> rfl
  have hexponent : ∀ (rest : List Char) (f : Int → Numeral), (readExponent? rest).map f =
      match rest with
      | [] => some (f 0)
      | c :: more => if c = 'e' ∨ c = 'E' then (exponent? more).map f else none := by
    intro rest f
    cases rest with
    | nil => rfl
    | cons c more =>
      by_cases hc : c = 'e' ∨ c = 'E'
      · simp only [readExponent?, if_pos hc]
      · simp only [readExponent?, if_neg hc, Option.map_none]
  simp only [hsplit, hexponent]
  rfl

/-- A text that spells a numeral is cut where the grammar puts its pieces together: none of them can
take in the head of the next. -/
theorem read?_of_spelled {n : Numeral} (h : n.Spelled text) : read? text = some n := by
  obtain ⟨negative, whole, digits, e⟩ := n
  obtain @⟨fraction, exponent, _, hwhole, hfraction, hne, hexponent, hsign⟩ := h
  dsimp only at *
  have hstop : ∀ c ∈ (fraction ++ exponent).head?, c.isDigit = false := by
    intro c hc
    cases hfraction with
    | none => exact (hexponent.head c hc).1
    | point => cases hc; rfl
  have hbody : ∀ c ∈ (whole ++ (fraction ++ exponent)).head?, c ≠ '-' ∧ c ≠ '+' := by
    intro c hc
    cases whole with
    | cons d whole =>
      cases hc
      exact not_sign_of_isDigit (hwhole c List.mem_cons_self)
    | nil =>
      cases hfraction with
      | none => exact absurd rfl hne
      | point => cases hc; decide
  have hpieces : ¬(whole.isEmpty && digits.isEmpty) = true := by simpa using hne
  simp only [read?_eq, hsign.sign_eq hbody, Text.takeWhile_append_of_head hwhole hstop,
    Text.dropWhile_append_of_head hwhole hstop, splitFraction_eq hfraction hexponent.head,
    readExponent?_eq_some_iff.mpr hexponent, if_neg hpieces, Option.map_some]

theorem spelled_of_read? {n : Numeral} (h : read? text = some n) : n.Spelled text := by
  have hsign := signSpelled_sign text
  obtain ⟨fraction, hfraction, hbehind⟩ :=
    exists_fractionSpelled ((sign text).2.dropWhile Char.isDigit)
  rw [read?_eq] at h
  obtain ⟨hpieces, h⟩ := Option.ite_none_left_eq_some.mp h
  obtain ⟨e, he, rfl⟩ := Option.map_eq_some_iff.mp h
  refine .intro (fun c hc => List.all_eq_true.mp List.all_takeWhile c hc) hfraction
    (by simpa using hpieces) (readExponent?_eq_some_iff.mp he) ?_
  rwa [hbehind, List.takeWhile_append_dropWhile]

/-- A text is read as a numeral exactly if it spells it. -/
theorem read?_eq_some_iff {n : Numeral} : read? text = some n ↔ n.Spelled text :=
  ⟨spelled_of_read?, read?_of_spelled⟩

end DocTemplate.Numeral

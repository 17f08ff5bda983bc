import DocTemplate.Text.Blank
import DocTemplate.Text.Letter

/-!
# Blanks are no letters

Where a word ends and where a text is trimmed are told apart by two properties of characters, and
no character has both.

## Main statements

* `Text.isAlphanumeric_of_isBlank` — a blank is neither a letter nor a number.
* `Text.exists_append_trimEnd` — what is trimmed from the end of a text are blanks.
-/

namespace DocTemplate.Text

/-- The code points of the blanks that are not in ASCII. -/
def wideBlanks : List Nat :=
  [0x85, 0xA0, 0x1680, 0x2000, 0x2001, 0x2002, 0x2003, 0x2004, 0x2005, 0x2006, 0x2007, 0x2008,
    0x2009, 0x200A, 0x2028, 0x2029, 0x202F, 0x205F, 0x3000]

theorem toNat_of_isBlank {c : Char} (h : isBlank c) : c.toNat ≤ 32 ∨ c.toNat ∈ wideBlanks := by
  simp only [isBlank, Bool.or_eq_true, Bool.and_eq_true, decide_eq_true_eq, beq_iff_eq] at h
  simp only [wideBlanks, List.mem_cons, List.not_mem_nil]
  omega

theorem contains_alphabeticRuns_wideBlanks :
    ∀ n ∈ wideBlanks, CodeTable.contains alphabeticRuns n = false := by
  simp only [alphabeticRuns, CodeTable.runs, CodeTable.entries]
  -- The kernel takes the literal as a list of characters, which it would not get from `toList`.
  rw [String.toList_ofList]
  decide +kernel

theorem contains_numericRuns_wideBlanks :
    ∀ n ∈ wideBlanks, CodeTable.contains numericRuns n = false := by
  simp only [numericRuns, CodeTable.runs, CodeTable.entries]
  rw [String.toList_ofList]
  decide +kernel

theorem isDigit_of_isBlank {c : Char} (h : isBlank c) : c.isDigit = false := by
  have hwide : ∀ n ∈ wideBlanks, 57 < n := by decide
  have hcode : c.toNat ≤ 32 ∨ 57 < c.toNat := (toNat_of_isBlank h).imp_right (hwide _)
  simp [Char.isDigit, UInt32.le_iff_toNat_le]
  omega

theorem isBlank_of_isDigit {c : Char} (h : c.isDigit) : isBlank c = false := by
  refine eq_false_of_ne_true fun hblank => ?_
  simp [isDigit_of_isBlank hblank] at h

/-- A blank is neither a letter nor a number. -/
theorem isAlphanumeric_of_isBlank {c : Char} (h : isBlank c) : isAlphanumeric c = false := by
  obtain hlow | hwide := toNat_of_isBlank h
  · have hcontrol : ∀ n < 33, isAlphanumeric (Char.ofNat n) = false := by decide
    simpa only [Char.ofNat_toNat] using hcontrol c.toNat (by omega)
  · have hascii : ¬c.toNat < 128 := by
      have hleast : ∀ n ∈ wideBlanks, ¬n < 128 := by decide
      exact hleast _ hwide
    simp [isAlphanumeric, isAlphabetic, isNumeric, hascii,
      contains_alphabeticRuns_wideBlanks _ hwide, contains_numericRuns_wideBlanks _ hwide]

theorem ne_of_isBlank {c d : Char} (hc : isBlank c) (hd : isBlank d = false) : c ≠ d := by
  rintro rfl
  simp_all

/-- What is trimmed from the end of a text are blanks. -/
theorem exists_append_trimEnd (text : List Char) :
    ∃ blanks, (∀ c ∈ blanks, isBlank c) ∧ trimEnd text ++ blanks = text := by
  refine ⟨(text.reverse.takeWhile isBlank).reverse, fun c hc => ?_, ?_⟩
  · exact List.all_eq_true.mp List.all_takeWhile c (List.mem_reverse.mp hc)
  · rw [trimEnd, ← List.reverse_append, List.takeWhile_append_dropWhile, List.reverse_reverse]

/-- Nothing is trimmed from a text that starts and ends with something else than a blank. -/
theorem trim_eq_self {text : List Char} {first last : Char} (hfirst : isBlank first = false)
    (hlast : isBlank last = false) : trim (first :: text ++ [last]) = first :: text ++ [last] := by
  simp [trim, trimStart, trimEnd, hfirst, hlast]

end DocTemplate.Text

import DocTemplate.Function.TextFunctions
import DocTemplate.Proofs.Text.Placeholders

/-!
# Filled in placeholders

Formatting takes one argument after the other and searches the whole text for its placeholders, and
so also what has been put in before. Exactly where no placeholder comes about in this way, all the
placeholders of the pattern are exchanged at once.

## Main definitions

* `TextFunctions.argumentText` — the display text of an argument.
* `TextFunctions.filled` — a pattern in which the placeholders of all arguments are exchanged at
  once.

## Main statements

* `TextFunctions.format_eq_filled_iff` — when formatting exchanges all placeholders at once.
* `TextFunctions.format_rescans` — an argument that is searched for placeholders.
-/

namespace DocTemplate.TextFunctions

open Text (placeholder substitute occurrences Inert)

/-- The display text of an argument. -/
def argumentText (args : List Value) (i : Nat) : List Char :=
  ((args.map fun v => v.display.toList)[i]?).getD []

/-- A pattern in which the placeholders of all arguments are exchanged at once. No text that is put
in is searched. -/
def filled (args : List Value) (pattern : String) : List Char :=
  substitute args.length (argumentText args) pattern.toList

variable {args : List Value} {k : Nat}

theorem argumentText_eq (h : k < args.length) : argumentText args k = args[k].display.toList := by
  simp [argumentText, h]

theorem filled_take (hk : k ≤ args.length) (pattern : String) :
    filled (args.take k) pattern = substitute k (argumentText args) pattern.toList := by
  have hlength : (args.take k).length = k := List.length_take_of_le hk
  rw [filled, hlength]
  refine Text.substitute_congr _ (fun i hi => ?_) pattern.toList
  simp [argumentText, List.getElem?_take_of_lt hi]

/-! ### A run of the loop over the arguments -/

theorem fillFrom_concat (first : Nat) (text : List Char) (vs : List Value) (v : Value) :
    fillFrom first text (vs ++ [v]) =
      Text.replace (placeholder (first + vs.length)) v.display.toList (fillFrom first text vs) := by
  induction vs generalizing first text with
  | nil => rfl
  | cons w vs ih =>
    rw [List.cons_append, fillFrom, ih, fillFrom, List.length_cons, Nat.succ_add_eq_add_succ]

/-- One step of the loop: the next argument is searched for in all that is there. -/
theorem fillFrom_take_succ (hk : k < args.length) (text : List Char) :
    fillFrom 0 text (args.take (k + 1)) =
      Text.replace (placeholder k) (argumentText args k) (fillFrom 0 text (args.take k)) := by
  have hlength : (args.take k).length = k := List.length_take_of_le hk.le
  rw [List.take_succ_eq_append_getElem hk, fillFrom_concat, hlength, Nat.zero_add,
    argumentText_eq hk]

/-- The loop exchanges the placeholders as if all at once exactly if each step finds as many of them
as the pattern has, or exchanges them for themselves. -/
theorem fillFrom_eq_filled_iff (pattern : String) (args : List Value) :
    (∀ k ≤ args.length, fillFrom 0 pattern.toList (args.take k) = filled (args.take k) pattern) ↔
      ∀ k < args.length, occurrences (placeholder k) (filled (args.take k) pattern) =
        occurrences (placeholder k) pattern.toList ∨ argumentText args k = placeholder k := by
  constructor
  · intro h k hk
    have hstep := h (k + 1) hk
    rw [fillFrom_take_succ hk, h k hk.le, filled_take hk.le, filled_take hk] at hstep
    rw [filled_take hk.le]
    exact (Text.replace_substitute_iff _ k _).mp hstep
  · intro h k hk
    induction k with
    | zero => exact (Text.substitute_zero _ _).symm
    | succ k ih =>
      have hstep := h k hk
      rw [filled_take (Nat.le_of_succ_le hk)] at hstep
      rw [fillFrom_take_succ hk, ih (Nat.le_of_succ_le hk), filled_take (Nat.le_of_succ_le hk),
        filled_take hk]
      exact (Text.replace_substitute_iff _ k _).mpr hstep

/-- Texts that can be no part of a placeholder add none. The last text is never searched. -/
theorem occurrences_filled_of_inert (h : ∀ v ∈ args.dropLast, Inert v.display.toList)
    (hk : k < args.length) (pattern : String) :
    occurrences (placeholder k) (filled (args.take k) pattern) =
      occurrences (placeholder k) pattern.toList := by
  rw [filled_take hk.le]
  refine Text.occurrences_substitute_of_inert (fun i hi => ?_) [] pattern.toList
  have hlast : i < args.dropLast.length := by
    rw [List.length_dropLast]
    omega
  have hinert := h _ (List.getElem_mem hlast)
  rwa [List.getElem_dropLast, ← argumentText_eq] at hinert

/-- With each number of arguments all the placeholders of the pattern are exchanged at once, and
nothing else is, exactly if each step finds as many placeholders of its argument as the pattern has
or exchanges them for themselves. So it is for every pattern, if no argument but the last one has a
brace in its text and each of these texts has some character that is no digit. -/
theorem format_eq_filled_iff (pattern : String) (args : List Value) :
    ((∀ k ≤ args.length, format (.string pattern) (args.take k) =
        .string (String.ofList (filled (args.take k) pattern))) ↔
      ∀ k < args.length, occurrences (placeholder k) (filled (args.take k) pattern) =
        occurrences (placeholder k) pattern.toList ∨ argumentText args k = placeholder k) ∧
    ((∀ v ∈ args.dropLast, Inert v.display.toList) →
      format (.string pattern) args = .string (String.ofList (filled args pattern))) := by
  have hformat : ∀ k, format (.string pattern) (args.take k) =
      .string (String.ofList (filled (args.take k) pattern)) ↔
        fillFrom 0 pattern.toList (args.take k) = filled (args.take k) pattern := by
    intro k
    rw [format, onText, Value.string.injEq, String.ofList_inj]
  simp only [hformat]
  refine ⟨fillFrom_eq_filled_iff pattern args, fun h => ?_⟩
  have hall := (fillFrom_eq_filled_iff pattern args).mpr fun k hk =>
    .inl (occurrences_filled_of_inert h hk pattern)
  rw [← List.take_length (l := args), hformat]
  exact hall args.length le_rfl

/-- An argument of digits between other placeholders, and one that is text between braces in front
of a last one that looks like a placeholder. -/
theorem format_eq_filled_iff_braced :
    format (.string "{1}{0} {1}") [.string "1", .string "x"] = .string "x1 x" ∧
      format (.string "{{0}{1}}") [.string "a", .string "{0}"] = .string "{a{0}}" := by
  have hcounts : ∀ k < 2, occurrences (placeholder k)
      (filled ([.string "1", .string "x"].take k) "{1}{0} {1}") =
        occurrences (placeholder k) "{1}{0} {1}".toList ∨
          argumentText [.string "1", .string "x"] k = placeholder k := by
    intro k hk
    left
    interval_cases k <;> cbv
  have hinert : ∀ v ∈ [Value.string "a", .string "{0}"].dropLast, Inert v.display.toList := by
    intro v hv
    obtain rfl := List.mem_singleton.mp hv
    exact ⟨by decide, by decide, 'a', by decide, by decide⟩
  have hdigits := (format_eq_filled_iff "{1}{0} {1}" [.string "1", .string "x"]).1.mpr hcounts 2
    le_rfl
  have htext := (format_eq_filled_iff "{{0}{1}}" [.string "a", .string "{0}"]).2 hinert
  refine ⟨hdigits.trans ?_, htext.trans ?_⟩ <;> cbv

/-- An argument is searched for the placeholders of those behind it, alone and together with the
pattern around it. -/
theorem format_rescans :
    format (.string "{0}") [.string "{1}", .string "x"] = .string "x" ∧
      String.ofList (filled [.string "{1}", .string "x"] "{0}") = "{1}" ∧
      format (.string "{{0}}") [.string "1", .string "x"] = .string "x" ∧
      String.ofList (filled [.string "1", .string "x"] "{{0}}") = "{1}" := by
  refine ⟨?_, ?_, ?_, ?_⟩ <;> cbv

end DocTemplate.TextFunctions

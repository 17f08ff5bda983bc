import DocTemplate.Proofs.Text.Splitting

/-!
# Pieces of a text

Splitting a text takes it apart at the occurrences of a delimiter, and nothing is lost: joined with
the delimiter the pieces give the text again, and joined with another text they give what replacing
the delimiter gives. No piece holds an occurrence that is left over.

## Main statements

* `Text.join_split` — joining undoes splitting.
* `Text.replace_eq_join_split` — replacing is splitting and joining.
* `Text.not_infix_of_mem_split` — a piece does not hold the delimiter.
-/

namespace DocTemplate.Text

variable {delimiter text piece : List Char}

theorem join_cons (delimiter piece : List Char) {more : List (List Char)} (h : more ≠ []) :
    join delimiter (piece :: more) = piece ++ delimiter ++ join delimiter more := by
  cases more with
  | nil => exact absurd rfl h
  | cons next rest => rfl

/-- Single characters are put together with a text behind each of them. -/
theorem join_characters (delimiter text : List Char) :
    join delimiter (text.map ([·]) ++ [[]]) = text.flatMap (· :: delimiter) := by
  induction text with
  | nil => rfl
  | cons c text ih =>
    rw [List.map_cons, List.cons_append, join_cons _ _ (by simp), ih]
    simp

section Nonempty

variable (hne : delimiter ≠ [])

theorem splitNonempty_ne_nil (text : List Char) : splitNonempty delimiter hne text ≠ [] := by
  unfold splitNonempty
  split <;> simp

/-- A text is replaced in piece by piece. -/
theorem replaceNonempty_eq_join (replacement text : List Char) :
    replaceNonempty delimiter hne replacement text =
      join replacement (splitNonempty delimiter hne text) := by
  fun_induction splitNonempty delimiter hne text with
  | case1 text hcut =>
    unfold replaceNonempty
    grind [join]
  | case2 text before behind hcut ih =>
    rw [join_cons _ _ (splitNonempty_ne_nil hne behind), ← ih]
    rw [replaceNonempty]
    grind

theorem join_splitNonempty (text : List Char) :
    join delimiter (splitNonempty delimiter hne text) = text := by
  fun_induction splitNonempty delimiter hne text with
  | case1 text hcut => rfl
  | case2 text before behind hcut ih =>
    rw [join_cons _ _ (splitNonempty_ne_nil hne behind), ih, append_of_cut? hcut]

theorem not_infix_of_mem_splitNonempty (h : piece ∈ splitNonempty delimiter hne text) :
    ¬delimiter <:+: piece := by
  fun_induction splitNonempty delimiter hne text with
  | case1 text hcut =>
    obtain rfl := List.mem_singleton.mp h
    exact cut?_eq_none_iff.mp hcut
  | case2 text before behind hcut ih =>
    obtain rfl | h := List.mem_cons.mp h
    · exact not_infix_of_cut? hne hcut
    · exact ih h

end Nonempty

/-- Replacing is splitting and joining with the replacement. -/
theorem replace_eq_join_split (delimiter replacement text : List Char) :
    replace delimiter replacement text = join replacement (split delimiter text) := by
  by_cases hempty : delimiter = []
  · rw [replace, split, dif_pos hempty, dif_pos hempty, join_cons _ _ (by simp), join_characters,
      List.nil_append]
  · rw [replace, split, dif_neg hempty, dif_neg hempty, replaceNonempty_eq_join]

theorem replace_of_not_infix (replacement : List Char) (hne : delimiter ≠ [])
    (h : ¬delimiter <:+: text) : replace delimiter replacement text = text := by
  have hcut := cut?_eq_none_iff.mpr h
  rw [replace, dif_neg hne, replaceNonempty]
  grind

/-- Behind the first occurrence a text is replaced in like any other. -/
theorem replace_of_cut? {before behind : List Char} (replacement : List Char)
    (hne : delimiter ≠ []) (h : cut? delimiter text = some (before, behind)) :
    replace delimiter replacement text =
      before ++ replacement ++ replace delimiter replacement behind := by
  rw [replace, replace, dif_neg hne, dif_neg hne, replaceNonempty]
  grind

/-- Joining undoes splitting. -/
theorem join_split (delimiter text : List Char) : join delimiter (split delimiter text) = text := by
  by_cases hempty : delimiter = []
  · rw [split, dif_pos hempty, join_cons _ _ (by simp), join_characters, hempty]
    simp
  · rw [split, dif_neg hempty, join_splitNonempty]

/-- A piece does not hold the delimiter. -/
theorem not_infix_of_mem_split (hne : delimiter ≠ []) (h : piece ∈ split delimiter text) :
    ¬delimiter <:+: piece := by
  rw [split, dif_neg hne] at h
  exact not_infix_of_mem_splitNonempty hne h

end DocTemplate.Text

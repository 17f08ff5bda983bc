import DocTemplate.Proofs.Text.Occurrences

/-!
# Splitting at a character

A text that is put together from pieces with a character between them falls into the same pieces
again, if the character occurs in none of them. A run of characters of a kind is taken whole, if the
text behind it does not go on with the kind.

## Main statements

* `Text.takeWhile_append_of_head` — where a run of characters of a kind ends.
* `Text.cut?_singleton` — the first occurrence of a character.
* `Text.split_join_singleton` — splitting undoes joining.
-/

namespace DocTemplate.Text

section Runs

variable {p : Char → Bool} {run rest : List Char} (hrun : ∀ c ∈ run, p c)
  (hrest : ∀ c ∈ rest.head?, p c = false)

include hrun hrest

/-- A run of characters of a kind ends where the text does not go on with the kind. -/
theorem takeWhile_append_of_head : (run ++ rest).takeWhile p = run := by
  rw [List.takeWhile_append_of_pos hrun]
  cases rest with
  | nil => simp
  | cons c rest => simp [hrest c rfl]

theorem dropWhile_append_of_head : (run ++ rest).dropWhile p = rest := by
  rw [List.dropWhile_append_of_pos hrun]
  cases rest with
  | nil => rfl
  | cons c rest => simp [hrest c rfl]

end Runs

variable {c : Char}

theorem not_infix_singleton {text : List Char} (h : c ∉ text) : ¬[c] <:+: text :=
  fun hfound => h (hfound.mem List.mem_cons_self)

theorem cut?_singleton_of_not_mem {text : List Char} (h : c ∉ text) : cut? [c] text = none :=
  cut?_eq_none_iff.mpr (not_infix_singleton h)

/-- A text is cut at the first occurrence of a character. -/
theorem cut?_singleton {before : List Char} (h : c ∉ before) (behind : List Char) :
    cut? [c] (before ++ c :: behind) = some (before, behind) := by
  have hcut := cut?_append (List.not_mem_nil (a := c)) (not_infix_singleton h) behind
  rwa [List.append_assoc, List.singleton_append] at hcut

theorem split_singleton_of_not_mem {text : List Char} (h : c ∉ text) : split [c] text = [text] := by
  have hcut := cut?_singleton_of_not_mem h
  rw [split, dif_neg (by simp), splitNonempty]
  split
  · rfl
  · simp_all

theorem split_singleton_append {before : List Char} (h : c ∉ before) (behind : List Char) :
    split [c] (before ++ c :: behind) = before :: split [c] behind := by
  have hcut := cut?_singleton h behind
  rw [split, split, dif_neg (by simp), dif_neg (by simp), splitNonempty]
  split
  · simp_all
  · rename_i h'
    obtain ⟨rfl, rfl⟩ : before = _ ∧ behind = _ := by simpa [hcut] using h'
    rfl

/-- Splitting at a character undoes joining with it. -/
theorem split_join_singleton {pieces : List (List Char)} (hne : pieces ≠ [])
    (h : ∀ piece ∈ pieces, c ∉ piece) : split [c] (join [c] pieces) = pieces := by
  induction pieces with
  | nil => exact absurd rfl hne
  | cons piece more ih =>
    obtain ⟨hpiece, hmore⟩ := List.forall_mem_cons.mp h
    cases more with
    | nil => exact split_singleton_of_not_mem hpiece
    | cons next rest =>
      have hjoin : join [c] (piece :: next :: rest) = piece ++ c :: join [c] (next :: rest) := by
        simp [join]
      rw [hjoin, split_singleton_append hpiece, ih (by simp) hmore]

end DocTemplate.Text

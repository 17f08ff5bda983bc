import DocTemplate.Function.TextFunctions
import DocTemplate.Proofs.Text.Pieces

/-!
# Split, joined and replaced texts

The functions that take texts apart and put them together fit each other, with every delimiter, the
empty one included.

## Main statements

* `TextFunctions.split_join_replace_fit` — joining undoes splitting, replacing is both one after
  the other, and splitting at a character undoes joining with it.
-/

namespace DocTemplate.TextFunctions

variable {d : String} {pieces : List String}

theorem split_string (s d : String) :
    split (.string s) (.string d) =
      .array (((Text.split d.toList s.toList).map String.ofList).map .string) := by
  rw [split, List.map_map]
  rfl

theorem join_strings (pieces : List String) (d : String) :
    join (.array (pieces.map .string)) (.string d) =
      .string (String.ofList (Text.join d.toList (pieces.map String.toList))) := by
  rw [join, List.map_map]
  rfl

/-- Pieces of a text are joined like the lists of their characters. -/
theorem join_split_string (s d r : String) :
    join (split (.string s) (.string d)) (.string r) =
      .string (String.ofList (Text.join r.toList (Text.split d.toList s.toList))) := by
  have hpieces : ((Text.split d.toList s.toList).map String.ofList).map String.toList =
      Text.split d.toList s.toList := by
    simp
  rw [split_string, join_strings, hpieces]

/-- Splitting at a character undoes joining with it. -/
theorem split_join_strings (hd : d.length = 1) (hne : pieces ≠ [])
    (h : ∀ piece ∈ pieces, ¬d.toList <:+: piece.toList) :
    split (join (.array (pieces.map .string)) (.string d)) (.string d) =
      .array (pieces.map .string) := by
  obtain ⟨c, hc⟩ := List.length_eq_one_iff.mp (String.length_toList.trans hd)
  have hpieces : ∀ piece ∈ pieces.map String.toList, c ∉ piece := by
    intro piece hpiece hmem
    obtain ⟨p, hp, rfl⟩ := List.mem_map.mp hpiece
    obtain ⟨before, behind, hsplit⟩ := List.append_of_mem hmem
    refine h p hp ⟨before, behind, ?_⟩
    rw [hc, hsplit, List.append_assoc, List.singleton_append]
  rw [join_strings, split_string, String.toList_ofList, hc,
    Text.split_join_singleton (by simpa using hne) hpieces]
  simp

/-- Joining with the delimiter undoes splitting, and joining with another text replaces it. No piece
holds a delimiter that is not empty, and splitting at a character undoes joining with it. -/
theorem split_join_replace_fit :
    (∀ s d : String, join (split (.string s) (.string d)) (.string d) = .string s) ∧
      (∀ s d r : String, replace (.string s) (.string d) (.string r) =
        join (split (.string s) (.string d)) (.string r)) ∧
      (∀ s d : String, d ≠ "" → ∃ pieces : List String,
        split (.string s) (.string d) = .array (pieces.map .string) ∧
          ∀ piece ∈ pieces, ¬d.toList <:+: piece.toList) ∧
      ∀ (d : String) (pieces : List String), d.length = 1 → pieces ≠ [] →
        (∀ piece ∈ pieces, ¬d.toList <:+: piece.toList) →
        split (join (.array (pieces.map .string)) (.string d)) (.string d) =
          .array (pieces.map .string) := by
  refine ⟨fun s d => ?_, fun s d r => ?_, fun s d hd => ⟨_, split_string s d, ?_⟩,
    fun d pieces hd hne h => split_join_strings hd hne h⟩
  · rw [join_split_string, Text.join_split, String.ofList_toList]
  · rw [join_split_string, replace, Text.replace_eq_join_split]
  · intro piece hpiece
    obtain ⟨chars, hchars, rfl⟩ := List.mem_map.mp hpiece
    rw [String.toList_ofList]
    exact Text.not_infix_of_mem_split (by simpa using hd) hchars

/-- A delimiter that overlaps itself, and a character of two bytes between empty pieces. -/
theorem split_join_replace_fit_overlapping :
    (∃ pieces : List String, split (.string "aaa") (.string "aa") = .array (pieces.map .string) ∧
      ∀ piece ∈ pieces, ¬"aa".toList <:+: piece.toList) ∧
    split (join (.array (["", "a", ""].map .string)) (.string "é")) (.string "é") =
      .array (["", "a", ""].map .string) := by
  obtain ⟨-, -, hpieces, hjoined⟩ := split_join_replace_fit
  exact ⟨hpieces "aaa" "aa" (by decide), hjoined "é" ["", "a", ""] (by decide) (by decide)
    (by decide)⟩

end DocTemplate.TextFunctions

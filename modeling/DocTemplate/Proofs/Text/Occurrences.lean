import DocTemplate.Text.Search
import Mathlib.Data.List.Infix

/-!
# Occurrences of a text

A search stops at the first occurrence. If the first character of the pattern does not come again in
it, two occurrences have no character in common, and none reaches into a text that starts like the
pattern.

## Main definitions

* `Text.occurrences` — in how many places a pattern occurs.

## Main statements

* `Text.append_of_cut?`, `Text.cut?_eq_none_iff` — what a search finds.
* `Text.cut?_append` — where the first occurrence is, if there is none before it.
* `Text.occurrences_append_cons` — occurrences are counted piece by piece.
-/

namespace DocTemplate.Text

section Search

variable {pattern text before behind : List Char}

theorem append_of_cut? (h : cut? pattern text = some (before, behind)) :
    before ++ pattern ++ behind = text := by
  fun_induction cut? pattern text generalizing before behind with
  | case1 text hp =>
    obtain ⟨rfl, rfl⟩ : [] = before ∧ text.drop pattern.length = behind := by simpa using h
    obtain ⟨rest, rfl⟩ := List.isPrefixOf_iff_prefix.mp hp
    simp
  | case2 => cases h
  | case3 c rest _ ih =>
    obtain ⟨⟨b, r⟩, hb, he⟩ := Option.map_eq_some_iff.mp h
    obtain ⟨rfl, rfl⟩ : c :: b = before ∧ r = behind := by simpa using he
    simp [← ih hb]

theorem not_infix_of_cut? (hne : pattern ≠ []) (h : cut? pattern text = some (before, behind)) :
    ¬pattern <:+: before := by
  fun_induction cut? pattern text generalizing before behind with
  | case1 text hp =>
    obtain ⟨rfl, rfl⟩ : [] = before ∧ text.drop pattern.length = behind := by simpa using h
    simp [hne]
  | case2 => cases h
  | case3 c rest hp ih =>
    obtain ⟨⟨b, r⟩, hb, he⟩ := Option.map_eq_some_iff.mp h
    obtain ⟨rfl, rfl⟩ : c :: b = before ∧ r = behind := by simpa using he
    intro hi
    obtain hi | hi := List.infix_cons_iff.mp hi
    · have hrest : c :: b <+: c :: rest := by
        simp [← append_of_cut? hb]
      exact hp (List.isPrefixOf_iff_prefix.mpr (hi.trans hrest))
    · exact ih hb hi

theorem cut?_eq_none_iff : cut? pattern text = none ↔ ¬pattern <:+: text := by
  fun_induction cut? pattern text with
  | case1 text hp => simpa using (List.isPrefixOf_iff_prefix.mp hp).isInfix
  | case2 hp => simpa [List.isPrefixOf_iff_prefix] using hp
  | case3 c rest hp ih =>
    rw [List.isPrefixOf_iff_prefix] at hp
    simp [List.infix_cons_iff, hp, ih]

end Search

/-- In how many places of a text a pattern occurs. -/
def occurrences (pattern : List Char) : List Char → Nat
  | [] => if pattern.isEmpty then 1 else 0
  | c :: text => (if pattern.isPrefixOf (c :: text) then 1 else 0) + occurrences pattern text

theorem occurrences_cons (pattern : List Char) (c : Char) (text : List Char) :
    occurrences pattern (c :: text) =
      (if pattern <+: c :: text then 1 else 0) + occurrences pattern text := by
  simp [occurrences, List.isPrefixOf_iff_prefix]

theorem occurrences_eq_zero_iff {pattern text : List Char} :
    occurrences pattern text = 0 ↔ ¬pattern <:+: text := by
  induction text with
  | nil => simp [occurrences]
  | cons c text ih =>
    rw [occurrences_cons, List.infix_cons_iff, Nat.add_eq_zero_iff, ih]
    simp

/-- A pattern does not start where its first character is missing. -/
theorem occurrences_append_of_not_mem {a : Char} {more before : List Char} (h : a ∉ before)
    (behind : List Char) :
    occurrences (a :: more) (before ++ behind) = occurrences (a :: more) behind := by
  induction before with
  | nil => rfl
  | cons c before ih =>
    obtain ⟨hne, hbefore⟩ : a ≠ c ∧ a ∉ before := by simpa using h
    rw [List.cons_append, occurrences_cons, ih hbefore]
    simp [hne]

section Unbordered

variable {a : Char} {more text before : List Char} (ha : a ∉ more)

include ha

/-- A pattern whose first character does not come again does not reach from a text into one that
starts with this character. -/
theorem prefix_append_cons_iff (hne : before ≠ []) (behind : List Char) :
    a :: more <+: before ++ a :: behind ↔ a :: more <+: before := by
  refine ⟨fun h => ?_, fun h => h.trans (List.prefix_append _ _)⟩
  obtain hshort | ⟨rest, hrest⟩ :=
    List.prefix_or_prefix_of_prefix h (List.prefix_append before (a :: behind))
  · exact hshort
  · cases rest with
    | nil => rw [← hrest, List.append_nil]
    | cons b rest =>
      -- The character of the pattern behind the text is its first one, which does not come again.
      obtain ⟨c, before, rfl⟩ := List.exists_cons_of_ne_nil hne
      obtain ⟨rfl, rfl⟩ : c = a ∧ before ++ b :: rest = more := by simpa using hrest
      obtain ⟨end', hend⟩ := h
      obtain ⟨rfl, -⟩ : b = c ∧ _ := by simpa using hend
      simp at ha

/-- Occurrences are counted apart in a text and in one behind it that starts like the pattern. -/
theorem occurrences_append_cons (before behind : List Char) :
    occurrences (a :: more) (before ++ a :: behind) =
      occurrences (a :: more) before + occurrences (a :: more) (a :: behind) := by
  induction before with
  | nil => simp [occurrences]
  | cons c before ih =>
    have hstart := prefix_append_cons_iff ha (List.cons_ne_nil c before) behind
    rw [List.cons_append] at hstart ⊢
    rw [occurrences_cons, occurrences_cons, ih]
    simp only [hstart]
    omega

/-- The first occurrence is the one that has none before it. -/
theorem cut?_append (h : ¬a :: more <:+: before) (behind : List Char) :
    cut? (a :: more) (before ++ (a :: more) ++ behind) = some (before, behind) := by
  induction before with
  | nil => simp [cut?]
  | cons c before ih =>
    obtain ⟨hhead, htail⟩ : ¬a :: more <+: c :: before ∧ ¬a :: more <:+: before := by
      simpa [List.infix_cons_iff] using h
    have hnot : ¬(a :: more).isPrefixOf (c :: (before ++ (a :: more) ++ behind)) = true := by
      rw [List.isPrefixOf_iff_prefix]
      intro hstart
      refine hhead ((prefix_append_cons_iff ha (List.cons_ne_nil c before) (more ++ behind)).mp ?_)
      simpa using hstart
    rw [List.cons_append, List.cons_append, cut?, if_neg hnot, ih htail, Option.map_some]

end Unbordered

end DocTemplate.Text

import DocTemplate.Proofs.Decimal.Digits
import DocTemplate.Proofs.Text.Pieces
import Mathlib

/-!
# Placeholders

A placeholder is a number in braces. No placeholder reaches into another one, so a text falls into
placeholders and single characters in one way only, and all the placeholders in it can be exchanged
at once.

## Main definitions

* `Text.placeholder` — the placeholder of a number.
* `Text.substitute` — a text in which the placeholders below a bound are exchanged.

## Main statements

* `Text.placeholders_induction` — how a text falls into placeholders and characters.
* `Text.replace_substitute_iff` — when exchanging one more placeholder afterwards is exchanging it
  with the others.
* `Text.occurrences_substitute_of_inert` — texts that add no placeholders.
-/

namespace DocTemplate.Text

/-- The placeholder of a number: its decimal digits in braces. -/
def placeholder (i : Nat) : List Char :=
  '{' :: (Nat.toDigits 10 i ++ ['}'])

/-- The number below `count` whose placeholder a text starts with, and what is behind it. -/
def placeholder? (count : Nat) (text : List Char) : Option (Nat × List Char) :=
  (List.range count).findSome? fun i => ((placeholder i).isPrefixOf? text).map (i, ·)

variable {count i k : Nat} {text rest : List Char}

theorem placeholder_ne_nil (i : Nat) : placeholder i ≠ [] :=
  List.cons_ne_nil _ _

theorem not_mem_behind_brace (i : Nat) : '{' ∉ Nat.toDigits 10 i ++ ['}'] := by
  intro h
  obtain h | h := List.mem_append.mp h
  · exact absurd (isDigit_of_mem_toDigits h) (by decide)
  · exact absurd (List.mem_singleton.mp h) (by decide)

/-- A text starts with one placeholder at most. -/
theorem placeholder_unique (h : placeholder k <+: placeholder i ++ rest) : k = i := by
  obtain ⟨behind, hbehind⟩ := h
  have hdigits (n : Nat) : ∀ c ∈ Nat.toDigits 10 n, c.isDigit := fun _ => isDigit_of_mem_toDigits
  have hbrace (rest : List Char) : ∀ c ∈ ('}' :: rest).head?, c.isDigit = false := by simp
  have htext : Nat.toDigits 10 k ++ '}' :: behind = Nat.toDigits 10 i ++ '}' :: rest := by
    simpa [placeholder] using hbehind
  have hrun := congrArg (List.takeWhile Char.isDigit) htext
  rw [takeWhile_append_of_head (hdigits k) (hbrace _),
    takeWhile_append_of_head (hdigits i) (hbrace _)] at hrun
  rw [← natOfDigits_toDigits k, hrun, natOfDigits_toDigits]

theorem append_of_placeholder? (h : placeholder? count text = some (i, rest)) :
    i < count ∧ placeholder i ++ rest = text := by
  obtain ⟨j, hj, hstart⟩ := List.exists_of_findSome?_eq_some h
  obtain ⟨r, hr, he⟩ := Option.map_eq_some_iff.mp hstart
  obtain ⟨rfl, rfl⟩ : j = i ∧ r = rest := by simpa using he
  exact ⟨List.mem_range.mp hj, List.append_eq_of_isPrefixOf?_eq_some hr⟩

theorem placeholder?_eq_none_iff :
    placeholder? count text = none ↔ ∀ i < count, ¬placeholder i <+: text := by
  simp only [placeholder?, List.findSome?_eq_none_iff, List.mem_range, Option.map_eq_none_iff]
  refine forall₂_congr fun i _ => ?_
  rw [← List.isPrefixOf_iff_prefix, ← List.isSome_isPrefixOf?_eq_isPrefixOf,
    Option.not_isSome_iff_eq_none]

theorem placeholder?_append (hi : i < count) (rest : List Char) :
    placeholder? count (placeholder i ++ rest) = some (i, rest) := by
  cases h : placeholder? count (placeholder i ++ rest) with
  | none => exact absurd (List.prefix_append _ _) (placeholder?_eq_none_iff.mp h i hi)
  | some found =>
    obtain ⟨j, behind⟩ := found
    obtain ⟨-, happend⟩ := append_of_placeholder? h
    obtain rfl := placeholder_unique ⟨behind, happend⟩
    rw [List.append_cancel_left happend]

theorem length_of_placeholder? (h : placeholder? count text = some (i, rest)) :
    rest.length < text.length := by
  have hlength := congrArg List.length (append_of_placeholder? h).2
  simp [placeholder] at hlength
  omega

/-- A text in which every placeholder of a number below `count` is exchanged for the text that
belongs to the number. What is put in is not searched. -/
def substitute (count : Nat) (texts : Nat → List Char) (text : List Char) : List Char :=
  match _h : placeholder? count text with
  | some (i, rest) => texts i ++ substitute count texts rest
  | none =>
    match text with
    | [] => []
    | c :: rest => c :: substitute count texts rest
termination_by text.length
decreasing_by
  · exact length_of_placeholder? _h
  · simp

/-- A text falls into placeholders of numbers below `count` and characters with which no such
placeholder starts. -/
theorem placeholders_induction (count : Nat) {motive : List Char → Prop} (nil : motive [])
    (found : ∀ i rest, i < count → motive rest → motive (placeholder i ++ rest))
    (char : ∀ c rest, (∀ i < count, ¬placeholder i <+: c :: rest) → motive rest →
      motive (c :: rest)) (text : List Char) : motive text := by
  fun_induction substitute count (fun _ => []) text with
  | case1 text i rest h ih =>
    obtain ⟨hi, rfl⟩ := append_of_placeholder? h
    exact found i rest hi ih
  | case2 => exact nil
  | case3 c rest h ih => exact char c rest (placeholder?_eq_none_iff.mp h) ih

/-- The placeholder of a number apart from those of the numbers below it. -/
theorem placeholders_induction_succ (k : Nat) {motive : List Char → Prop} (nil : motive [])
    (below : ∀ i rest, i < k → motive rest → motive (placeholder i ++ rest))
    (own : ∀ rest, motive rest → motive (placeholder k ++ rest))
    (char : ∀ c rest, (∀ i < k + 1, ¬placeholder i <+: c :: rest) → motive rest →
      motive (c :: rest)) (text : List Char) : motive text := by
  induction text using placeholders_induction (k + 1) with
  | nil => exact nil
  | found i rest hi ih =>
    obtain hlt | rfl := Nat.lt_succ_iff_lt_or_eq.mp hi
    · exact below i rest hlt ih
    · exact own rest ih
  | char c rest hc ih => exact char c rest hc ih

section Substitute

variable (texts : Nat → List Char)

theorem substitute_nil : substitute count texts [] = [] := by
  have hnone : placeholder? count [] = none :=
    placeholder?_eq_none_iff.mpr fun i _ => by simp [placeholder]
  rw [substitute]
  grind

theorem substitute_placeholder (hi : i < count) (rest : List Char) :
    substitute count texts (placeholder i ++ rest) = texts i ++ substitute count texts rest := by
  rw [substitute]
  grind [placeholder?_append]

theorem substitute_char {c : Char} (h : ∀ i < count, ¬placeholder i <+: c :: rest) :
    substitute count texts (c :: rest) = c :: substitute count texts rest := by
  rw [substitute]
  grind [placeholder?_eq_none_iff]

theorem substitute_zero (text : List Char) : substitute 0 texts text = text := by
  induction text with
  | nil => exact substitute_nil texts
  | cons c rest ih => rw [substitute_char texts (by simp), ih]

/-- Only the texts of placeholders that are exchanged matter. -/
theorem substitute_congr {texts' : Nat → List Char} (h : ∀ i < count, texts i = texts' i)
    (text : List Char) : substitute count texts text = substitute count texts' text := by
  induction text using placeholders_induction count with
  | nil => rw [substitute_nil, substitute_nil]
  | found i rest hi ih =>
    rw [substitute_placeholder texts hi, substitute_placeholder texts' hi, h i hi, ih]
  | char c rest hc ih => rw [substitute_char texts hc, substitute_char texts' hc, ih]

/-- A text without an opening brace stays as it is. -/
theorem substitute_append_of_not_mem {before : List Char} (h : '{' ∉ before) (rest : List Char) :
    substitute count texts (before ++ rest) = before ++ substitute count texts rest := by
  induction before with
  | nil => rfl
  | cons c before ih =>
    obtain ⟨hne, hbefore⟩ : '{' ≠ c ∧ '{' ∉ before := by simpa using h
    rw [List.cons_append, substitute_char texts (by simp [placeholder, hne]), ih hbefore]
    rfl

/-- The placeholder of a number that is not below the bound stays as it is. -/
theorem substitute_placeholder_of_le (hi : count ≤ i) (rest : List Char) :
    substitute count texts (placeholder i ++ rest) =
      placeholder i ++ substitute count texts rest := by
  have hstart : ∀ j < count, ¬placeholder j <+: placeholder i ++ rest := by
    intro j hj hstart
    have := placeholder_unique hstart
    omega
  have hcons : placeholder i ++ rest = '{' :: ((Nat.toDigits 10 i ++ ['}']) ++ rest) := rfl
  rw [hcons] at hstart ⊢
  rw [substitute_char texts hstart, substitute_append_of_not_mem texts (not_mem_behind_brace i)]
  rfl

/-- Exchanging a placeholder for itself changes nothing. -/
theorem substitute_succ_of_eq (h : texts k = placeholder k) (text : List Char) :
    substitute (k + 1) texts text = substitute k texts text := by
  induction text using placeholders_induction_succ k with
  | nil => rw [substitute_nil, substitute_nil]
  | below i rest hi ih =>
    rw [substitute_placeholder texts (Nat.lt_add_one_of_lt hi), substitute_placeholder texts hi, ih]
  | own rest ih =>
    rw [substitute_placeholder texts (Nat.lt_add_one k),
      substitute_placeholder_of_le texts (Nat.le_refl k), h, ih]
  | char c rest hc ih =>
    rw [substitute_char texts hc, substitute_char texts fun i hi => hc i (Nat.lt_succ_of_lt hi), ih]

end Substitute

section Occurrences

/-- A placeholder starts with its brace only. -/
theorem occurrences_placeholder_of_not_mem {before : List Char} (h : '{' ∉ before)
    (behind : List Char) :
    occurrences (placeholder k) (before ++ behind) = occurrences (placeholder k) behind :=
  occurrences_append_of_not_mem h behind

theorem occurrences_append_brace (k : Nat) (before behind : List Char) :
    occurrences (placeholder k) (before ++ '{' :: behind) =
      occurrences (placeholder k) before + occurrences (placeholder k) ('{' :: behind) :=
  occurrences_append_cons (not_mem_behind_brace k) before behind

/-- The placeholder of another number does not count. -/
theorem occurrences_append_placeholder (k i : Nat) (before rest : List Char) :
    occurrences (placeholder k) (before ++ placeholder i ++ rest) =
      occurrences (placeholder k) before + (if k = i then 1 else 0) +
        occurrences (placeholder k) rest := by
  have hstart : placeholder k <+: placeholder i ++ rest ↔ k = i := by
    refine ⟨placeholder_unique, ?_⟩
    rintro rfl
    exact List.prefix_append _ _
  have hcons : placeholder i ++ rest = '{' :: ((Nat.toDigits 10 i ++ ['}']) ++ rest) := rfl
  rw [List.append_assoc, hcons, occurrences_append_brace, occurrences_cons, ← hcons,
    occurrences_placeholder_of_not_mem (not_mem_behind_brace i)]
  simp only [hstart]
  omega

theorem occurrences_placeholder (k i : Nat) (rest : List Char) :
    occurrences (placeholder k) (placeholder i ++ rest) =
      (if k = i then 1 else 0) + occurrences (placeholder k) rest := by
  have hnil : occurrences (placeholder k) [] = 0 := rfl
  have happend := occurrences_append_placeholder k i [] rest
  rwa [List.nil_append, hnil, Nat.zero_add] at happend

theorem occurrences_char {c : Char} (h : ¬placeholder k <+: c :: rest) :
    occurrences (placeholder k) (c :: rest) = occurrences (placeholder k) rest := by
  rw [occurrences_cons, if_neg h, Nat.zero_add]

/-- A text with placeholders falls into what is before the first one and what is behind it. -/
theorem exists_append_placeholder {text : List Char} (h : occurrences (placeholder k) text ≠ 0) :
    ∃ before behind, occurrences (placeholder k) before = 0 ∧
      text = before ++ placeholder k ++ behind := by
  cases hcut : cut? (placeholder k) text with
  | none => exact absurd (occurrences_eq_zero_iff.mpr (cut?_eq_none_iff.mp hcut)) h
  | some found =>
    exact ⟨found.1, found.2,
      occurrences_eq_zero_iff.mpr (not_infix_of_cut? (placeholder_ne_nil k) hcut),
      (append_of_cut? hcut).symm⟩

theorem replace_placeholder {before : List Char} (h : occurrences (placeholder k) before = 0)
    (replacement behind : List Char) :
    replace (placeholder k) replacement (before ++ placeholder k ++ behind) =
      before ++ replacement ++ replace (placeholder k) replacement behind :=
  replace_of_cut? replacement (placeholder_ne_nil k)
    (cut?_append (not_mem_behind_brace k) (occurrences_eq_zero_iff.mp h) behind)

/-- Every exchange of a placeholder changes the length alike. -/
theorem length_replace_placeholder (k : Nat) (replacement text : List Char) :
    (replace (placeholder k) replacement text).length +
        occurrences (placeholder k) text * (placeholder k).length =
      text.length + occurrences (placeholder k) text * replacement.length := by
  rw [replace, dif_neg (placeholder_ne_nil k)]
  fun_induction replaceNonempty (placeholder k) (placeholder_ne_nil k) replacement text with
  | case1 text hcut =>
    rw [occurrences_eq_zero_iff.mpr (cut?_eq_none_iff.mp hcut)]
    omega
  | case2 text before behind hcut ih =>
    have hzero := occurrences_eq_zero_iff.mpr (not_infix_of_cut? (placeholder_ne_nil k) hcut)
    rw [← append_of_cut? hcut, occurrences_append_placeholder, hzero, if_pos rfl, Nat.zero_add,
      Nat.add_mul, Nat.add_mul, Nat.one_mul, Nat.one_mul]
    simp only [List.length_append]
    omega

end Occurrences

section Replacing

variable (texts : Nat → List Char)

theorem length_substitute (k : Nat) (text : List Char) :
    (substitute (k + 1) texts text).length +
        occurrences (placeholder k) text * (placeholder k).length =
      (substitute k texts text).length +
        occurrences (placeholder k) text * (texts k).length := by
  induction text using placeholders_induction_succ k with
  | nil => simp [substitute_nil, occurrences, placeholder]
  | below i rest hi ih =>
    rw [substitute_placeholder texts (Nat.lt_add_one_of_lt hi), substitute_placeholder texts hi,
      occurrences_placeholder, if_neg hi.ne', Nat.zero_add]
    simp only [List.length_append]
    omega
  | own rest ih =>
    rw [substitute_placeholder texts (Nat.lt_add_one k),
      substitute_placeholder_of_le texts (Nat.le_refl k), occurrences_placeholder, if_pos rfl,
      Nat.add_mul, Nat.add_mul, Nat.one_mul, Nat.one_mul]
    simp only [List.length_append]
    omega
  | char c rest hc ih =>
    rw [substitute_char texts hc, substitute_char texts fun i hi => hc i (Nat.lt_succ_of_lt hi),
      occurrences_char (hc k (Nat.lt_succ_self k))]
    simp only [List.length_cons]
    omega

/-- A placeholder that is left as it is occurs as often as before at least. -/
theorem occurrences_le_substitute (k : Nat) (before text : List Char) :
    occurrences (placeholder k) text ≤
      occurrences (placeholder k) (before ++ substitute k texts text) := by
  induction text using placeholders_induction_succ k generalizing before with
  | nil => exact Nat.zero_le _
  | below i rest hi ih =>
    rw [occurrences_placeholder, substitute_placeholder texts hi, if_neg hi.ne', Nat.zero_add,
      ← List.append_assoc]
    exact ih (before ++ texts i)
  | own rest ih =>
    have hrest := ih []
    rw [List.nil_append] at hrest
    rw [occurrences_placeholder, substitute_placeholder_of_le texts (Nat.le_refl k),
      ← List.append_assoc, occurrences_append_placeholder]
    omega
  | char c rest hc ih =>
    rw [substitute_char texts fun i hi => hc i (Nat.lt_succ_of_lt hi),
      occurrences_char (hc k (Nat.lt_succ_self k))]
    simpa using ih (before ++ [c])

/-- If no more placeholders are there than those of the text itself, they are exchanged as if this
had been done together with the others. -/
theorem replace_append_substitute (k : Nat) (before text : List Char)
    (h : occurrences (placeholder k) (before ++ substitute k texts text) =
      occurrences (placeholder k) text) :
    replace (placeholder k) (texts k) (before ++ substitute k texts text) =
      before ++ substitute (k + 1) texts text := by
  induction text using placeholders_induction_succ k generalizing before with
  | nil =>
    rw [substitute_nil, substitute_nil, List.append_nil] at *
    exact replace_of_not_infix (texts k) (placeholder_ne_nil k) (occurrences_eq_zero_iff.mp h)
  | below i rest hi ih =>
    rw [substitute_placeholder texts hi, ← List.append_assoc] at h ⊢
    rw [occurrences_placeholder, if_neg hi.ne', Nat.zero_add] at h
    rw [substitute_placeholder texts (Nat.lt_add_one_of_lt hi), ih (before ++ texts i) h,
      List.append_assoc]
  | own rest ih =>
    -- No placeholder of this number is in the text before, and none too many behind it.
    have hle := occurrences_le_substitute texts k [] rest
    rw [List.nil_append] at hle
    rw [substitute_placeholder_of_le texts (Nat.le_refl k), ← List.append_assoc] at h ⊢
    rw [occurrences_append_placeholder, occurrences_placeholder, if_pos rfl] at h
    have hrest := ih [] (by rw [List.nil_append]; omega)
    rw [List.nil_append, List.nil_append] at hrest
    rw [substitute_placeholder texts (Nat.lt_add_one k), replace_placeholder (by omega), hrest,
      List.append_assoc]
  | char c rest hc ih =>
    rw [substitute_char texts fun i hi => hc i (Nat.lt_succ_of_lt hi)] at h ⊢
    rw [occurrences_char (hc k (Nat.lt_succ_self k))] at h
    rw [substitute_char texts hc]
    simpa using ih (before ++ [c]) (by simpa using h)

/-- The first placeholder that is exchanged shows in the result. -/
theorem eq_of_replace_eq {replacement before behind behind' : List Char}
    (hlength : replacement.length = (placeholder k).length)
    (hbefore : occurrences (placeholder k) before = 0)
    (h : replace (placeholder k) replacement (before ++ placeholder k ++ behind) =
      before ++ placeholder k ++ behind') : replacement = placeholder k := by
  rw [replace_placeholder hbefore, List.append_assoc, List.append_assoc] at h
  exact (List.append_inj (List.append_cancel_left h) hlength).1

/-- A placeholder too many shows, if it is exchanged for another text of the same length. -/
theorem occurrences_eq_of_replace_eq (k : Nat) (hlength : (texts k).length = (placeholder k).length)
    (hne : texts k ≠ placeholder k) (before text : List Char)
    (h : replace (placeholder k) (texts k) (before ++ substitute k texts text) =
      before ++ substitute (k + 1) texts text) :
    occurrences (placeholder k) (before ++ substitute k texts text) =
      occurrences (placeholder k) text := by
  induction text using placeholders_induction_succ k generalizing before with
  | nil =>
    rw [substitute_nil, substitute_nil, List.append_nil] at *
    by_contra hcount
    obtain ⟨first, behind, hfirst, rfl⟩ := exists_append_placeholder hcount
    exact hne (eq_of_replace_eq hlength hfirst h)
  | below i rest hi ih =>
    rw [substitute_placeholder texts (Nat.lt_add_one_of_lt hi), ← List.append_assoc before] at h
    rw [substitute_placeholder texts hi, ← List.append_assoc] at h ⊢
    rw [occurrences_placeholder, if_neg hi.ne', Nat.zero_add]
    exact ih (before ++ texts i) h
  | own rest ih =>
    rw [substitute_placeholder texts (Nat.lt_add_one k)] at h
    rw [substitute_placeholder_of_le texts (Nat.le_refl k), ← List.append_assoc] at h ⊢
    by_cases hbefore : occurrences (placeholder k) before = 0
    · rw [replace_placeholder hbefore, List.append_assoc] at h
      have hrest := ih [] (List.append_cancel_left (List.append_cancel_left h))
      rw [List.nil_append] at hrest
      rw [occurrences_append_placeholder, occurrences_placeholder, if_pos rfl, hbefore, hrest,
        Nat.zero_add]
    · obtain ⟨first, behind, hfirst, rfl⟩ := exists_append_placeholder hbefore
      have hearly : replace (placeholder k) (texts k) (first ++ placeholder k ++
          (behind ++ placeholder k ++ substitute k texts rest)) =
            first ++ placeholder k ++ (behind ++ (texts k ++ substitute (k + 1) texts rest)) := by
        simpa using h
      exact absurd (eq_of_replace_eq hlength hfirst hearly) hne
  | char c rest hc ih =>
    rw [substitute_char texts fun i hi => hc i (Nat.lt_succ_of_lt hi)] at h ⊢
    rw [substitute_char texts hc] at h
    rw [occurrences_char (hc k (Nat.lt_succ_self k))]
    simpa using ih (before ++ [c]) (by simpa using h)

/-- Exchanging one more placeholder is exchanging it with the others exactly if it occurs as often
as in the text itself, or if it is exchanged for itself. -/
theorem replace_substitute_iff (k : Nat) (text : List Char) :
    replace (placeholder k) (texts k) (substitute k texts text) = substitute (k + 1) texts text ↔
      occurrences (placeholder k) (substitute k texts text) = occurrences (placeholder k) text ∨
        texts k = placeholder k := by
  constructor
  · intro h
    by_cases hself : texts k = placeholder k
    · exact .inr hself
    refine .inl ?_
    by_cases hlength : (texts k).length = (placeholder k).length
    · exact occurrences_eq_of_replace_eq texts k hlength hself [] text h
    · -- Every exchange changes the length, so both sides have as many of them.
      have hreplace := length_replace_placeholder k (texts k) (substitute k texts text)
      have hsubstitute := length_substitute texts k text
      rw [h] at hreplace
      have hdifference : ((occurrences (placeholder k) (substitute k texts text) : Int) -
          occurrences (placeholder k) text) * ((texts k).length - (placeholder k).length) = 0 := by
        zify at hreplace hsubstitute
        linear_combination hsubstitute - hreplace
      obtain hcount | hsame := Int.mul_eq_zero.mp hdifference
      · omega
      · exact absurd (by omega) hlength
  · rintro (hcount | hself)
    · exact replace_append_substitute texts k [] text hcount
    · rw [substitute_succ_of_eq texts hself, hself, replace_eq_join_split, join_split]

end Replacing

section Inert

variable {before : List Char}

/-- A text without braces and with some other character than a digit can be no part of a
placeholder. -/
structure Inert (text : List Char) : Prop where
  opening : '{' ∉ text
  closing : '}' ∉ text
  other : ∃ c ∈ text, c.isDigit = false

theorem Inert.not_prefix {inserted : List Char} (h : Inert inserted)
    (before behind : List Char) :
    placeholder k <+: before ++ inserted ++ behind ↔ placeholder k <+: before := by
  rw [List.append_assoc]
  refine ⟨fun hstart => ?_, fun hstart => hstart.trans (List.prefix_append _ _)⟩
  obtain hshort | ⟨end', hend⟩ :=
    List.prefix_or_prefix_of_prefix hstart (List.prefix_append before (inserted ++ behind))
  · exact hshort
  rw [← hend, List.prefix_append_right_inj] at hstart
  obtain hinside | hover :=
    List.prefix_or_prefix_of_prefix hstart (List.prefix_append inserted behind)
  · -- What is left of the placeholder ends with its brace, which the text does not have.
    obtain rfl | hne := eq_or_ne end' []
    · rw [← hend, List.append_nil]
    · have hlast : end'.getLast hne = '}' := by
        rw [← List.getLast_append_of_ne_nil (l := before) (by simp [hne]) hne]
        simp [hend, placeholder]
      exact absurd (hlast ▸ hinside.subset (List.getLast_mem hne)) h.closing
  · obtain ⟨c, hc, hdigit⟩ := h.other
    have hmem : c ∈ placeholder k := hend ▸ List.mem_append_right before (hover.subset hc)
    obtain rfl | hbehind := List.mem_cons.mp hmem
    · exact absurd hc h.opening
    obtain hdigits | hbrace := List.mem_append.mp hbehind
    · rw [isDigit_of_mem_toDigits hdigits] at hdigit
      cases hdigit
    · obtain rfl := List.mem_singleton.mp hbrace
      exact absurd hc h.closing

theorem Inert.occurrences_append {inserted : List Char} (h : Inert inserted)
    (before behind : List Char) :
    occurrences (placeholder k) (before ++ inserted ++ behind) =
      occurrences (placeholder k) before + occurrences (placeholder k) behind := by
  induction before with
  | nil =>
    rw [List.nil_append, occurrences_placeholder_of_not_mem h.opening]
    exact (Nat.zero_add _).symm
  | cons c before ih =>
    have hstart := h.not_prefix (k := k) (c :: before) behind
    rw [List.cons_append, List.cons_append] at hstart ⊢
    rw [occurrences_cons, occurrences_cons, ih]
    simp only [hstart]
    omega

/-- Texts that can be no part of a placeholder do not change how many there are. -/
theorem occurrences_substitute_of_inert {texts : Nat → List Char} (h : ∀ i < k, Inert (texts i))
    (before text : List Char) :
    occurrences (placeholder k) (before ++ substitute k texts text) =
      occurrences (placeholder k) (before ++ text) := by
  induction text using placeholders_induction k generalizing before with
  | nil => rw [substitute_nil]
  | found i rest hi ih =>
    have hrest := ih []
    rw [List.nil_append, List.nil_append] at hrest
    rw [substitute_placeholder _ hi, ← List.append_assoc, ← List.append_assoc,
      occurrences_append_placeholder, (h i hi).occurrences_append, hrest, if_neg (by omega),
      Nat.add_zero]
  | char c rest hc ih =>
    rw [substitute_char _ hc]
    simpa using ih (before ++ [c])

end Inert

end DocTemplate.Text

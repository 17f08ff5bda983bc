import DocTemplate.Function.Collection
import DocTemplate.Function.TextFunctions
import Mathlib.Data.List.Induction

/-!
# Arrays as sets

Union and intersection take arrays as sets of display texts. On the left they keep every item in its
place, also one that is displayed like another one, and from the right they take each display text
once.

## Main definitions

* `CollectionFunctions.firstShown` — the items that show a text for the first time.

## Main statements

* `CollectionFunctions.newItems_eq_firstShown` — what a union takes from the right.
* `CollectionFunctions.unionItems_assoc`, `unionItems_intersectionItems`,
  `intersectionItems_unionItems` — laws of sets.
* `CollectionFunctions.union_and_intersection_laws` — the functions on arrays as sets.
-/

namespace DocTemplate.CollectionFunctions

open TextFunctions (contains)

variable {seen seen' : List String} {as bs cs : List Value} {v x : Value}

theorem contains_array_iff :
    contains (.array as) x = .boolean true ↔ x.display ∈ as.map Value.display := by
  simp [contains]

/-! ### What is not shown yet -/

theorem newItems_cons_of_mem (h : v.display ∈ seen) (vs : List Value) :
    newItems seen (v :: vs) = newItems seen vs := by
  simp [newItems, h]

theorem newItems_cons_of_not_mem (h : v.display ∉ seen) (vs : List Value) :
    newItems seen (v :: vs) = v :: newItems (v.display :: seen) vs := by
  simp [newItems, h]

/-- It does not matter in which order and how often texts were seen. -/
theorem newItems_congr (h : ∀ d, d ∈ seen ↔ d ∈ seen') (vs : List Value) :
    newItems seen vs = newItems seen' vs := by
  induction vs generalizing seen seen' with
  | nil => rfl
  | cons v vs ih =>
    by_cases hv : v.display ∈ seen
    · rw [newItems_cons_of_mem hv, newItems_cons_of_mem ((h _).mp hv), ih h]
    · have hcons : ∀ d, d ∈ v.display :: seen ↔ d ∈ v.display :: seen' := by simp [h]
      rw [newItems_cons_of_not_mem hv, newItems_cons_of_not_mem (mt (h _).mpr hv), ih hcons]

/-- The items behind others are taken as if all texts before them were seen. -/
theorem newItems_append (seen : List String) (bs cs : List Value) :
    newItems seen (bs ++ cs) =
      newItems seen bs ++ newItems (bs.map Value.display ++ seen) cs := by
  induction bs generalizing seen with
  | nil => rfl
  | cons v bs ih =>
    rw [List.cons_append]
    by_cases hv : v.display ∈ seen
    · rw [newItems_cons_of_mem hv, newItems_cons_of_mem hv, ih]
      congr 1
      apply newItems_congr
      grind
    · rw [newItems_cons_of_not_mem hv, newItems_cons_of_not_mem hv, ih, List.cons_append]
      congr 2
      apply newItems_congr
      grind

theorem newItems_eq_nil (h : ∀ v ∈ bs, v.display ∈ seen) : newItems seen bs = [] := by
  induction bs with
  | nil => rfl
  | cons v bs ih =>
    obtain ⟨hv, hbs⟩ := List.forall_mem_cons.mp h
    rw [newItems_cons_of_mem hv, ih hbs]

/-- The texts that the new items show are those that were not seen. -/
theorem mem_display_newItems {d : String} :
    d ∈ (newItems seen bs).map Value.display ↔ d ∈ bs.map Value.display ∧ d ∉ seen := by
  induction bs generalizing seen with
  | nil => simp [newItems]
  | cons v bs ih =>
    by_cases hv : v.display ∈ seen
    · rw [newItems_cons_of_mem hv, ih, List.map_cons, List.mem_cons]
      constructor
      · rintro ⟨hd, hnew⟩
        exact ⟨.inr hd, hnew⟩
      · rintro ⟨rfl | hd, hnew⟩
        · exact absurd hv hnew
        · exact ⟨hd, hnew⟩
    · rw [newItems_cons_of_not_mem hv, List.map_cons, List.map_cons, List.mem_cons, List.mem_cons,
        ih, List.mem_cons]
      grind

/-- No two new items are displayed alike. -/
theorem pairwise_newItems (seen : List String) (bs : List Value) :
    (newItems seen bs).Pairwise fun v w => v.display ≠ w.display := by
  induction bs generalizing seen with
  | nil => exact .nil
  | cons v bs ih =>
    by_cases hv : v.display ∈ seen
    · rw [newItems_cons_of_mem hv]
      exact ih seen
    · rw [newItems_cons_of_not_mem hv]
      refine .cons (fun w hw heq => ?_) (ih _)
      obtain ⟨-, hnew⟩ := mem_display_newItems.mp (List.mem_map_of_mem hw)
      exact hnew (heq ▸ List.mem_cons_self)

/-- Items that are left out because their texts were seen do not matter if these are seen anyway. -/
theorem newItems_newItems (h : seen ⊆ seen') (cs : List Value) :
    newItems seen' (newItems seen cs) = newItems seen' cs := by
  induction cs generalizing seen seen' with
  | nil => rfl
  | cons v cs ih =>
    by_cases hv : v.display ∈ seen
    · rw [newItems_cons_of_mem hv, newItems_cons_of_mem (h hv), ih h]
    · rw [newItems_cons_of_not_mem hv]
      by_cases hv' : v.display ∈ seen'
      · rw [newItems_cons_of_mem hv', newItems_cons_of_mem hv', ih (List.cons_subset.mpr ⟨hv', h⟩)]
      · rw [newItems_cons_of_not_mem hv', newItems_cons_of_not_mem hv',
          ih (List.cons_subset_cons _ h)]

/-- The items of the second list that are displayed neither like an item of the first one nor like
one before them. -/
def firstShown (as bs : List Value) : List Value :=
  (bs.zipIdx.filter fun item =>
    item.1.display ∉ (as ++ bs.take item.2).map Value.display).map (·.1)

theorem firstShown_concat (as bs : List Value) (v : Value) :
    firstShown as (bs ++ [v]) = firstShown as bs ++
      if v.display ∈ (as ++ bs).map Value.display then [] else [v] := by
  have hbefore : ∀ item ∈ bs.zipIdx, (bs ++ [v]).take item.2 = bs.take item.2 := by
    intro item hitem
    have hlt := List.snd_lt_of_mem_zipIdx hitem
    exact List.take_append_of_le_length (by omega)
  have hfirst : (bs.zipIdx.filter fun item =>
      item.1.display ∉ (as ++ (bs ++ [v]).take item.2).map Value.display) =
        bs.zipIdx.filter fun item =>
          item.1.display ∉ (as ++ bs.take item.2).map Value.display :=
    List.filter_congr fun item hitem => by rw [hbefore item hitem]
  rw [firstShown, firstShown, List.zipIdx_append, List.filter_append, List.map_append, hfirst]
  congr 1
  have hall : (bs ++ [v]).take (0 + bs.length) = bs := by simp
  rw [List.zipIdx_singleton]
  by_cases hv : v.display ∈ (as ++ bs).map Value.display
  · rw [if_pos hv, List.filter_cons_of_neg (by simp only [hall, hv]; decide)]
    rfl
  · rw [if_neg hv, List.filter_cons_of_pos (by simp only [hall, hv]; decide)]
    rfl

/-- The new items are those that show a text for the first time. -/
theorem newItems_eq_firstShown (as bs : List Value) :
    newItems (as.map Value.display) bs = firstShown as bs := by
  induction bs using List.reverseRecOn with
  | nil => rfl
  | append_singleton bs v ih =>
    rw [newItems_append, firstShown_concat, ih]
    congr 1
    by_cases hv : v.display ∈ bs.map Value.display ++ as.map Value.display
    · rw [newItems_cons_of_mem hv, if_pos (by grind)]
      rfl
    · rw [newItems_cons_of_not_mem hv, if_neg (by grind)]
      rfl

/-! ### Laws of sets -/

theorem mem_display_unionItems {d : String} : d ∈ (unionItems as bs).map Value.display ↔
    d ∈ as.map Value.display ∨ d ∈ bs.map Value.display := by
  rw [unionItems, List.map_append, List.mem_append, mem_display_newItems]
  grind

theorem mem_display_intersectionItems {d : String} :
    d ∈ (intersectionItems as bs).map Value.display ↔
      d ∈ as.map Value.display ∧ d ∈ bs.map Value.display := by
  simp only [intersectionItems, List.mem_map, List.mem_filter, List.contains_iff_mem]
  constructor
  · rintro ⟨v, ⟨hv, w, hw, heq⟩, rfl⟩
    exact ⟨⟨v, hv, rfl⟩, w, hw, heq⟩
  · rintro ⟨⟨v, hv, rfl⟩, hw⟩
    exact ⟨v, ⟨hv, hw⟩, rfl⟩

theorem unionItems_eq_self (h : ∀ v ∈ bs, v.display ∈ as.map Value.display) :
    unionItems as bs = as := by
  rw [unionItems, newItems_eq_nil h, List.append_nil]

theorem unionItems_assoc (as bs cs : List Value) :
    unionItems (unionItems as bs) cs = unionItems as (unionItems bs cs) := by
  have hseen : ∀ d, d ∈ (unionItems as bs).map Value.display ↔
      d ∈ bs.map Value.display ++ as.map Value.display := by
    intro d
    rw [mem_display_unionItems, List.mem_append, or_comm]
  calc unionItems (unionItems as bs) cs
    _ = as ++ newItems (as.map Value.display) bs ++
        newItems (bs.map Value.display ++ as.map Value.display) cs := by
      rw [unionItems, newItems_congr hseen, unionItems]
    _ = as ++ newItems (as.map Value.display) bs ++
        newItems (bs.map Value.display ++ as.map Value.display)
          (newItems (bs.map Value.display) cs) := by
      rw [newItems_newItems (List.subset_append_left _ _)]
    _ = unionItems as (unionItems bs cs) := by
      rw [unionItems, unionItems, newItems_append, List.append_assoc]

theorem unionItems_intersectionItems (as bs : List Value) :
    unionItems as (intersectionItems as bs) = as :=
  unionItems_eq_self fun _ hv => List.mem_map_of_mem (List.mem_filter.mp hv).1

theorem intersectionItems_unionItems (as bs : List Value) :
    intersectionItems as (unionItems as bs) = as := by
  rw [intersectionItems, List.filter_eq_self]
  intro v hv
  rw [List.contains_iff_mem, mem_display_unionItems]
  exact .inl (List.mem_map_of_mem hv)

theorem intersectionItems_eq_filter (as bs : List Value) :
    intersectionItems as bs = as.filter fun v => bs.any fun w => w.display == v.display := by
  refine List.filter_congr fun v _ => ?_
  rw [Bool.eq_iff_iff, List.contains_iff_mem, List.mem_map, List.any_eq_true]
  simp only [beq_iff_eq]

/-- With membership by display text, as an array tests it, union and intersection are those of sets.
A union is the left array with the items behind it that show a text for the first time, no two of
them alike; an intersection is the left array without the items that the right one does not show.
The union is associative, and union and intersection absorb each other. -/
theorem union_and_intersection_laws (as bs cs : List Value) :
    (∀ x, contains (onTwo unionItems (.array as) (.array bs)) x = .boolean true ↔
      contains (.array as) x = .boolean true ∨ contains (.array bs) x = .boolean true) ∧
    (∀ x, contains (onTwo intersectionItems (.array as) (.array bs)) x = .boolean true ↔
      contains (.array as) x = .boolean true ∧ contains (.array bs) x = .boolean true) ∧
    onTwo unionItems (.array as) (.array bs) = .array (as ++ firstShown as bs) ∧
    (firstShown as bs).Pairwise (fun v w => v.display ≠ w.display) ∧
    onTwo intersectionItems (.array as) (.array bs) =
      .array (as.filter fun v => bs.any fun w => w.display == v.display) ∧
    onTwo unionItems (onTwo unionItems (.array as) (.array bs)) (.array cs) =
      onTwo unionItems (.array as) (onTwo unionItems (.array bs) (.array cs)) ∧
    onTwo unionItems (.array as) (.array as) = .array as ∧
    onTwo unionItems (.array as) (onTwo intersectionItems (.array as) (.array bs)) = .array as ∧
    onTwo intersectionItems (.array as) (onTwo unionItems (.array as) (.array bs)) = .array as := by
  simp only [onTwo, contains_array_iff]
  refine ⟨fun x => mem_display_unionItems, fun x => mem_display_intersectionItems, ?_, ?_, ?_, ?_,
    ?_, ?_, ?_⟩
  · rw [unionItems, newItems_eq_firstShown]
  · rw [← newItems_eq_firstShown]
    exact pairwise_newItems _ bs
  · rw [intersectionItems_eq_filter]
  · rw [unionItems_assoc]
  · rw [unionItems_eq_self fun v hv => List.mem_map_of_mem hv]
  · rw [unionItems_intersectionItems]
  · rw [intersectionItems_unionItems]

/-- Null and the empty text are taken as one on the right, but both stay on the left. -/
example : (unionItems [.null, .string ""] [.string "", .number 1, .string "1"]).map Value.display =
    ["", "", "1"] := by
  decide +kernel

end DocTemplate.CollectionFunctions

import DocTemplate.Function.Collection
import DocTemplate.Proofs.Number.Ordering

/-!
# Sorted arrays

Sorting an array keeps its items and brings them into the order that goes with their kinds: numbers
among numbers by the total order of doubles, texts among texts by the codes of their characters, and
all others by their display texts. Items that compare equal keep their order. A sorted array has
items of the same kinds, so sorting it again changes nothing.

## Main definitions

* `IsStableSort` — a list brought into an order in which what compares equal keeps its order.
* `CollectionFunctions.NumbersInOrder`, `TextsInOrder`, `DisplaysInOrder` — the three orders.

## Main statements

* `isStableSort_mergeSort` — merging sorts are stable.
* `CollectionFunctions.sort_is_stable` — sorting an array is a stable sort in each of the orders.
-/

namespace DocTemplate

section StableSort

variable {α : Type} {le : α → α → Bool} {r : α → α → Prop} {items sorted : List α}

open Classical in
/-- A list brought into an order: the same elements, none of them behind one that it should stand
before, and those that compare equal to one of them in the order in which they were. -/
structure IsStableSort (r : α → α → Prop) (items sorted : List α) : Prop where
  perm : sorted.Perm items
  ordered : sorted.Pairwise r
  stable : ∀ k ∈ items, sorted.filter (fun a => r a k ∧ r k a) = items.filter fun a => r a k ∧ r k a

variable (htrans : ∀ a b c, le a b → le b c → le a c) (htotal : ∀ a b, le a b || le b a)

include htrans htotal

/-- The elements that compare equal to one are in order, so that they stay as they are. -/
theorem filter_mergeSort_of_tied (items : List α) (k : α) :
    (items.mergeSort le).filter (fun a => le a k && le k a) =
      items.filter fun a => le a k && le k a := by
  have htied : (items.filter fun a => le a k && le k a).Pairwise fun a b => le a b := by
    apply List.pairwise_of_forall_mem_list
    intro a ha b hb
    obtain ⟨hak, -⟩ := Bool.and_eq_true_iff.mp (List.mem_filter.mp ha).2
    obtain ⟨-, hkb⟩ := Bool.and_eq_true_iff.mp (List.mem_filter.mp hb).2
    exact htrans a k b hak hkb
  have hsub := (List.sublist_mergeSort htrans htotal htied List.filter_sublist).filter
    fun a => le a k && le k a
  rw [List.filter_filter] at hsub
  simp only [Bool.and_self] at hsub
  exact (hsub.eq_of_length ((List.mergeSort_perm items le).symm.filter _).length_eq).symm

open Classical in
/-- Sorting by a test for an order is a stable sort. -/
theorem isStableSort_mergeSort (h : ∀ a ∈ items, ∀ b ∈ items, le a b ↔ r a b) :
    IsStableSort r items (items.mergeSort le) where
  perm := List.mergeSort_perm items le
  ordered := by
    refine (List.pairwise_mergeSort htrans htotal items).imp_of_mem fun {a b} ha hb hab => ?_
    exact (h a (List.mem_mergeSort.mp ha) b (List.mem_mergeSort.mp hb)).mp hab
  stable := by
    intro k hk
    have htied : ∀ a ∈ items, (le a k && le k a) = decide (r a k ∧ r k a) := by
      intro a ha
      rw [Bool.eq_iff_iff, Bool.and_eq_true_iff, decide_eq_true_iff, h a ha k hk, h k hk a ha]
    rw [← List.filter_congr htied, ← filter_mergeSort_of_tied htrans htotal]
    refine List.filter_congr fun a ha => ?_
    exact (htied a (List.mem_mergeSort.mp ha)).symm

end StableSort

namespace CollectionFunctions

variable {items : List Value} {a b : Value}

/-! ### The three orders -/

/-- The codes of the characters of a text. -/
def codes (s : String) : List Nat :=
  s.toList.map Char.toNat

/-- Two numbers in the total order of doubles. -/
def NumbersInOrder (a b : Value) : Prop :=
  ∃ x y, a = .number x ∧ b = .number y ∧ Number.NotBehind x y

/-- Two texts in the order of their character codes. -/
def TextsInOrder (a b : Value) : Prop :=
  ∃ s t, a = .string s ∧ b = .string t ∧ codes s ≤ codes t

/-- Two values whose display texts are in the order of their character codes. -/
def DisplaysInOrder (a b : Value) : Prop :=
  codes a.display ≤ codes b.display

theorem textLe_iff {s t : String} : textLe s t ↔ codes s ≤ codes t := by
  have hcodes : StrictMono (List.map Char.toNat) :=
    fun _ _ h => List.map_lt (fun _ _ hlt => hlt) h
  rw [textLe, decide_eq_true_iff, String.le_iff_toList_le]
  exact hcodes.le_iff_le.symm

theorem byNumber_trans (a b c : Value) (hab : byNumber a b) (hbc : byNumber b c) :
    byNumber a c := by
  simp only [byNumber, Number.totalLe, decide_eq_true_iff] at *
  exact hab.trans hbc

theorem byNumber_total (a b : Value) : byNumber a b || byNumber b a := by
  simp only [byNumber, Number.totalLe, Bool.or_eq_true, decide_eq_true_iff]
  exact Int.le_total _ _

theorem byDisplay_trans (a b c : Value) (hab : byDisplay a b) (hbc : byDisplay b c) :
    byDisplay a c := by
  simp only [byDisplay, textLe, decide_eq_true_iff] at *
  exact String.le_trans hab hbc

theorem byDisplay_total (a b : Value) : byDisplay a b || byDisplay b a := by
  simp only [byDisplay, textLe, Bool.or_eq_true, decide_eq_true_iff]
  exact String.le_total _ _

/-! ### Sorting an array -/

theorem sortItems_of_numbers (h : items.all Value.isNumber) :
    sortItems items = items.mergeSort byNumber :=
  if_pos h

theorem sortItems_of_others (h : ¬items.all Value.isNumber) :
    sortItems items = items.mergeSort byDisplay :=
  if_neg h

theorem byNumber_iff (ha : a.isNumber) (hb : b.isNumber) : byNumber a b ↔ NumbersInOrder a b := by
  cases a <;> cases b <;> simp_all [Value.isNumber, byNumber, NumbersInOrder, Value.toNumber,
    Number.totalLe_iff]

theorem byDisplay_iff : byDisplay a b ↔ DisplaysInOrder a b :=
  textLe_iff

theorem byDisplay_iff_of_texts (ha : a.isString) (hb : b.isString) :
    byDisplay a b ↔ TextsInOrder a b := by
  cases a <;> cases b <;> simp_all [Value.isString, byDisplay, TextsInOrder, Value.display,
    textLe_iff]

theorem sortItems_perm (items : List Value) : (sortItems items).Perm items := by
  unfold sortItems
  split <;> exact List.mergeSort_perm _ _

/-- The items of a sorted array are of the same kinds, so that it is sorted by the same order. -/
theorem sortItems_sortItems (items : List Value) :
    sortItems (sortItems items) = sortItems items := by
  have hkinds : (sortItems items).all Value.isNumber = items.all Value.isNumber :=
    (sortItems_perm items).all_eq
  by_cases hnumbers : items.all Value.isNumber
  · rw [sortItems_of_numbers (hkinds.trans hnumbers), sortItems_of_numbers hnumbers]
    exact List.mergeSort_of_pairwise (List.pairwise_mergeSort byNumber_trans byNumber_total items)
  · rw [sortItems_of_others (by rwa [hkinds]), sortItems_of_others hnumbers]
    exact List.mergeSort_of_pairwise (List.pairwise_mergeSort byDisplay_trans byDisplay_total items)

theorem isStableSort_numbers (h : ∀ v ∈ items, v.isNumber) :
    IsStableSort NumbersInOrder items (sortItems items) := by
  rw [sortItems_of_numbers (List.all_eq_true.mpr h)]
  apply isStableSort_mergeSort byNumber_trans byNumber_total
  exact fun a ha b hb => byNumber_iff (h a ha) (h b hb)

theorem isStableSort_texts (h : ∀ v ∈ items, v.isString) :
    IsStableSort TextsInOrder items (sortItems items) := by
  have hitem : ∀ a ∈ items, ∀ b ∈ items, byDisplay a b ↔ TextsInOrder a b :=
    fun a ha b hb => byDisplay_iff_of_texts (h a ha) (h b hb)
  by_cases hnumbers : items.all Value.isNumber
  · -- Only the items of the empty array are numbers and texts.
    obtain rfl : items = [] := by
      apply List.eq_nil_iff_forall_not_mem.mpr
      intro v hv
      have hnumber := List.all_eq_true.mp hnumbers v hv
      have htext := h v hv
      cases v <;> simp_all [Value.isNumber, Value.isString]
    exact isStableSort_mergeSort byNumber_trans byNumber_total (by simp)
  · rw [sortItems_of_others hnumbers]
    exact isStableSort_mergeSort byDisplay_trans byDisplay_total hitem

theorem isStableSort_others (h : ¬∀ v ∈ items, v.isNumber) :
    IsStableSort DisplaysInOrder items (sortItems items) := by
  rw [sortItems_of_others (mt List.all_eq_true.mp h)]
  apply isStableSort_mergeSort byDisplay_trans byDisplay_total
  exact fun a _ b _ => byDisplay_iff

/-- Sorting an array is a stable sort: of numbers by the total order of doubles, of texts by the
codes of their characters, and of other items by their display texts. Sorting it again changes
nothing. What is no array gives the empty array. -/
theorem sort_is_stable :
    (∀ items : List Value, ∃ sorted, onItems sortItems (.array items) = .array sorted ∧
      ((∀ v ∈ items, v.isNumber) → IsStableSort NumbersInOrder items sorted) ∧
      ((∀ v ∈ items, v.isString) → IsStableSort TextsInOrder items sorted) ∧
      ((¬∀ v ∈ items, v.isNumber) → (¬∀ v ∈ items, v.isString) →
        IsStableSort DisplaysInOrder items sorted) ∧
      onItems sortItems (.array sorted) = .array sorted) ∧
    ∀ v : Value, v.items? = none → onItems sortItems v = .array [] := by
  refine ⟨fun items => ⟨sortItems items, rfl, isStableSort_numbers, isStableSort_texts,
    fun h _ => isStableSort_others h, ?_⟩, fun v hv => ?_⟩
  · rw [onItems, sortItems_sortItems]
  · cases v with
    | array items => cases hv
    | _ => rfl

/-- Both zeros between a NaN with its sign set and one without a sign, texts with characters of
different widths, and items of different kinds of which two are displayed alike. -/
theorem sort_is_stable_in_each_order :
    let nan : Double := 0 / 0
    let numbers : List Value := [.number nan.abs, .number 1, .number 0, .number nan, .number (-0)]
    let sorted : List Value := [.number nan, .number (-0), .number 0, .number 1, .number nan.abs]
    (onItems sortItems (.array numbers) = .array sorted ∧
      IsStableSort NumbersInOrder numbers sorted) ∧
    (∃ sorted, onItems sortItems (.array [.string "😀", .string "é", .string "z"]) =
      .array sorted ∧ IsStableSort TextsInOrder [.string "😀", .string "é", .string "z"] sorted) ∧
    ∃ sorted, onItems sortItems (.array [.number 9, .string "10", .number 10]) = .array sorted ∧
      IsStableSort DisplaysInOrder [.number 9, .string "10", .number 10] sorted := by
  intro nan numbers sorted
  have hmerged : sortItems numbers = sorted := by
    rw [sortItems_of_numbers (by decide)]
    simp (disch := decide +kernel) [numbers, sorted, List.mergeSort]
  obtain ⟨found, hfound, hnumbers, -⟩ := sort_is_stable.1 numbers
  obtain ⟨sorted', hsorted', -, htexts, -⟩ :=
    sort_is_stable.1 [.string "😀", .string "é", .string "z"]
  obtain ⟨sorted'', hsorted'', -, -, hothers, -⟩ :=
    sort_is_stable.1 [.number 9, .string "10", .number 10]
  obtain rfl : found = sorted := (Value.array.inj hfound).symm.trans hmerged
  exact ⟨⟨hfound, hnumbers (by decide)⟩, ⟨sorted', hsorted', htexts (by decide)⟩,
    sorted'', hsorted'', hothers (by decide) (by decide)⟩

end CollectionFunctions

end DocTemplate

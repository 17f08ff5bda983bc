import DocTemplate.Proofs.Function.Slicing
import DocTemplate.Proofs.Number.Doubles
import DocTemplate.Proofs.Number.Integers

/-!
# Searches in texts

Whether and where a text stands in another one, whether it is at its start or its end, and the slice
at the place that is found fit each other. Places and numbers of characters are integers here; as
doubles they are exact in every text of less than 2 ^ 53 characters.

## Main definitions

* `TextFunctions.firstPlace` — the first place as an integer.

## Main statements

* `TextFunctions.substring_firstPlace` — the slice at the place that is found is what was searched.
* `TextFunctions.searches_agree` — the searches fit each other and the slices.
-/

namespace DocTemplate.TextFunctions

open Text (StandsAt)

variable {s t : String}

/-- The first place where a text stands in another one, or -1. -/
def firstPlace (s t : String) : Int :=
  match Text.find? t.toList s.toList with
  | some place => place
  | none => -1

theorem firstPlace_eq_natCast_iff {place : Nat} :
    firstPlace s t = place ↔ Text.find? t.toList s.toList = some place := by
  rw [firstPlace]
  split <;> simp_all

theorem firstPlace_eq_neg_one_iff : firstPlace s t = -1 ↔ ¬t.toList <:+: s.toList := by
  rw [← Text.find?_eq_none_iff, firstPlace]
  split <;> grind

theorem firstPlace_nonneg_iff : 0 ≤ firstPlace s t ↔ t.toList <:+: s.toList := by
  rw [← not_iff_not, ← firstPlace_eq_neg_one_iff, firstPlace]
  split <;> omega

theorem firstPlace_eq_zero_iff : firstPlace s t = 0 ↔ t.toList <+: s.toList := by
  rw [← Nat.cast_zero, firstPlace_eq_natCast_iff, Text.find?_eq_some_iff, Text.standsAt_zero_iff]
  simp

theorem indexOf_string (s t : String) :
    indexOf (.string s) (.string t) = .number (Float.ofInt (firstPlace s t)) := by
  cases hfind : Text.find? t.toList s.toList with
  | none =>
    simp only [indexOf, firstPlace, hfind]
    rfl
  | some place =>
    simp only [indexOf, firstPlace, hfind]
    rfl

theorem contains_string (s t : String) :
    contains (.string s) (.string t) = .boolean (decide (0 ≤ firstPlace s t)) := by
  rw [contains, Value.boolean.injEq, Bool.eq_iff_iff, decide_eq_true_iff, firstPlace_nonneg_iff,
    Text.occurs, Option.isSome_iff_ne_none, Ne, Text.cut?_eq_none_iff, not_not]

theorem startsWith_string (s t : String) :
    startsWith (.string s) (.string t) = .boolean (decide (firstPlace s t = 0)) := by
  rw [startsWith, Value.boolean.injEq, Bool.eq_iff_iff, decide_eq_true_iff, firstPlace_eq_zero_iff,
    List.isPrefixOf_iff_prefix]

theorem contains_of_endsWith (h : endsWith (.string s) (.string t) = .boolean true) :
    contains (.string s) (.string t) = .boolean true := by
  rw [endsWith, Value.boolean.injEq, List.isSuffixOf_iff_suffix] at h
  rw [contains_string, Value.boolean.injEq, decide_eq_true_iff, firstPlace_nonneg_iff]
  exact h.isInfix

/-! ### The slice at the place that is found -/

/-- The slice at the place that is found, with as many characters as were searched, is the text that
was searched. The empty text is found at the start of every text, also of the empty one, in which no
slice starts. -/
theorem substring_firstPlace {start count : Value} (hfound : 0 ≤ firstPlace s t)
    (hstart : start.toInteger = firstPlace s t) (hcount : count.toInteger = t.toList.length) :
    substring (.string s) start (some count) = .string t := by
  obtain ⟨place, hplace⟩ := Int.eq_ofNat_of_zero_le hfound
  obtain ⟨hstands, hfirst⟩ := Text.find?_eq_some_iff.mp (firstPlace_eq_natCast_iff.mp hplace)
  have hfits := hstands.length_le
  rw [hplace] at hstart
  obtain hinside | houtside := Nat.lt_or_ge place s.toList.length
  · rw [substring_inside (by omega) (by omega), available, hcount, hstart]
    have hall : (min (max (t.toList.length : Int) 0) (s.toList.length - place)).toNat =
        t.toList.length := by omega
    rw [hall, Int.toNat_natCast, hstands.eq_take_drop, String.ofList_toList]
  · have hempty : t.toList = [] := List.length_eq_zero_iff.mp (by omega)
    have hzero : place = 0 := by
      by_contra hpos
      refine hfirst 0 (Nat.pos_of_ne_zero hpos) ?_
      rw [Text.standsAt_zero_iff, hempty]
      exact List.nil_prefix
    have hsame : s.toList = t.toList := by
      rw [hempty]
      exact List.length_eq_zero_iff.mp (by omega)
    rw [substring_outside (.inr (by omega)), String.toList_inj.mp hsame]

theorem toInteger_ofNat {n : Nat} (h : n < 2 ^ 53) :
    (Value.number (Float.ofNat n)).toInteger = n := by
  rw [Value.toInteger, Value.toNumber, Double.toFloat_ofFloat, Number.toInt64_ofNat h]

/-- The place that is found is read back from its double, if the text is not too long. -/
theorem toInteger_indexOf (hs : s.toList.length < 2 ^ 53) :
    (indexOf (.string s) (.string t)).toInteger = firstPlace s t := by
  rw [indexOf_string]
  cases hfind : Text.find? t.toList s.toList with
  | none =>
    have hplace := firstPlace_eq_neg_one_iff.mpr (Text.find?_eq_none_iff.mp hfind)
    rw [hplace]
    decide +kernel
  | some place =>
    have hplace := firstPlace_eq_natCast_iff.mpr hfind
    have hfits := (Text.standsAt_of_find? hfind).length_le
    rw [hplace]
    exact toInteger_ofNat (by omega)

theorem toInteger_length (ht : t.toList.length < 2 ^ 53) :
    (length (.string t)).toInteger = t.toList.length :=
  toInteger_ofNat ht

/-- What is searched is contained if a place is found, and at the start if this is the first one. A
text that ends with it contains it. The place is the first one where it stands, and the slice there
with as many characters is the text that is searched. In a text whose places are exact as doubles
this is so for the doubles themselves. -/
theorem searches_agree (s t : String) :
    indexOf (.string s) (.string t) = .number (Float.ofInt (firstPlace s t)) ∧
      contains (.string s) (.string t) = .boolean (decide (0 ≤ firstPlace s t)) ∧
      startsWith (.string s) (.string t) = .boolean (decide (firstPlace s t = 0)) ∧
      (endsWith (.string s) (.string t) = .boolean true →
        contains (.string s) (.string t) = .boolean true) ∧
      (∀ place : Nat, firstPlace s t = place ↔ StandsAt t.toList s.toList place ∧
        ∀ other < place, ¬StandsAt t.toList s.toList other) ∧
      (firstPlace s t = -1 ↔ ∀ place, ¬StandsAt t.toList s.toList place) ∧
      (0 ≤ firstPlace s t → ∀ start count : Value, start.toInteger = firstPlace s t →
        count.toInteger = t.toList.length →
          substring (.string s) start (some count) = .string t) ∧
      (s.toList.length < 2 ^ 53 →
        (indexOf (.string s) (.string t)).toInteger = firstPlace s t ∧
          (0 ≤ firstPlace s t →
            substring (.string s) (indexOf (.string s) (.string t)) (some (length (.string t))) =
              .string t)) := by
  refine ⟨indexOf_string s t, contains_string s t, startsWith_string s t, contains_of_endsWith,
    fun place => firstPlace_eq_natCast_iff.trans Text.find?_eq_some_iff, ?_,
    fun hfound start count => substring_firstPlace hfound,
    fun hs => ⟨toInteger_indexOf hs, fun hfound => ?_⟩⟩
  · rw [firstPlace_eq_neg_one_iff, ← Text.exists_standsAt_iff, not_exists]
  · have hfits := (firstPlace_nonneg_iff.mp hfound).length_le
    exact substring_firstPlace hfound (toInteger_indexOf hs) (toInteger_length (by omega))

/-- A text behind characters of two and four bytes that stands there twice, and the empty text in
the empty one. -/
theorem searches_agree_twice :
    firstPlace "é😀aba" "a" = 2 ∧
      substring (.string "é😀aba") (indexOf (.string "é😀aba") (.string "a"))
        (some (length (.string "a"))) = .string "a" ∧
      substring (.string "") (.number 0) (some (.boolean false)) = .string "" ∧
      contains (.string "é😀aba") (.string "ba") = .boolean true := by
  obtain ⟨-, -, -, -, -, -, -, hexact⟩ := searches_agree "é😀aba" "a"
  obtain ⟨-, hslice⟩ := hexact (by decide)
  obtain ⟨-, -, -, -, -, -, hempty, -⟩ := searches_agree "" ""
  have htwo : firstPlace "é😀aba" "a" = 2 := by decide +kernel
  exact ⟨htwo, hslice (by rw [htwo]; decide),
    hempty (by decide +kernel) _ _ (by decide +kernel) (by decide +kernel),
    (searches_agree "é😀aba" "ba").2.2.2.1 (by cbv)⟩

end DocTemplate.TextFunctions

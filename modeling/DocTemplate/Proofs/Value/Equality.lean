import DocTemplate.Evaluation
import DocTemplate.Function.TextFunctions
import DocTemplate.Proofs.Number.Doubles
import DocTemplate.Proofs.Value.Display

/-!
# Equality across kinds

Values of one plain kind are compared directly and all others by their display texts. Both come to
the same, since values of one plain kind that differ are displayed differently. So what is displayed
alike is equal, and equality is transitive also where a chain goes through different kinds. Null and
NaN are apart: null is displayed like the empty text, and NaN is not equal to itself.

## Main definitions

* `Value.IsComparable` — a value that is neither null nor NaN.

## Main statements

* `Value.looseEq_iff` — equal values are those that are displayed alike.
* `Value.looseEq_equivalence_and_contains` — equality is an equivalence, and an array contains what
  equals one of its items.
-/

namespace DocTemplate.Value

/-- A value that is neither null nor NaN. What a container holds does not matter. -/
def IsComparable : Value → Prop
  | .null => False
  | .number x => x.isNaN = false
  | _ => True

variable {a b v : Value} {items : List Value}

/-- A value is equal to one that is not null exactly if they are displayed alike. -/
theorem looseEq_iff (ha : a.IsComparable) (hb : b ≠ .null) :
    a.looseEq b ↔ a.display = b.display := by
  cases a with
  | null => exact ha.elim
  | number x =>
    cases b with
    | number y =>
      simpa [looseEq, display, String.ofList_inj, Double.beq_eq] using
        (displayNumber_eq_iff ha).symm
    | null => exact absurd rfl hb
    | _ => simp [looseEq]
  | boolean p =>
    cases b with
    | boolean q => cases p <;> cases q <;> decide
    | null => exact absurd rfl hb
    | _ => simp [looseEq]
  | string s =>
    cases b with
    | string t => simp [looseEq, display]
    | null => exact absurd rfl hb
    | _ => simp [looseEq]
  | array | object =>
    cases b with
    | null => exact absurd rfl hb
    | _ => simp [looseEq]

theorem IsComparable.ne_null (h : a.IsComparable) : a ≠ .null := by
  rintro rfl
  exact h

theorem looseEq_null_iff : looseEq a .null ↔ a = .null := by
  cases a <;> simp [looseEq]

theorem null_looseEq_iff : looseEq .null a ↔ a = .null := by
  cases a <;> simp [looseEq]

/-- Among what is comparable only the empty text is displayed like null. -/
theorem display_eq_empty_iff (h : a.IsComparable) : a.display = "" ↔ a = .string "" := by
  cases a with
  | null => exact h.elim
  | number x => simp [display, displayNumber_ne_nil]
  | boolean p => cases p <;> simp [display]
  | string s => simp [display]
  | array items => cases items <;> simp [display, json, jsonChars]
  | object members => cases members <;> simp [display, json, jsonChars]

/-- An array contains a value other than null exactly if an item is equal to it. -/
theorem contains_eq_any_looseEq (h : ∀ v ∈ items, v.IsComparable) (ha : a ≠ .null) :
    TextFunctions.contains (.array items) a = .boolean (items.any (·.looseEq a)) := by
  rw [TextFunctions.contains, boolean.injEq, Bool.eq_iff_iff, List.any_eq_true, List.any_eq_true]
  refine exists_congr fun v => and_congr_right fun hv => ?_
  rw [beq_iff_eq, looseEq_iff (h v hv) ha]

/-- An array contains null exactly if an item is the empty text. -/
theorem contains_null_iff (h : ∀ v ∈ items, v.IsComparable) :
    TextFunctions.contains (.array items) .null = .boolean true ↔ .string "" ∈ items := by
  have hitem : (∃ v ∈ items, v.display = "") ↔ .string "" ∈ items := by
    constructor
    · rintro ⟨v, hv, hdisplay⟩
      rwa [← (display_eq_empty_iff (h v hv)).mp hdisplay]
    · exact fun hmem => ⟨_, hmem, rfl⟩
  simp [TextFunctions.contains, ← hitem, display]

/-- Between values that are neither null nor NaN equality is the equivalence of being displayed
alike. An array of such values contains a value other than null exactly if an item is equal to it,
and null exactly if an item is the empty text. Null is equal only to null. -/
theorem looseEq_equivalence_and_contains :
    (∀ a b : Value, a.IsComparable → b.IsComparable → (a.looseEq b ↔ a.display = b.display)) ∧
      Equivalence (fun a b : {v : Value // v.IsComparable} =>
        BinaryOp.equal.apply a.1 b.1 = .ok (.boolean true)) ∧
      (∀ (items : List Value) (x : Value), (∀ v ∈ items, v.IsComparable) → x ≠ .null →
        TextFunctions.contains (.array items) x = .boolean (items.any (·.looseEq x))) ∧
      (∀ items : List Value, (∀ v ∈ items, v.IsComparable) →
        (TextFunctions.contains (.array items) .null = .boolean true ↔ .string "" ∈ items)) ∧
      ∀ a : Value, (looseEq .null a ↔ a = .null) ∧ (a.looseEq .null ↔ a = .null) := by
  have hequal : ∀ a b : {v : Value // v.IsComparable},
      BinaryOp.equal.apply a.1 b.1 = .ok (.boolean true) ↔ a.1.display = b.1.display := by
    intro a b
    rw [← looseEq_iff a.2 b.2.ne_null]
    simp [BinaryOp.apply]
  refine ⟨fun a b ha hb => looseEq_iff ha hb.ne_null, ?_,
    fun items x h hx => contains_eq_any_looseEq h hx, fun items h => contains_null_iff h,
    fun a => ⟨null_looseEq_iff, looseEq_null_iff⟩⟩
  simp only [hequal]
  exact ⟨fun _ => rfl, Eq.symm, Eq.trans⟩

/-- An array and its text, and NaN, which is displayed like an item. -/
theorem looseEq_equivalence_and_contains_mixed :
    (Value.array [.number 1]).looseEq (.string "[1]") ∧
      TextFunctions.contains (.array [.boolean true, .string "NaN"]) (.number (0 / 0)) =
        .boolean true ∧
      TextFunctions.contains (.array [.array [.null], .string ""]) .null = .boolean true := by
  obtain ⟨halike, -, hcontains, hnull, -⟩ := looseEq_equivalence_and_contains
  have hdisplay : (Value.array [.number 1]).display = (Value.string "[1]").display := by
    decide +kernel
  have hnan : (Value.string "NaN").looseEq (.number (0 / 0)) := by
    decide +kernel
  have harray := halike (.array [.number 1]) (.string "[1]") trivial trivial
  refine ⟨harray.mpr hdisplay, ?_, (hnull _ ?_).mpr ?_⟩
  · rw [hcontains [.boolean true, .string "NaN"] (.number (0 / 0)) (by simp [IsComparable]) nofun]
    simp [hnan]
  · simp [IsComparable]
  · simp

/-- Null is displayed like the empty text, which it is not equal to. -/
theorem contains_null_unlike_looseEq :
    (∀ v ∈ [Value.string ""], v.IsComparable) ∧
      TextFunctions.contains (.array [.string ""]) .null = .boolean true ∧
      [Value.string ""].any (·.looseEq .null) = false := by
  refine ⟨by simp [IsComparable], ?_, rfl⟩
  cbv

end DocTemplate.Value

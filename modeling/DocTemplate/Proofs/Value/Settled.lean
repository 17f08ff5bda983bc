import DocTemplate.Proofs.Document.Parts
import DocTemplate.Proofs.Number.Doubles
import DocTemplate.Value.Writing

/-!
# What JSON text keeps of a value

JSON text keeps all of a value but the sign of zero, and numbers that are not finite become null.
What is left has the same text, so nothing more is lost in writing it again.

## Main definitions

* `Value.settled` — a value with what JSON text keeps of its numbers.

## Main statements

* `Value.jsonChars_settled` — what is left of a value has the same text.
* `Value.settled_eq_self` — nothing is lost if all numbers are finite and none is -0.
-/

namespace DocTemplate.Value

/-- What is left of a number in JSON text: zeros have no sign, and what is not finite is null. -/
def settledNumber (x : Double) : Value :=
  if x.isFinite then .number (if x == 0 then 0 else x) else .null

mutual
/-- A value with what is left of its numbers in JSON text. Keys and their order stay. -/
def settled : Value → Value
  | .number x => settledNumber x
  | .array items => .array (settledItems items)
  | .object members => .object (settledMembers members)
  | v => v

/-- Items with what is left of their numbers. -/
def settledItems : List Value → List Value
  | [] => []
  | v :: vs => settled v :: settledItems vs

/-- Members with what is left of the numbers in their values. -/
def settledMembers : List (String × Value) → List (String × Value)
  | [] => []
  | (key, v) :: rest => (key, settled v) :: settledMembers rest
end

section Numbers

variable {x : Double} {f : BinaryFraction}

theorem settledNumber_of_ofFloat? (h : BinaryFraction.ofFloat? x = some f) :
    settledNumber x = .number (if f.mantissa = 0 then 0 else x) := by
  have hfinite : x.isFinite := by
    rw [Double.isFinite_eq, h]
    rfl
  have hzero : x == 0 ↔ f.mantissa = 0 :=
    Double.beq_zero_iff.trans (BinaryFraction.beq_zero_iff h)
  rw [settledNumber, if_pos hfinite]
  simp only [hzero]

theorem settledNumber_of_ofFloat?_eq_none (h : BinaryFraction.ofFloat? x = none) :
    settledNumber x = .null := by
  have hfinite : x.isFinite = false := by
    rw [Double.isFinite_eq, h]
    rfl
  rw [settledNumber, if_neg (by simp [hfinite])]

end Numbers

theorem jsonChars_settledNumber (x : Double) : (settledNumber x).jsonChars = jsonNumber x := by
  cases hf : BinaryFraction.ofFloat? x with
  | none => rw [settledNumber_of_ofFloat?_eq_none hf, jsonNumber, hf, jsonChars]
  | some f =>
    rw [settledNumber_of_ofFloat? hf, jsonChars]
    split
    · rename_i hzero
      obtain ⟨hintegral, htruncate⟩ := BinaryFraction.of_mantissa_eq_zero hzero
      have hleft : jsonNumber 0 = ['0'] := by decide +kernel
      rw [Double.toFloat_ofNat, hleft, jsonNumber, hf]
      simp [numberText, hintegral, htruncate, integerText]
    · rfl

mutual

theorem jsonChars_settled (v : Value) : v.settled.jsonChars = v.jsonChars := by
  match v with
  | .null => rfl
  | .boolean _ => rfl
  | .number x => exact jsonChars_settledNumber x
  | .string _ => rfl
  | .array [] => rfl
  | .array (v :: vs) =>
    rw [settled, settledItems, jsonChars, jsonChars, jsonChars_settled v, jsonItems_settled vs]
  | .object [] => rfl
  | .object ((key, v) :: rest) =>
    rw [settled, settledMembers, jsonChars, jsonChars, jsonChars_settled v,
      jsonMembers_settled rest]

theorem jsonItems_settled (items : List Value) :
    jsonItems (settledItems items) = jsonItems items := by
  match items with
  | [] => rfl
  | v :: vs => rw [settledItems, jsonItems, jsonItems, jsonChars_settled v, jsonItems_settled vs]

theorem jsonMembers_settled (members : List (String × Value)) :
    jsonMembers (settledMembers members) = jsonMembers members := by
  match members with
  | [] => rfl
  | (key, v) :: rest =>
    rw [settledMembers, jsonMembers, jsonMembers, jsonChars_settled v, jsonMembers_settled rest]

end

/-- A finite number that is not -0 is left as it is. -/
theorem settledNumber_eq_self {x : Double} (hfinite : x.isFinite) (hzero : x ≠ -0) :
    settledNumber x = .number x := by
  obtain ⟨f, hf⟩ := Option.isSome_iff_exists.mp (x.isFinite_eq ▸ hfinite)
  rw [settledNumber_of_ofFloat? hf]
  split
  · rename_i hmantissa
    have hx := BinaryFraction.eq_zero_of_mantissa_eq_zero hf hmantissa
    have hnumber : x.isNaN = false := Double.isNaN_of_isFinite hfinite
    cases hnegative : f.negative with
    | true =>
      rw [if_pos hnegative] at hx
      exact absurd (Double.eq_of_toFloat_eq hnumber (hx.trans Double.toFloat_neg_zero.symm)) hzero
    | false =>
      rw [if_neg (by simp [hnegative])] at hx
      rw [Double.eq_of_toFloat_eq hnumber (hx.trans (Double.toFloat_ofNat 0).symm)]
  · rfl

mutual

theorem settled_eq_self (v : Value)
    (h : ∀ x, (Value.number x).IsPart v → x.isFinite ∧ x ≠ -0) : v.settled = v := by
  match v with
  | .null => rfl
  | .boolean _ => rfl
  | .number x =>
    obtain ⟨hfinite, hzero⟩ := h x (.refl _)
    exact settledNumber_eq_self hfinite hzero
  | .string _ => rfl
  | .array items =>
    exact congrArg array (settledItems_eq_self items fun v hv x hx => h x (.element hv hx))
  | .object members =>
    exact congrArg object
      (settledMembers_eq_self members fun entry hentry x hx => h x (.member hentry hx))

theorem settledItems_eq_self (items : List Value)
    (h : ∀ v ∈ items, ∀ x, (Value.number x).IsPart v → x.isFinite ∧ x ≠ -0) :
    settledItems items = items := by
  match items with
  | [] => rfl
  | v :: vs =>
    obtain ⟨hv, hvs⟩ := List.forall_mem_cons.mp h
    rw [settledItems, settled_eq_self v hv, settledItems_eq_self vs hvs]

theorem settledMembers_eq_self (members : List (String × Value))
    (h : ∀ entry ∈ members, ∀ x, (Value.number x).IsPart entry.2 → x.isFinite ∧ x ≠ -0) :
    settledMembers members = members := by
  match members with
  | [] => rfl
  | (key, v) :: rest =>
    obtain ⟨hv, hrest⟩ := List.forall_mem_cons.mp h
    rw [settledMembers, settled_eq_self v hv, settledMembers_eq_self rest hrest]

end

end DocTemplate.Value

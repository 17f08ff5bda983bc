import DocTemplate.Proofs.Number.Packing

/-!
# Equal doubles

Doubles compare by what unpacking gives. NaN is equal to nothing, the two zeros are equal to each
other, and otherwise a double is equal only to itself.

## Main statements

* `Number.beq_iff` — when two doubles are equal.
-/

namespace DocTemplate

open Float.Model Float.Model.UnpackedFloat

/-- Unpacked doubles are equal if they are the same or both zero. NaN is equal to nothing. -/
theorem unpacked_beq_iff {a b : UnpackedFloat} :
    a.beq b ↔ a ≠ .notANumber ∧ (a = b ∨ (∃ s, a = .zero s) ∧ ∃ s, b = .zero s) := by
  have hsign (s t : Sign) : compare s t = .eq ↔ s = t := by
    cases s <;> cases t <;> simp <;> decide
  cases a with
  | notANumber => simp [UnpackedFloat.beq, UnpackedFloat.compare]
  | zero s =>
    cases b with
    | notANumber => simp [UnpackedFloat.beq, UnpackedFloat.compare]
    | zero t => simp [UnpackedFloat.beq, UnpackedFloat.compare]
    | infinity t | finite t => cases t <;> simp [UnpackedFloat.beq, UnpackedFloat.compare]
  | infinity s =>
    cases b with
    | infinity t => simp [UnpackedFloat.beq, UnpackedFloat.compare, hsign]
    | notANumber | zero t | finite t =>
      cases s <;> simp [UnpackedFloat.beq, UnpackedFloat.compare]
  | finite s =>
    cases b with
    | finite t =>
      cases s <;> cases t <;>
        simp [UnpackedFloat.beq, UnpackedFloat.compare, Ordering.then_eq_eq, and_comm]
    | infinity t =>
      cases s <;> cases t <;> simp [UnpackedFloat.beq, UnpackedFloat.compare]
    | notANumber | zero t => cases s <;> simp [UnpackedFloat.beq, UnpackedFloat.compare]

namespace Number

variable {x y : Float}

theorem isNaN_iff : x.isNaN ↔ x.toModel.unpack = .notANumber := by
  show x.toModel.unpack.isNaN ↔ _
  cases x.toModel.unpack <;> simp [UnpackedFloat.isNaN]

theorem beq_zero_iff : x == 0 ↔ ∃ s, x.toModel.unpack = .zero s := by
  show x.toModel.unpack.beq (.zero .positive) ↔ _
  rw [unpacked_beq_iff]
  grind

/-- A double that is a number is equal to itself, and beside this only the zeros are equal. -/
theorem beq_iff (hx : x.isNaN = false) : x == y ↔ x = y ∨ x == 0 ∧ y == 0 := by
  have hunpack : x.toModel.unpack = y.toModel.unpack ↔ x = y :=
    ⟨BinaryFraction.eq_of_unpack_eq, fun h => by rw [h]⟩
  rw [beq_zero_iff, beq_zero_iff, ← hunpack]
  show x.toModel.unpack.beq y.toModel.unpack ↔ _
  rw [unpacked_beq_iff, Ne, ← isNaN_iff, hx]
  simp

/-- A double that is a number and has no fraction is an infinity. -/
theorem unpack_infinity (h : BinaryFraction.ofFloat? x = none) (hx : x.isNaN = false) :
    ∃ s, x.toModel.unpack = .infinity s := by
  have hfinite : x.toModel.unpack.isFinite = false :=
    BinaryFraction.isFinite_of_ofFloat?_eq_none h
  have hnumber : x.toModel.unpack ≠ .notANumber := by
    rw [Ne, ← isNaN_iff, hx]
    decide
  cases hunpack : x.toModel.unpack with
  | infinity s => exact ⟨s, rfl⟩
  | notANumber => exact absurd hunpack hnumber
  | zero s | finite s => simp [hunpack, UnpackedFloat.isFinite] at hfinite

theorem zero_lt_iff_of_unpack {s : Sign} (h : x.toModel.unpack = .infinity s) :
    0 < x ↔ s = .positive := by
  show decide ((0 : Float).toModel < x.toModel) = true ↔ _
  rw [decide_eq_true_iff]
  show UnpackedFloat.lt (.zero .positive) x.toModel.unpack = true ↔ _
  rw [h]
  cases s <;> simp [UnpackedFloat.lt, UnpackedFloat.compare]

end Number

end DocTemplate

import DocTemplate.Number.Double
import DocTemplate.Proofs.Number.Comparing

/-!
# Doubles and their numbers

A double that is a number is known by the number, and the number is known by the double. Only NaN
has more than one double.

## Main definitions

* `Double.negative` — whether the sign of a double is set, also that of NaN.
* `Double.payload` — the bits of the mantissa, which are what a NaN carries.
* `Double.HasNaNBits` — the bits of a double are those of a NaN.

## Main statements

* `Double.toFloat_ofFloat`, `Double.ofFloat_toFloat` — doubles and numbers are taken back and forth.
* `Double.isNaN_iff` — which bits are no number.
-/

namespace DocTemplate.Double

open Float.Model Float.Model.UnpackedFloat

/-- Whether the sign of a double is set, also that of NaN. -/
def negative (x : Double) : Bool :=
  2 ^ 63 ≤ x.bits.toNat

/-- The bits of the mantissa. -/
def payload (x : Double) : Nat :=
  x.bits.toNat % 2 ^ 52

/-- The bits of NaN: all of the exponent, and some of the mantissa. -/
def HasNaNBits (x : Double) : Prop :=
  x.bits.toNat / 2 ^ 52 % 2 ^ 11 = 2047 ∧ x.payload ≠ 0

theorem unpack_bits_eq_notANumber_iff (x : Double) :
    UnpackedFloat.unpack Format.binary64 x.bits.toBitVec = .notANumber ↔ x.HasNaNBits := by
  rw [HasNaNBits, payload, ← UInt64.toNat_toBitVec, ← unpackExponent_eq_neg_one_iff, Ne,
    ← unpackMantissa_eq_zero_iff]
  unfold UnpackedFloat.unpack
  dsimp only
  split_ifs <;> simp_all

/-- The bits of a double that is a number are those of its number. -/
theorem toBits_toFloat {x : Double} (h : ¬x.HasNaNBits) : x.toFloat.toBits = x.bits := by
  have hvalid : Format.binary64.Valid x.bits.toBitVec := by
    refine ⟨fun hexponent hmantissa => absurd ?_ h⟩
    rw [unpackExponent_eq_neg_one_iff] at hexponent
    rw [Ne, unpackMantissa_eq_zero_iff] at hmantissa
    exact ⟨hexponent, hmantissa⟩
  exact congrArg Float.Model.toBits (BinaryFraction.pack_unpack ⟨x.bits, hvalid⟩)

/-- Which bits are no number. -/
theorem isNaN_iff {x : Double} : x.isNaN ↔ x.HasNaNBits := by
  have hunpack : x.toFloat.toModel.unpack = .notANumber ↔ x.HasNaNBits := by
    rw [← unpack_bits_eq_notANumber_iff]
    constructor
    · intro h
      by_contra hnot
      have hbits := toBits_toFloat (mt (unpack_bits_eq_notANumber_iff x).mpr hnot)
      exact hnot (hbits ▸ h)
    · intro h
      show (Float.Model.pack (UnpackedFloat.unpack Format.binary64 x.bits.toBitVec)).unpack = _
      rw [h]
      rfl
  rw [← hunpack]
  exact Number.isNaN_iff

theorem ofFloat_of_number {x : Float} (h : x.isNaN = false) : ofFloat x = ⟨x.toBits⟩ := by
  rw [ofFloat, h, if_neg Bool.false_ne_true]

@[simp] theorem toFloat_ofFloat (x : Float) : (ofFloat x).toFloat = x := by
  apply BinaryFraction.eq_of_unpack_eq
  cases h : x.isNaN with
  | true =>
    rw [Number.isNaN_iff.mp h, ofFloat, if_pos h]
    rfl
  | false =>
    rw [toFloat, ofFloat_of_number h]
    exact congrArg Float.Model.unpack (BinaryFraction.pack_unpack x.toModel)

@[simp] theorem isNaN_ofFloat (x : Float) : (ofFloat x).isNaN = x.isNaN := by
  rw [isNaN, toFloat_ofFloat]

/-- A double that is a number is the double of its number. -/
theorem ofFloat_toFloat {x : Double} (h : x.isNaN = false) : ofFloat x.toFloat = x := by
  rw [ofFloat_of_number h, toBits_toFloat (mt isNaN_iff.mpr (Bool.eq_false_iff.mp h))]

@[simp] theorem toFloat_ofNat (n : Nat) : (OfNat.ofNat n : Double).toFloat = OfNat.ofNat n :=
  toFloat_ofFloat _

theorem toFloat_neg_zero : (-0 : Double).toFloat = -0 := by
  decide +kernel

/-- Doubles are equal if their numbers are. -/
theorem beq_eq (x y : Double) : (x == y) = (x.toFloat == y.toFloat) :=
  rfl

/-- A double is zero if its number is. -/
theorem beq_zero_iff {x : Double} : x == 0 ↔ x.toFloat == 0 := by
  rw [beq_eq, toFloat_ofNat]

/-- The finite doubles are those with a fraction. -/
theorem isFinite_eq (x : Double) : x.isFinite = (BinaryFraction.ofFloat? x).isSome :=
  BinaryFraction.isFinite_eq x.toFloat

theorem isNaN_of_isFinite {x : Double} (h : x.isFinite) : x.isNaN = false := by
  rw [Bool.eq_false_iff]
  intro hnan
  have hfinite : x.toFloat.toModel.unpack.isFinite = true := h
  rw [Number.isNaN_iff.mp hnan] at hfinite
  cases hfinite

/-- The doubles of a number are the same. -/
theorem eq_of_toFloat_eq {x y : Double} (hx : x.isNaN = false) (h : x.toFloat = y.toFloat) :
    x = y := by
  have hy : y.isNaN = false := by rwa [isNaN, ← h]
  rw [← ofFloat_toFloat hx, h, ofFloat_toFloat hy]

end DocTemplate.Double

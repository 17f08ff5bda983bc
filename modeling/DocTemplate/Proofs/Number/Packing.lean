import DocTemplate.Number.BinaryFraction
import Mathlib

/-!
# Doubles and their parts

The logic knows a double by its bits: a sign, a field for the exponent and one for the mantissa.
Here the fields are read off as numbers, and the fraction of a finite double is what unpacking
gives.

## Main definitions

* `BinaryFraction.unpacked` — a fraction as a finite double that is unpacked.

## Main statements

* `BinaryFraction.unpack_of_ofFloat?` — unpacking a double gives its fraction.
* `BinaryFraction.isFinite_eq` — the finite doubles are those with a fraction.
* `BinaryFraction.pack_unpack`, `BinaryFraction.unpack_pack_normal`,
  `BinaryFraction.unpack_pack_subnormal` — packing and unpacking undo each other.
-/

namespace DocTemplate

open Float.Model Float.Model.UnpackedFloat

section Fields

variable (b : BitVec 64)

theorem toNat_unpackExponent :
    (@unpackExponent Format.binary64 b).toNat = b.toNat / 2 ^ 52 % 2 ^ 11 := by
  simp [unpackExponent, Nat.shiftRight_eq_div_pow]

theorem toNat_unpackMantissa :
    (@unpackMantissa Format.binary64 b).toNat = b.toNat % 2 ^ 52 := by
  simp [unpackMantissa]

theorem toNat_unpackSign :
    (@unpackSign Format.binary64 b).toNat = b.toNat / 2 ^ 63 := by
  have := b.isLt
  simp [unpackSign, Nat.shiftRight_eq_div_pow]
  omega

/-- The parts of a double put together give its bits. -/
theorem packComponents_unpack :
    packComponents Format.binary64 (Sign.ofBitVec (@unpackSign Format.binary64 b))
      (@unpackExponent Format.binary64 b) (@unpackMantissa Format.binary64 b) = b := by
  have hsign : (Sign.ofBitVec (@unpackSign Format.binary64 b)).toBitVec =
      @unpackSign Format.binary64 b := by
    generalize @unpackSign Format.binary64 b = s
    revert s
    decide
  rw [packComponents, hsign]
  apply BitVec.eq_of_toNat_eq
  have hE := toNat_unpackExponent b
  have hM := toNat_unpackMantissa b
  have hS := toNat_unpackSign b
  have hlt := b.isLt
  rw [BitVec.toNat_append, BitVec.toNat_append, hE, hM, hS]
  rw [← Nat.shiftLeft_add_eq_or_of_lt (by omega), ← Nat.shiftLeft_add_eq_or_of_lt (by omega)]
  simp only [Nat.shiftLeft_eq]
  omega

theorem sign_unpack :
    Sign.ofBitVec (@unpackSign Format.binary64 b) =
      if 2 ^ 63 ≤ b.toNat then .negative else .positive := by
  have hS := toNat_unpackSign b
  have hlt := b.isLt
  unfold Sign.ofBitVec
  split_ifs with hzero hhigh hhigh
  · rw [hzero] at hS
    simp at hS
    omega
  · rfl
  · rfl
  · refine absurd (BitVec.eq_of_toNat_eq ?_) hzero
    simp
    omega

theorem unpackExponent_eq_neg_one_iff :
    @unpackExponent Format.binary64 b = -1#_ ↔ b.toNat / 2 ^ 52 % 2 ^ 11 = 2047 := by
  rw [← toNat_unpackExponent, ← BitVec.toNat_inj]
  rfl

theorem unpackExponent_eq_zero_iff :
    @unpackExponent Format.binary64 b = 0#_ ↔ b.toNat / 2 ^ 52 % 2 ^ 11 = 0 := by
  rw [← toNat_unpackExponent, ← BitVec.toNat_inj]
  rfl

theorem unpackMantissa_eq_zero_iff :
    @unpackMantissa Format.binary64 b = 0#_ ↔ b.toNat % 2 ^ 52 = 0 := by
  rw [← toNat_unpackMantissa, ← BitVec.toNat_inj]
  rfl

theorem toNat_append_unpackMantissa :
    (1#1 ++ @unpackMantissa Format.binary64 b).toNat = 2 ^ 52 + b.toNat % 2 ^ 52 := by
  have hM := toNat_unpackMantissa b
  rw [BitVec.toNat_append, hM, ← Nat.shiftLeft_add_eq_or_of_lt (by omega)]
  rfl

end Fields

namespace BinaryFraction

/-- The sign of a fraction, also of zero. -/
def sign (f : BinaryFraction) : Sign :=
  if f.negative then .negative else .positive

/-- A fraction as a finite double that is unpacked. -/
def unpacked (f : BinaryFraction) : UnpackedFloat :=
  if h : f.mantissa = 0 then .zero f.sign
  else .finite f.sign f.mantissa f.exponent (Nat.pos_of_ne_zero h)

variable {x : Float} {f : BinaryFraction}

theorem toNat_toBits (x : Float) : x.toBits.toNat = x.toModel.toBits.toBitVec.toNat :=
  rfl

/-- Unpacking a double gives its fraction. -/
theorem unpack_of_ofFloat? (h : ofFloat? x = some f) : x.toModel.unpack = f.unpacked := by
  unfold ofFloat? at h
  rw [toNat_toBits] at h
  rw [Float.Model.unpack]
  generalize x.toModel.toBits.toBitVec = b at h
  simp only [Nat.pow_eq] at h
  unfold UnpackedFloat.unpack
  dsimp only
  split_ifs at h with hinfinite hzero
  · obtain rfl := Option.some.inj h
    rw [if_neg (mt (unpackExponent_eq_neg_one_iff b).mp hinfinite),
      if_pos ((unpackExponent_eq_zero_iff b).mpr hzero)]
    by_cases hmantissa : b.toNat % 2 ^ 52 = 0
    · rw [dif_pos ((unpackMantissa_eq_zero_iff b).mpr hmantissa), unpacked, dif_pos hmantissa]
      simp [sign, sign_unpack]
    · rw [dif_neg (mt (unpackMantissa_eq_zero_iff b).mp hmantissa), unpacked, dif_neg hmantissa]
      simp only [UnpackedFloat.finite.injEq]
      simp [sign, sign_unpack, toNat_unpackMantissa, toNat_unpackExponent, hzero,
        Format.exponentBias]
  · obtain rfl := Option.some.inj h
    rw [if_neg (mt (unpackExponent_eq_neg_one_iff b).mp hinfinite),
      if_neg (mt (unpackExponent_eq_zero_iff b).mp hzero), unpacked, dif_neg (by simp)]
    simp only [UnpackedFloat.finite.injEq]
    refine ⟨?_, toNat_append_unpackMantissa b, ?_⟩
    · simp [sign, sign_unpack]
    · rw [toNat_unpackExponent]
      simp [Format.exponentBias]

theorem isFinite_of_ofFloat?_eq_none (h : ofFloat? x = none) : x.isFinite = false := by
  show x.toModel.unpack.isFinite = false
  unfold ofFloat? at h
  rw [toNat_toBits] at h
  rw [Float.Model.unpack]
  generalize x.toModel.toBits.toBitVec = b at h
  simp only [Nat.pow_eq] at h
  unfold UnpackedFloat.unpack
  dsimp only
  split_ifs at h with hinfinite
  rw [if_pos ((unpackExponent_eq_neg_one_iff b).mpr hinfinite)]
  split <;> rfl

/-- The finite doubles are those with a fraction. -/
theorem isFinite_eq (x : Float) : x.isFinite = (ofFloat? x).isSome := by
  cases h : ofFloat? x with
  | none => exact isFinite_of_ofFloat?_eq_none h
  | some f =>
    show x.toModel.unpack.isFinite = true
    rw [unpack_of_ofFloat? h, unpacked]
    split <;> rfl

theorem unpack_zero : (0 : Float).toModel.unpack = .zero .positive := by
  rfl

/-- A double is zero, of either sign, if its fraction is. -/
theorem beq_zero_iff (h : ofFloat? x = some f) : (x == 0) ↔ f.mantissa = 0 := by
  show x.toModel.unpack.beq (0 : Float).toModel.unpack ↔ f.mantissa = 0
  rw [unpack_of_ofFloat? h, unpack_zero, unpacked]
  split
  · rename_i hzero
    simp [UnpackedFloat.beq, UnpackedFloat.compare, hzero]
  · rename_i hne
    cases f.sign <;> simp [UnpackedFloat.beq, UnpackedFloat.compare, hne]

section Packing

variable (s : Sign) {m : Nat} {e : Int}

theorem pack_normal (hm : 2 ^ 52 ≤ m) (hm' : m < 2 ^ 53) (he : e ≤ 971) (hp : 0 < m) :
    UnpackedFloat.pack Format.binary64 (.finite s m e hp) =
      packComponents Format.binary64 s (BitVec.ofNat 11 (e + 1075).toNat) (BitVec.ofNat 52 m) := by
  have hlog : m.log2 + 1 = Format.binary64.mantissaBits := by
    have h52 : m.log2 = 52 := (Nat.log2_eq_iff (by omega)).mpr ⟨hm, hm'⟩
    rw [h52]
    rfl
  have hbiased : (e + Format.binary64.exponentBias + 52 : Int) = e + 1075 := by
    simp [Format.exponentBias]
    omega
  have hfits : ¬2 ^ 11 ≤ (e + 1075).toNat + 1 := by omega
  simp only [UnpackedFloat.pack]
  rw [if_pos hlog]
  simp only [hbiased, Nat.cast_ofNat]
  rw [if_neg hfits]

theorem pack_subnormal (hm : m < 2 ^ 52) (hp : 0 < m) :
    UnpackedFloat.pack Format.binary64 (.finite s m (-1074) hp) =
      packComponents Format.binary64 s 0#11 (BitVec.ofNat 52 m) := by
  have hlog : ¬m.log2 + 1 = Format.binary64.mantissaBits := by
    have hlt : m.log2 < 52 := (Nat.log2_lt (by omega)).mpr hm
    show ¬m.log2 + 1 = 53
    omega
  simp only [UnpackedFloat.pack]
  rw [if_neg hlog, if_neg (by decide)]

theorem unpackSign_packComponents (e : BitVec 11) (m : BitVec 52) :
    @unpackSign Format.binary64 (packComponents Format.binary64 s e m) = s.toBitVec := by
  have he := e.isLt
  have hm := m.isLt
  have hs := s.toBitVec.isLt
  apply BitVec.eq_of_toNat_eq
  rw [toNat_unpackSign, packComponents, BitVec.toNat_append, BitVec.toNat_append,
    ← Nat.shiftLeft_add_eq_or_of_lt he, ← Nat.shiftLeft_add_eq_or_of_lt hm]
  simp only [Nat.shiftLeft_eq]
  omega

/-- Unpacking undoes packing of a normal number. -/
theorem unpack_pack_normal (hm : 2 ^ 52 ≤ m) (hm' : m < 2 ^ 53) (he : -1074 ≤ e) (he' : e ≤ 971)
    (hp : 0 < m) : (Float.Model.pack (.finite s m e hp)).unpack = .finite s m e hp := by
  show UnpackedFloat.unpack Format.binary64 (UnpackedFloat.pack Format.binary64 _) = _
  rw [pack_normal s hm hm' he' hp]
  have hfield : (BitVec.ofNat 11 (e + 1075).toNat).toNat = (e + 1075).toNat := by
    rw [BitVec.toNat_ofNat]
    omega
  have hinfinite : BitVec.ofNat 11 (e + 1075).toNat ≠ -1#11 := by
    rw [Ne, ← BitVec.toNat_inj, hfield]
    show ¬(e + 1075).toNat = 2047
    omega
  have hzero : BitVec.ofNat 11 (e + 1075).toNat ≠ 0#11 := by
    rw [Ne, ← BitVec.toNat_inj, hfield]
    show ¬(e + 1075).toNat = 0
    omega
  have hmantissa : (1#1 ++ BitVec.ofNat 52 m).toNat = m := by
    rw [BitVec.toNat_append, ← Nat.shiftLeft_add_eq_or_of_lt (by simp; omega)]
    simp only [BitVec.toNat_ofNat, Nat.shiftLeft_eq]
    omega
  unfold UnpackedFloat.unpack
  simp only [unpackExponent_packComponents, unpackMantissa_packComponents]
  rw [if_neg hinfinite, if_neg hzero]
  simp only [UnpackedFloat.finite.injEq, hmantissa, hfield]
  refine ⟨?_, trivial, ?_⟩
  · rw [unpackSign_packComponents]
    cases s <;> rfl
  · simp [Format.exponentBias]
    omega

/-- Unpacking undoes packing of a number below the normal ones. -/
theorem unpack_pack_subnormal (hm : m < 2 ^ 52) (hp : 0 < m) :
    (Float.Model.pack (.finite s m (-1074) hp)).unpack = .finite s m (-1074) hp := by
  show UnpackedFloat.unpack Format.binary64 (UnpackedFloat.pack Format.binary64 _) = _
  rw [pack_subnormal s hm hp]
  have hfraction : (BitVec.ofNat 52 m).toNat = m := by
    rw [BitVec.toNat_ofNat]
    omega
  have hmantissa : BitVec.ofNat 52 m ≠ 0#52 := by
    rw [Ne, ← BitVec.toNat_inj, hfraction]
    exact hp.ne'
  unfold UnpackedFloat.unpack
  simp only [unpackExponent_packComponents, unpackMantissa_packComponents]
  rw [if_neg (by decide), if_pos trivial, dif_neg hmantissa]
  simp only [UnpackedFloat.finite.injEq, hfraction]
  refine ⟨?_, trivial, by decide⟩
  rw [unpackSign_packComponents]
  cases s <;> rfl

end Packing

/-- Packing undoes unpacking. -/
theorem pack_unpack (m : Float.Model) : Float.Model.pack m.unpack = m := by
  obtain ⟨bits, hvalid⟩ := m
  rw [Float.Model.pack, Float.Model.unpack]
  congr 1
  apply UInt64.toBitVec_inj.mp
  show UnpackedFloat.pack Format.binary64 (UnpackedFloat.unpack Format.binary64 bits.toBitVec) = _
  generalize bits.toBitVec = b at hvalid
  have hcomponents := packComponents_unpack b
  have hE := toNat_unpackExponent b
  have hM := toNat_unpackMantissa b
  unfold UnpackedFloat.unpack
  dsimp only
  split_ifs with hinfinite hmantissa hzero hmantissa
  · rw [hinfinite, hmantissa] at hcomponents
    exact hcomponents
  · exact (hvalid.eq_packedNaN hinfinite hmantissa).symm
  · rw [hzero, hmantissa] at hcomponents
    exact hcomponents
  · have hexponent : ((@unpackExponent Format.binary64 b).toNat : Int) -
        (Format.binary64.exponentBias + Format.binary64.mantissaBitsWithoutImplicit) + 1 =
          -1074 := by
      rw [hzero]
      rfl
    simp only [hexponent]
    rw [pack_subnormal _ (by omega), BitVec.ofNat_toNat]
    rw [hzero] at hcomponents
    simpa using hcomponents
  · have hfinite := mt (unpackExponent_eq_neg_one_iff b).mpr hinfinite
    have hexponent : ((@unpackExponent Format.binary64 b).toNat : Int) -
        (Format.binary64.exponentBias + Format.binary64.mantissaBitsWithoutImplicit) =
          (b.toNat / 2 ^ 52 % 2 ^ 11 : Nat) - 1075 := by
      rw [hE]
      rfl
    have hmantissa := toNat_append_unpackMantissa b
    simp only [hexponent, hmantissa]
    have hfield : BitVec.ofNat 11 (((b.toNat / 2 ^ 52 % 2 ^ 11 : Nat) : Int) - 1075 + 1075).toNat =
        @unpackExponent Format.binary64 b := by
      apply BitVec.eq_of_toNat_eq
      rw [hE, BitVec.toNat_ofNat]
      omega
    have hfraction : BitVec.ofNat 52 (2 ^ 52 + b.toNat % 2 ^ 52) =
        @unpackMantissa Format.binary64 b := by
      apply BitVec.eq_of_toNat_eq
      rw [hM, BitVec.toNat_ofNat]
      omega
    rw [pack_normal _ (by omega) (by omega) (by omega), hfield, hfraction, hcomponents]

/-- A double is known by what unpacking gives. -/
theorem eq_of_unpack_eq {x y : Float} (h : x.toModel.unpack = y.toModel.unpack) : x = y := by
  have hmodel : x.toModel = y.toModel := by
    rw [← pack_unpack x.toModel, h, pack_unpack]
  cases x
  exact congrArg Float.ofModel hmodel

/-- Zero is an integer. -/
theorem of_mantissa_eq_zero {f : BinaryFraction} (h : f.mantissa = 0) :
    f.isIntegral ∧ f.truncate = 0 := by
  have hnumerator : f.quotient.1 = 0 := by
    simp [quotient, signed, h]
  simp [isIntegral, truncate, hnumerator]

/-- A double that is zero is one of two. -/
theorem eq_zero_of_mantissa_eq_zero (h : ofFloat? x = some f) (hzero : f.mantissa = 0) :
    x = if f.negative then -0 else 0 := by
  refine eq_of_unpack_eq ?_
  rw [unpack_of_ofFloat? h, unpacked, dif_pos hzero, sign]
  cases f.negative <;> rfl

end BinaryFraction

end DocTemplate

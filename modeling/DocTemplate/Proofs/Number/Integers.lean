import DocTemplate.Number.Arithmetic
import DocTemplate.Proofs.Number.Packing

/-!
# Integers as doubles

An integer that fits the mantissa is a double without rounding, and a double that is such an integer
is this one. So an integer of less than 53 bits is not changed by being taken as a double and back.

## Main statements

* `BinaryFraction.roundWithAccuracy_exact` — rounding leaves what fits the mantissa.
* `BinaryFraction.eq_ofNat_of_isIntegral` — a double that is an integer with few digits is this
  integer as a double.
* `Number.toInt64_ofInt` — an integer is read back from its double.
-/

namespace DocTemplate.BinaryFraction

open Float.Model Float.Model.UnpackedFloat

variable {x : Float} {f : BinaryFraction}

theorem log2_mul_two_pow {n : Nat} (hn : 0 < n) (k : Nat) : (n * 2 ^ k).log2 = n.log2 + k := by
  have hpos : 0 < 2 ^ k := Nat.pow_pos (by decide)
  obtain ⟨hlow, hhigh⟩ := (Nat.log2_eq_iff (by omega)).mp (rfl : n.log2 = n.log2)
  rw [Nat.log2_eq_iff (Nat.mul_ne_zero (by omega) (by omega))]
  constructor
  · rw [Nat.pow_add]
    exact Nat.mul_le_mul_right _ hlow
  · rw [Nat.add_right_comm, Nat.pow_add]
    exact Nat.mul_lt_mul_of_pos_right hhigh hpos

section Rounding

/-- Shifting a mantissa to the right loses nothing that was shifted in from there. -/
theorem shiftRight_mul_two_pow (m k : Nat) :
    (⟨m * 2 ^ k, false, false⟩ : ExtendedMantissa) >>> k = ⟨m, false, false⟩ := by
  show k.repeat ExtendedMantissa.shiftRightOne ⟨m * 2 ^ k, false, false⟩ = _
  induction k generalizing m with
  | zero => simp [Nat.repeat]
  | succ k ih =>
    have hsplit : m * 2 ^ (k + 1) = 2 * m * 2 ^ k := by
      rw [Nat.pow_succ]
      ac_rfl
    rw [Nat.repeat, hsplit, ih]
    simp [ExtendedMantissa.shiftRightOne]

variable {m : Nat} {e : Int} (hm : 2 ^ 52 ≤ m) (hm' : m < 2 ^ 53) (he : -1074 ≤ e)

include hm hm' he

theorem shiftToTargetExponent_exact (k : Nat) :
    shiftToTargetExponent Format.binary64 (m * 2 ^ k) (e - k) .exact = (⟨m, false, false⟩, e) := by
  have hlog : (m * 2 ^ k).log2 = 52 + k := by
    rw [log2_mul_two_pow (by omega), (Nat.log2_eq_iff (by omega)).mpr ⟨hm, hm'⟩]
  have htarget : Format.binary64.targetExponent (totalExponent (m * 2 ^ k) (e - k)) = e := by
    simp only [Format.targetExponent, totalExponent, hlog, Format.mantissaBits, Format.minExponent]
    norm_num
    omega
  have hshift : (e - (e - k)).toNat = k := by omega
  rw [shiftToTargetExponent, htarget, shiftToExponent, hshift]
  simp [ExtendedMantissa.ofMantissaAndAccuracy, shiftRight_mul_two_pow]

/-- Rounding leaves a mantissa as it is, if only zeros are cut off. -/
theorem roundWithAccuracy_exact (s : Sign) (k : Nat) (hp : 0 < m) :
    roundWithAccuracy Format.binary64 s (m * 2 ^ k) (e - k) .exact = .finite s m e hp := by
  have hfirst := shiftToTargetExponent_exact hm hm' he k
  have hsecond := shiftToTargetExponent_exact hm hm' he 0
  rw [Nat.pow_zero, Nat.mul_one, Nat.cast_zero, Int.sub_zero] at hsecond
  rw [roundWithAccuracy, hfirst]
  simp only [ExtendedMantissa.roundedMantissa, ExtendedMantissa.accuracy,
    Accuracy.roundToNearestEven, hsecond]
  rw [dif_neg (by omega)]

end Rounding

section Integers

variable {n : Nat} (hn : 0 < n) (hlt : n < 2 ^ 53)

include hn hlt

theorem log2_lt : n.log2 < 53 :=
  (Nat.log2_lt (by omega)).mpr hlt

theorem mantissa_bounds :
    2 ^ 52 ≤ n * 2 ^ (52 - n.log2) ∧ n * 2 ^ (52 - n.log2) < 2 ^ 53 := by
  have hlog := log2_lt hn hlt
  obtain ⟨hlow, hhigh⟩ := (Nat.log2_eq_iff (by omega)).mp (rfl : n.log2 = n.log2)
  have hpos : 0 < 2 ^ (52 - n.log2) := Nat.pow_pos (by decide)
  constructor
  · calc 2 ^ 52
      _ = 2 ^ n.log2 * 2 ^ (52 - n.log2) := by rw [← Nat.pow_add]; congr 1; omega
      _ ≤ n * 2 ^ (52 - n.log2) := Nat.mul_le_mul_right _ hlow
  · calc n * 2 ^ (52 - n.log2)
      _ < 2 ^ (n.log2 + 1) * 2 ^ (52 - n.log2) := Nat.mul_lt_mul_of_pos_right hhigh hpos
      _ = 2 ^ 53 := by rw [← Nat.pow_add]; congr 1; omega

/-- A natural number that fits the mantissa is rounded to itself. -/
theorem ofNat_eq_finite (hp : 0 < n * 2 ^ (52 - n.log2)) :
    UnpackedFloat.ofNat Format.binary64 n =
      .finite .positive (n * 2 ^ (52 - n.log2)) ((n.log2 : Int) - 52) hp := by
  have hlog := log2_lt hn hlt
  obtain ⟨hlow, hhigh⟩ := mantissa_bounds hn hlt
  have hcompare : compare (n : Int) 0 = .gt := by
    rw [Int.compare_eq_gt]
    omega
  have htarget : Format.binary64.targetExponent (totalExponent n 0) = (n.log2 : Int) - 52 := by
    simp only [Format.targetExponent, totalExponent, Format.mantissaBits, Format.minExponent]
    norm_num
    omega
  have hshift : ((0 : Int) - ((n.log2 : Int) - 52)).toNat = 52 - n.log2 := by omega
  have hexponent : (0 : Int) - ((52 - n.log2 : Nat) : Int) = (n.log2 : Int) - 52 := by omega
  have hround := roundWithAccuracy_exact hlow hhigh (e := (n.log2 : Int) - 52) (by omega)
    .positive 0 hp
  simp only [UnpackedFloat.ofNat, UnpackedFloat.ofInt, UnpackedFloat.normalize, hcompare,
    UnpackedFloat.round, htarget, decreaseExponent, hshift, hexponent, Int.toNat_natCast,
    Nat.shiftLeft_eq]
  simpa using hround

/-- A natural number that fits the mantissa is a double with the digits of the number. -/
theorem unpack_toFloat :
    ∃ hp, n.toUInt64.toFloat.toModel.unpack =
      .finite .positive (n * 2 ^ (52 - n.log2)) ((n.log2 : Int) - 52) hp := by
  have hlog := log2_lt hn hlt
  obtain ⟨hlow, hhigh⟩ := mantissa_bounds hn hlt
  have hword : n.toUInt64.toNat = n := by
    simp
    omega
  refine ⟨by omega, ?_⟩
  show (Float.Model.pack (UnpackedFloat.ofNat Format.binary64 n.toUInt64.toNat)).unpack = _
  rw [hword, ofNat_eq_finite hn hlt]
  exact unpack_pack_normal _ hlow hhigh (by omega) (by omega) _

end Integers

/-- A normal double times one is the double. -/
theorem mul_one_of_unpack {a : Float} {s : Sign} {m : Nat} {e : Int} {hp : 0 < m}
    (hm : 2 ^ 52 ≤ m) (hm' : m < 2 ^ 53) (he : -1074 ≤ e)
    (ha : a.toModel.unpack = .finite s m e hp) : a * Float.ofBits 0x3FF0000000000000 = a := by
  have hone : (Float.ofBits 0x3FF0000000000000).toModel.unpack =
      .finite .positive (2 ^ 52) (-52) (by decide) := by rfl
  have hsign : s * .positive = s := by cases s <;> rfl
  have hround := roundWithAccuracy_exact hm hm' he s 52 hp
  have hmul : (a * Float.ofBits 0x3FF0000000000000).toModel =
      Float.Model.pack (.finite s m e hp) := by
    show Float.Model.pack (UnpackedFloat.mul Format.binary64 a.toModel.unpack
      (Float.ofBits 0x3FF0000000000000).toModel.unpack) = _
    rw [ha, hone, UnpackedFloat.mul, hsign]
    exact congrArg _ hround
  rw [← ha, pack_unpack] at hmul
  cases a
  exact congrArg Float.ofModel hmul

section Naturals

variable {n : Nat} (hn : 0 < n) (hlt : n < 2 ^ 53)

include hn hlt

/-- The literal of a natural number is the number times one. -/
theorem unpack_ofNat :
    ∃ hp, (Float.ofNat n).toModel.unpack =
      .finite .positive (n * 2 ^ (52 - n.log2)) ((n.log2 : Int) - 52) hp := by
  have hlog := log2_lt hn hlt
  obtain ⟨hlow, hhigh⟩ := mantissa_bounds hn hlt
  obtain ⟨hp, hunpack⟩ := unpack_toFloat hn hlt
  have hliteral : Float.ofNat n = n.toUInt64.toFloat := by
    show Float.ofScientific n false 0 = _
    rw [Float.ofScientific, dif_pos ⟨hlt, by decide⟩]
    exact mul_one_of_unpack hlow hhigh (by omega) hunpack
  exact ⟨hp, by rw [hliteral, hunpack]⟩

theorem unpack_neg_ofNat :
    ∃ hp, (-Float.ofNat n).toModel.unpack =
      .finite .negative (n * 2 ^ (52 - n.log2)) ((n.log2 : Int) - 52) hp := by
  have hlog := log2_lt hn hlt
  obtain ⟨hlow, hhigh⟩ := mantissa_bounds hn hlt
  obtain ⟨hp, hunpack⟩ := unpack_ofNat hn hlt
  have hneg : (-Float.ofNat n).toModel =
      Float.Model.pack (Float.ofNat n).toModel.unpack.neg := rfl
  refine ⟨hp, ?_⟩
  rw [hneg, hunpack]
  exact unpack_pack_normal .negative hlow hhigh (by omega) (by omega) hp

theorem ofNat_mul_one : Float.ofNat n * Float.ofBits 0x3FF0000000000000 = Float.ofNat n := by
  have hlog := log2_lt hn hlt
  obtain ⟨hlow, hhigh⟩ := mantissa_bounds hn hlt
  obtain ⟨hp, hunpack⟩ := unpack_ofNat hn hlt
  exact mul_one_of_unpack hlow hhigh (by omega) hunpack

theorem isInf_ofNat : (Float.ofNat n).isInf = false := by
  obtain ⟨hp, hunpack⟩ := unpack_ofNat hn hlt
  show (Float.ofNat n).toModel.unpack.isInf = false
  rw [hunpack]
  rfl

end Naturals

/-- The mantissa and the exponent of a finite double. -/
theorem bounds_of_ofFloat? (h : ofFloat? x = some f) :
    f.mantissa < 2 ^ 53 ∧ f.exponent ≤ 971 ∧
      (f.mantissa < 2 ^ 52 ∧ f.exponent = -1074 ∨ 2 ^ 52 ≤ f.mantissa ∧ -1074 ≤ f.exponent) := by
  unfold ofFloat? at h
  dsimp only at h
  simp only [Nat.pow_eq] at h
  split_ifs at h with hinfinite hzero
  · obtain rfl := Option.some.inj h
    dsimp only
    omega
  · obtain rfl := Option.some.inj h
    simp only [Int.ofNat_eq_natCast]
    omega

theorem truncate_mul_of_isIntegral (h : f.isIntegral) :
    f.truncate * f.quotient.2 = f.quotient.1 := by
  have hdvd : (f.quotient.2 : Int) ∣ f.quotient.1 :=
    Int.dvd_of_emod_eq_zero (by simpa [isIntegral] using h)
  exact Int.tdiv_mul_cancel hdvd

/-- The size of an integral fraction, without division. -/
theorem mantissa_of_isIntegral (h : f.isIntegral) :
    f.mantissa * 2 ^ f.exponent.toNat = f.truncate.natAbs * 2 ^ (-f.exponent).toNat := by
  have hmul := truncate_mul_of_isIntegral h
  have habs : f.quotient.1.natAbs = f.mantissa * 2 ^ f.exponent.toNat := by
    have hsigned : f.signed.natAbs = f.mantissa := by
      unfold signed
      split <;> simp
    rw [quotient, Int.natAbs_mul, hsigned]
    simp [Nat.pow_eq, Int.natAbs_pow]
  rw [← habs, ← hmul, Int.natAbs_mul]
  rfl

/-- An integral fraction that is not zero has the sign of its integer. -/
theorem truncate_neg_iff (h : f.isIntegral) (hn : 0 < f.truncate.natAbs) :
    f.truncate < 0 ↔ f.negative := by
  have hmul := truncate_mul_of_isIntegral h
  have hden : (0 : Int) < f.quotient.2 := by
    simp [quotient, Nat.pow_eq]
  have hsize : (0 : Int) ≤ f.mantissa * (Nat.pow 2 f.exponent.toNat : Nat) := by
    positivity
  have hnum : f.quotient.1 = f.signed * (Nat.pow 2 f.exponent.toNat : Nat) := rfl
  cases hnegative : f.negative with
  | true =>
    have hle : f.truncate * f.quotient.2 ≤ 0 := by
      rw [hmul, hnum, signed, if_pos hnegative, Int.neg_mul]
      omega
    have hnonpos := nonpos_of_mul_nonpos_left hle hden
    simp only [iff_true]
    omega
  | false =>
    have hge : 0 ≤ f.truncate * f.quotient.2 := by
      rw [hmul, hnum, signed, if_neg (by simp [hnegative])]
      exact hsize
    have hnonneg := nonneg_of_mul_nonneg_left hge hden
    simp only [Bool.false_eq_true, iff_false]
    omega

/-- An integral fraction is zero if its integer is. -/
theorem mantissa_eq_zero_of_truncate (h : f.isIntegral) (hzero : f.truncate = 0) :
    f.mantissa = 0 := by
  have hsize := mantissa_of_isIntegral h
  rw [hzero, Int.natAbs_zero, Nat.zero_mul] at hsize
  exact (Nat.mul_eq_zero.mp hsize).resolve_right (Nat.pow_pos (by decide)).ne'

/-- An integral double with few digits has the mantissa and the exponent of the integer. -/
theorem parts_of_isIntegral (h : ofFloat? x = some f) (hintegral : f.isIntegral)
    (hn : 0 < f.truncate.natAbs) (hlt : f.truncate.natAbs < 2 ^ 53) :
    f.mantissa = f.truncate.natAbs * 2 ^ (52 - f.truncate.natAbs.log2) ∧
      f.exponent = (f.truncate.natAbs.log2 : Int) - 52 := by
  have hsize := mantissa_of_isIntegral hintegral
  have hlog := log2_lt hn hlt
  obtain ⟨hmantissa, hexponent, hcases⟩ := bounds_of_ofFloat? h
  have hpos : 0 < f.mantissa := by
    have hright : 0 < f.truncate.natAbs * 2 ^ (-f.exponent).toNat :=
      Nat.mul_pos hn (Nat.pow_pos (by decide))
    rw [← hsize] at hright
    exact Nat.pos_of_mul_pos_right hright
  have hdigits := congrArg Nat.log2 hsize
  rw [log2_mul_two_pow hpos, log2_mul_two_pow hn] at hdigits
  obtain ⟨hsubnormal, hleast⟩ | ⟨hnormal, hleast⟩ := hcases
  · -- A double below the normal ones is below one.
    have h52 : f.mantissa.log2 < 52 := (Nat.log2_lt (by omega)).mpr hsubnormal
    omega
  · have h52 : f.mantissa.log2 = 52 := (Nat.log2_eq_iff (by omega)).mpr ⟨hnormal, hmantissa⟩
    have hzero : f.exponent.toNat = 0 := by omega
    have hplaces : (-f.exponent).toNat = 52 - f.truncate.natAbs.log2 := by omega
    rw [hzero, Nat.pow_zero, Nat.mul_one, hplaces] at hsize
    exact ⟨hsize, by omega⟩

/-- A double that is an integer with few digits is this integer as a double. -/
theorem eq_ofNat_of_isIntegral (h : ofFloat? x = some f) (hintegral : f.isIntegral)
    (hn : 0 < f.truncate.natAbs) (hlt : f.truncate.natAbs < 2 ^ 53) :
    x = if f.negative then -Float.ofNat f.truncate.natAbs
      else Float.ofNat f.truncate.natAbs := by
  obtain ⟨hmantissa, hexponent⟩ := parts_of_isIntegral h hintegral hn hlt
  have hx := unpack_of_ofFloat? h
  have hpos := (mantissa_bounds hn hlt).1
  rw [unpacked, dif_neg (by omega)] at hx
  simp only [hmantissa, hexponent] at hx
  refine eq_of_unpack_eq (hx.trans ?_)
  cases hnegative : f.negative with
  | true =>
    obtain ⟨hp, hunpack⟩ := unpack_neg_ofNat hn hlt
    rw [if_pos rfl, hunpack, sign, if_pos hnegative]
  | false =>
    obtain ⟨hp, hunpack⟩ := unpack_ofNat hn hlt
    rw [if_neg (by simp), hunpack, sign, if_neg (by simp [hnegative])]

/-- The fraction of a double that is neither zero nor an infinity has the parts of the double. -/
theorem ofFloat?_of_unpack {s : Sign} {m : Nat} {e : Int} {hp : 0 < m}
    (h : x.toModel.unpack = .finite s m e hp) :
    ∃ f, ofFloat? x = some f ∧ f.sign = s ∧ f.mantissa = m ∧ f.exponent = e := by
  cases hf : ofFloat? x with
  | none =>
    have hfinite : x.toModel.unpack.isFinite = false := isFinite_of_ofFloat?_eq_none hf
    rw [h] at hfinite
    cases hfinite
  | some f =>
    have hunpack := unpack_of_ofFloat? hf
    rw [h, unpacked] at hunpack
    split at hunpack
    · cases hunpack
    · obtain ⟨hsign, hmantissa, hexponent⟩ := UnpackedFloat.finite.inj hunpack
      exact ⟨f, rfl, hsign.symm, hmantissa.symm, hexponent.symm⟩

theorem sign_eq_negative_iff : f.sign = .negative ↔ f.negative = true := by
  cases h : f.negative <;> simp [sign, h]

/-- The double with the digits and the sign of an integer has this integer for its integer part. -/
theorem truncate_of_unpack {n : Nat} (hn : 0 < n) (hlt : n < 2 ^ 53) {s : Sign}
    {hp : 0 < n * 2 ^ (52 - n.log2)}
    (h : x.toModel.unpack = .finite s (n * 2 ^ (52 - n.log2)) ((n.log2 : Int) - 52) hp) :
    ∃ f, ofFloat? x = some f ∧ f.sign = s ∧
      f.truncate = if f.negative then -(n : Int) else n := by
  obtain ⟨f, hf, hsign, hmantissa, hexponent⟩ := ofFloat?_of_unpack h
  have hlog := log2_lt hn hlt
  have hwhole : f.exponent.toNat = 0 := by omega
  have hplaces : (-f.exponent).toNat = 52 - n.log2 := by omega
  refine ⟨f, hf, hsign, ?_⟩
  cases hnegative : f.negative <;>
    simp [truncate, quotient, signed, hnegative, hmantissa, hwhole, hplaces]

/-- An integer that fits the mantissa has itself for the integer part of its double. -/
theorem exists_ofFloat?_ofInt {n : Int} (hlt : n.natAbs < 2 ^ 53) :
    ∃ f, ofFloat? (Float.ofInt n) = some f ∧ f.truncate = n := by
  cases n with
  | ofNat k =>
    rcases Nat.eq_zero_or_pos k with rfl | hk
    · exact ⟨⟨false, 0, -1074⟩, by decide +kernel, by decide +kernel⟩
    · obtain ⟨hp, hunpack⟩ := unpack_ofNat hk hlt
      obtain ⟨f, hf, hsign, htruncate⟩ := truncate_of_unpack hk hlt hunpack
      have hpositive : ¬f.negative = true := by
        rw [← sign_eq_negative_iff, hsign]
        nofun
      exact ⟨f, hf, by rw [htruncate, if_neg hpositive, Int.ofNat_eq_natCast]⟩
  | negSucc k =>
    obtain ⟨hp, hunpack⟩ := unpack_neg_ofNat k.succ_pos hlt
    obtain ⟨f, hf, hsign, htruncate⟩ := truncate_of_unpack k.succ_pos hlt hunpack
    exact ⟨f, hf, by rw [htruncate, if_pos (sign_eq_negative_iff.mp hsign), Int.negSucc_eq]; rfl⟩

end DocTemplate.BinaryFraction

namespace DocTemplate.Number

/-- An integer that fits the mantissa is read back from its double. -/
theorem toInt64_ofInt {n : Int} (hlt : n.natAbs < 2 ^ 53) : toInt64 (Float.ofInt n) = n := by
  obtain ⟨f, hf, htruncate⟩ := BinaryFraction.exists_ofFloat?_ofInt hlt
  simp only [toInt64, hf, htruncate, clampInt64]
  omega

theorem toInt64_ofNat {n : Nat} (hlt : n < 2 ^ 53) : toInt64 (Float.ofNat n) = n :=
  toInt64_ofInt (n := n) hlt

end DocTemplate.Number

import DocTemplate.Decimal.Numeral
import DocTemplate.Proofs.Number.Nearest

/-!
# Decimals as doubles

A decimal is taken as the double nearest to it. Either way its digits are multiplied
with a power of ten or divided by one, both exact, and the result is rounded once: for few digits as
an operation on two doubles, for all others with as many bits as it takes. Decimals that are far out
of range are settled by their size.

## Main statements

* `Number.isNearest_div`, `Number.isNearest_mul` — a quotient or a product is the nearest double.
* `Number.isNearest_ofScientific` — the decimals in range.
* `Numeral.isNearest_nearestOf` — all decimals.
-/

namespace DocTemplate

open Float.Model Float.Model.UnpackedFloat
open Neighbourhood (of)

namespace Number

section Operations

variable {a b : Float} {m₁ m₂ : Nat} {e₁ e₂ : Int} {h₁ : 0 < m₁} {h₂ : 0 < m₂}

/-- A quotient of positive doubles is the double nearest to the quotient of the numbers. -/
theorem isNearest_div (ha : a.toModel.unpack = .finite .positive m₁ e₁ h₁)
    (hb : b.toModel.unpack = .finite .positive m₂ e₂ h₂) :
    IsNearest (m₁ * 2 ^ e₁ / (m₂ * 2 ^ e₂)) (a / b) := by
  refine (Rounding.roundsTo_div h₁ h₂).isNearest ?_
  show Float.Model.pack (UnpackedFloat.div Format.binary64 a.toModel.unpack b.toModel.unpack) = _
  rw [ha, hb]

/-- A product of positive doubles is the double nearest to the product of the numbers. -/
theorem isNearest_mul (ha : a.toModel.unpack = .finite .positive m₁ e₁ h₁)
    (hb : b.toModel.unpack = .finite .positive m₂ e₂ h₂) (hlong : 2 ^ 52 ≤ m₁ * m₂) :
    IsNearest (m₁ * 2 ^ e₁ * (m₂ * 2 ^ e₂)) (a * b) := by
  refine (Rounding.roundsTo_mul h₁ h₂ hlong).isNearest ?_
  show Float.Model.pack (UnpackedFloat.mul Format.binary64 a.toModel.unpack b.toModel.unpack) = _
  rw [ha, hb]

end Operations

/-- The powers of ten that are doubles stand in the table in their order. -/
theorem powersOfTen_exact : ∀ k : Fin Float.exactlyRepresentablePowersOfTen.size,
    (BinaryFraction.ofFloat? Float.exactlyRepresentablePowersOfTen[k]).any fun f =>
      !f.negative && f.mantissa != 0 &&
        f.mantissa * 2 ^ f.exponent.toNat == 10 ^ k.val * 2 ^ (-f.exponent).toNat := by
  decide +kernel

theorem unpack_powersOfTen {k : Nat} (hk : k < Float.exactlyRepresentablePowersOfTen.size) :
    ∃ (m : Nat) (e : Int) (hp : 0 < m),
      Float.exactlyRepresentablePowersOfTen[k].toModel.unpack = .finite .positive m e hp ∧
        (m * 2 ^ e : ℚ) = 10 ^ k := by
  have hexact := powersOfTen_exact ⟨k, hk⟩
  obtain ⟨f, hf, hparts⟩ := (Option.any_eq_true _ _).mp hexact
  simp only [Bool.and_eq_true, Bool.not_eq_true', bne_iff_ne, beq_iff_eq] at hparts
  obtain ⟨⟨hsign, hne⟩, hpower⟩ := hparts
  refine ⟨f.mantissa, f.exponent, Nat.pos_of_ne_zero hne, ?_, ?_⟩
  · have hunpack := BinaryFraction.unpack_of_ofFloat? hf
    rw [BinaryFraction.unpacked, dif_neg hne, BinaryFraction.sign, if_neg (by simp [hsign])]
      at hunpack
    exact hunpack
  · have hscaled : (f.mantissa * 2 ^ f.exponent.toNat : ℚ) = 10 ^ k * 2 ^ (-f.exponent).toNat := by
      exact_mod_cast hpower
    rw [← Neighbourhood.pow_toNat_neg_mul_zpow two_ne_zero f.exponent] at hscaled
    have hpos : (2 : ℚ) ^ (-f.exponent).toNat ≠ 0 := by positivity
    refine mul_right_cancel₀ hpos ?_
    linear_combination hscaled

/-- A decimal of few digits with a power of ten that is a double takes one operation. -/
theorem isNearest_ofScientific_of_few {m : Nat} (hm : 0 < m) (hlt : m < 2 ^ 53) {k : Nat}
    (hk : k ≤ 22) (s : Bool) :
    IsNearest (m * 10 ^ (if s then -(k : Int) else k)) (Float.ofScientific m s k) := by
  have hsize : k < Float.exactlyRepresentablePowersOfTen.size := by
    simp only [Float.exactlyRepresentablePowersOfTen, List.size_toArray, List.length_cons,
      List.length_nil]
    omega
  obtain ⟨m₂, e₂, h₂, hpower, hvalue⟩ := unpack_powersOfTen hsize
  obtain ⟨h₁, hunpack⟩ := BinaryFraction.unpack_toFloat hm hlt
  obtain ⟨hnormal, -⟩ := BinaryFraction.mantissa_bounds hm hlt
  have hlog := BinaryFraction.log2_lt hm hlt
  have hdigits :
      ((m * 2 ^ (52 - m.log2) : ℕ) * 2 ^ ((m.log2 : Int) - 52) : ℚ) = m := by
    push_cast
    rw [mul_assoc, ← zpow_natCast, ← zpow_add₀ two_ne_zero]
    have hzero : ((52 - m.log2 : ℕ) : Int) + (m.log2 - 52) = 0 := by omega
    rw [hzero, zpow_zero, mul_one]
  rw [Float.ofScientific, dif_pos ⟨hlt, hk⟩]
  cases s with
  | true =>
    have hdiv := isNearest_div hunpack hpower
    rw [hdigits, hvalue] at hdiv
    simpa [zpow_neg, div_eq_mul_inv] using hdiv
  | false =>
    have hmul := isNearest_mul hunpack hpower (Nat.le_trans hnormal (Nat.le_mul_of_pos_right _ h₂))
    rw [hdigits, hvalue] at hmul
    simpa using hmul

/-- All other decimals are computed with as many bits as it takes. -/
theorem roundsTo_ofScientific {m : Nat} (hm : 0 < m) {e : Int} (hhigh : e ≤ 2 ^ 11)
    (hlow : -(2 ^ 11 + m.log2 : Int) ≤ e) :
    Rounding.RoundsTo (m * 10 ^ e) (UnpackedFloat.ofScientific Format.binary64 m e) := by
  rw [UnpackedFloat.ofScientific, dif_neg hm.ne', if_neg (not_lt.mpr hhigh),
    if_neg (not_lt.mpr hlow)]
  have hbits : Format.binary64.mantissaBits = 53 := rfl
  split
  · rename_i hnonneg
    have hshift : m <<< Format.binary64.mantissaBits = m * 2 ^ 53 := by
      rw [hbits, Nat.shiftLeft_eq]
    have hvalue : ((m <<< Format.binary64.mantissaBits : ℕ) *
        2 ^ (-(Format.binary64.mantissaBits : Int)) *
          ((10 ^ e.toNat : ℕ) * 2 ^ (0 : Int)) : ℚ) = m * 10 ^ e := by
      have hpower : (10 : ℚ) ^ e.toNat = 10 ^ e := by
        rw [← zpow_natCast, Int.toNat_of_nonneg hnonneg]
      rw [hshift, hbits, zpow_neg, zpow_natCast]
      push_cast
      rw [hpower]
      field_simp
      norm_num
    have hlong : 2 ^ 52 ≤ m <<< Format.binary64.mantissaBits * 10 ^ e.toNat := by
      rw [hshift]
      calc 2 ^ 52
        _ ≤ m * 2 ^ 53 := by omega
        _ ≤ m * 2 ^ 53 * 10 ^ e.toNat := Nat.le_mul_of_pos_right _ (Nat.pow_pos (by decide))
    rw [← hvalue]
    exact Rounding.roundsTo_mul _ _ hlong
  · rename_i hnegative
    have hvalue : ((m : ℚ) * 2 ^ (0 : Int) / ((10 ^ (-e).toNat : ℕ) * 2 ^ (0 : Int))) =
        m * 10 ^ e := by
      have hpower : (10 : ℚ) ^ (-e).toNat = 10 ^ (-e) := by
        rw [← zpow_natCast, Int.toNat_of_nonneg (by omega)]
      push_cast
      rw [hpower, zpow_neg]
      simp
    rw [← hvalue]
    exact Rounding.roundsTo_div _ _

theorem isNearest_ofScientific {m : Nat} (hm : 0 < m) {e : Int} (hhigh : e ≤ 2 ^ 11)
    (hlow : -(2 ^ 11 + m.log2 : Int) ≤ e) :
    IsNearest (m * 10 ^ e) (Float.ofScientific m (e < 0) e.natAbs) := by
  by_cases hfew : m < 2 ^ 53 ∧ e.natAbs ≤ 22
  · have hexponent : (if decide (e < 0) then -(e.natAbs : Int) else e.natAbs) = e := by
      split <;> rename_i h <;> rw [decide_eq_true_eq] at h <;> omega
    have hnearest := isNearest_ofScientific_of_few hm hfew.1 hfew.2 (e < 0)
    rwa [hexponent] at hnearest
  · have hexponent :
        (if decide (e < 0) then Int.negOfNat e.natAbs else Int.ofNat e.natAbs) = e := by
      rw [Int.negOfNat_eq]
      split <;> rename_i h <;> rw [decide_eq_true_eq] at h <;> simp only [Int.ofNat_eq_natCast] <;>
        omega
    refine (roundsTo_ofScientific hm hhigh hlow).isNearest ?_
    rw [Float.ofScientific, dif_neg hfew]
    simp only [hexponent]
    rfl

/-- What is far below the least double is taken as zero. -/
theorem isNearest_zero {v : ℚ} (hnonneg : 0 ≤ v) (hsmall : v ≤ 2 ^ (-1075 : Int)) :
    IsNearest v 0 := by
  have hcanonical : (⟨false, 0, -1074⟩ : BinaryFraction).IsCanonical :=
    ⟨by decide, le_rfl, by decide⟩
  refine isNearest_of_covers hcanonical rfl ?_ rfl
  refine ⟨?_, ?_, by simp [of]⟩
  · rw [Neighbourhood.units_of]
    simpa [of] using hnonneg
  · have hunit : (2 : ℚ) ^ (-1075 : Int) = (2 : ℕ) * 2 ^ (-1076 : Int) := by
      rw [Nat.cast_ofNat, mul_comm, ← zpow_add_one₀ two_ne_zero]
      rfl
    rwa [hunit] at hsmall

end Number

namespace Numeral

open Number

/-- The double of a decimal is the nearest one to it. -/
theorem isNearest_nearestOf (digits : Nat) (exponent : Int) :
    IsNearest (digits * 10 ^ exponent) (nearestOf digits exponent) := by
  have hlength := Nat.length_toDigits_pos (b := 10) (n := digits)
  have hbelow : digits < 10 ^ (Nat.toDigits 10 digits).length := by
    have hlt := natOfDigits_lt fun c hc => isDigit_of_mem_toDigits (n := digits) hc
    rwa [natOfDigits_toDigits] at hlt
  have hpower : (0 : ℚ) < 10 ^ exponent := by positivity
  unfold nearestOf
  dsimp only
  split_ifs with hdigits hgreat hsmall
  · rw [hdigits, Nat.cast_zero, zero_mul]
    exact isNearest_zero le_rfl (by positivity)
  · -- More than four hundred places before the point.
    have habove := pow_le_of_length_toDigits digits (Nat.pos_of_ne_zero hdigits)
    refine .infinite ?_
    calc (2 ^ 1024 - 2 ^ 970 : ℚ)
      _ ≤ 2 ^ 1024 := sub_le_self _ (by positivity)
      _ ≤ 10 ^ 400 := by exact_mod_cast Neighbourhood.two_pow_le (by decide : 1024 ≤ 3 * 400)
      _ ≤ 10 ^ (((Nat.toDigits 10 digits).length - 1 : ℕ) + exponent) := by
        rw [← zpow_natCast]
        exact zpow_le_zpow_right₀ (by norm_num) (by push_cast; omega)
      _ = (10 ^ ((Nat.toDigits 10 digits).length - 1) : ℕ) * 10 ^ exponent := by
        rw [zpow_add₀ (by norm_num), zpow_natCast]
        push_cast
        rfl
      _ ≤ digits * 10 ^ exponent := by gcongr
  · -- Four hundred zeros behind the point.
    refine isNearest_zero (by positivity) ?_
    calc (digits * 10 ^ exponent : ℚ)
      _ ≤ (10 ^ (Nat.toDigits 10 digits).length : ℕ) * 10 ^ exponent := by gcongr
      _ = 10 ^ ((Nat.toDigits 10 digits).length + exponent) := by
        rw [zpow_add₀ (by norm_num), zpow_natCast]
        push_cast
        rfl
      _ ≤ 10 ^ (-401 : Int) := zpow_le_zpow_right₀ (by norm_num) (by omega)
      _ ≤ 2 ^ (-1075 : Int) := by
        have htwo : (2 ^ 1075 : ℚ) ≤ 10 ^ 401 := by
          exact_mod_cast Neighbourhood.two_pow_le (by decide : 1075 ≤ 3 * 401)
        rw [zpow_neg, zpow_neg]
        exact inv_anti₀ (by positivity) (by exact_mod_cast htwo)
  · have habove := pow_le_of_length_toDigits digits (Nat.pos_of_ne_zero hdigits)
    have hlog : (Nat.toDigits 10 digits).length - 1 ≤ digits.log2 := by
      refine (Nat.le_log2 hdigits).mpr (le_trans ?_ habove)
      exact Nat.pow_le_pow_left (by decide) _
    exact isNearest_ofScientific (Nat.pos_of_ne_zero hdigits) (by omega) (by omega)

end Numeral

end DocTemplate

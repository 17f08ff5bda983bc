import DocTemplate.Proofs.Decimal.Shortest

/-!
# Correct rounding

Arithmetic on doubles rounds a number that is known by a mantissa, by the first bit behind it and by
whether anything is left behind that bit. This is enough for the result to be the double whose
neighbourhood the number lies in.

## Main definitions

* `Rounding.Describes` — a mantissa and the bits behind it describe a rational.
* `Rounding.rounded` — the fraction that a mantissa is rounded to.
* `Rounding.RoundsTo` — a result is the double in whose neighbourhood a number lies.

## Main statements

* `Rounding.covers_rounded` — a number lies in the neighbourhood of what it is rounded to.
* `Rounding.roundsTo_roundWithAccuracy` — arithmetic rounds in this way.
* `Rounding.roundsTo_div`, `Rounding.roundsTo_mul` — quotients and products of doubles.
-/

namespace DocTemplate.Rounding

open Float.Model Float.Model.UnpackedFloat
open Neighbourhood (Covers)

variable {em : ExtendedMantissa} {e : Int} {v : ℚ} {m : Nat} {accuracy : Accuracy}

/-- A mantissa and the bits behind it describe a rational in units of `2 ^ e`: the first bit is half
a unit, and what is left behind it is less and is there if the last bit is set. -/
def Describes (em : ExtendedMantissa) (e : Int) (v : ℚ) : Prop :=
  ∃ rest : ℚ, 0 ≤ rest ∧ rest < 1 / 2 ∧ (em.stickyBit = false ↔ rest = 0) ∧
    v = (em.mantissa + (if em.roundBit then 1 / 2 else 0) + rest) * 2 ^ e

theorem describes_exact (m : Nat) (e : Int) :
    Describes (.ofMantissaAndAccuracy m .exact) e (m * 2 ^ e) :=
  ⟨0, le_rfl, by norm_num, by simp [ExtendedMantissa.ofMantissaAndAccuracy],
    by simp [ExtendedMantissa.ofMantissaAndAccuracy]⟩

section Inexact

variable {r : ℚ} (m : Nat) (e : Int)

theorem describes_less (hpos : 0 < r) (hless : r < 1 / 2) :
    Describes (.ofMantissaAndAccuracy m (.inexact .lt)) e ((m + r) * 2 ^ e) :=
  ⟨r, hpos.le, hless, by simp [ExtendedMantissa.ofMantissaAndAccuracy, hpos.ne'],
    by simp [ExtendedMantissa.ofMantissaAndAccuracy]⟩

theorem describes_half :
    Describes (.ofMantissaAndAccuracy m (.inexact .eq)) e ((m + 1 / 2) * 2 ^ e) :=
  ⟨0, le_rfl, by norm_num, by simp [ExtendedMantissa.ofMantissaAndAccuracy],
    by simp [ExtendedMantissa.ofMantissaAndAccuracy]⟩

theorem describes_more (hmore : 1 / 2 < r) (hless : r < 1) :
    Describes (.ofMantissaAndAccuracy m (.inexact .gt)) e ((m + r) * 2 ^ e) := by
  refine ⟨r - 1 / 2, by linarith, by linarith, ?_, ?_⟩
  · simp only [ExtendedMantissa.ofMantissaAndAccuracy]
    exact iff_of_false (by simp) (by linarith)
  · simp only [ExtendedMantissa.ofMantissaAndAccuracy, if_true]
    ring

end Inexact

/-- To drop the last bit of the mantissa doubles the unit. -/
theorem Describes.shiftRightOne (h : Describes em e v) :
    Describes em.shiftRightOne (e + 1) v := by
  obtain ⟨rest, hnonneg, hhalf, hsticky, rfl⟩ := h
  have hmantissa : (em.mantissa : ℚ) = 2 * (em.mantissa / 2 : ℕ) + (em.mantissa % 2 : ℕ) := by
    exact_mod_cast (Nat.div_add_mod em.mantissa 2).symm
  have hunit : (2 : ℚ) ^ (e + 1) = 2 * 2 ^ e := by
    rw [zpow_add_one₀ two_ne_zero, mul_comm]
  refine ⟨(if em.roundBit then 1 / 4 else 0) + rest / 2, ?_, ?_, ?_, ?_⟩
  · split <;> linarith
  · split <;> linarith
  · cases hround : em.roundBit with
    | false => simp [ExtendedMantissa.shiftRightOne, hround, hsticky]
    | true =>
      simp only [ExtendedMantissa.shiftRightOne, hround, if_true, Bool.true_or]
      exact iff_of_false (by simp) (by linarith)
  · rw [hunit, hmantissa]
    simp only [ExtendedMantissa.shiftRightOne]
    obtain hbit | hbit := Nat.mod_two_eq_zero_or_one em.mantissa <;> cases em.roundBit <;>
      simp [hbit] <;> ring

theorem shiftRight_succ (em : ExtendedMantissa) (k : Nat) :
    em >>> (k + 1) = (em >>> k).shiftRightOne :=
  rfl

theorem Describes.shiftRight (h : Describes em e v) (k : Nat) : Describes (em >>> k) (e + k) v := by
  induction k with
  | zero =>
    have hsame : em >>> 0 = em := rfl
    rw [hsame, Nat.cast_zero, add_zero]
    exact h
  | succ k ih =>
    rw [shiftRight_succ, Nat.cast_succ, ← add_assoc]
    exact ih.shiftRightOne

theorem mantissa_shiftRight (em : ExtendedMantissa) (k : Nat) :
    (em >>> k).mantissa = em.mantissa / 2 ^ k := by
  induction k with
  | zero => simp; rfl
  | succ k ih =>
    rw [shiftRight_succ, Nat.pow_succ, ← Nat.div_div_eq_div_mul, ← ih]
    rfl

/-- The mantissa is rounded up if more than half a unit is left, or just half and it is odd. -/
theorem roundedMantissa_eq (em : ExtendedMantissa) :
    em.roundedMantissa =
      if em.roundBit ∧ (em.stickyBit ∨ em.mantissa % 2 = 1) then em.mantissa + 1
      else em.mantissa := by
  obtain ⟨m, round, sticky⟩ := em
  obtain hbit | hbit := Nat.mod_two_eq_zero_or_one m <;> cases round <;> cases sticky <;>
    simp [ExtendedMantissa.roundedMantissa, ExtendedMantissa.accuracy,
      Accuracy.roundToNearestEven, hbit]

/-- The fraction that a mantissa is rounded to. If the mantissa becomes too long it is a power of
two. -/
def rounded (em : ExtendedMantissa) (e : Int) : BinaryFraction :=
  if em.roundedMantissa = 2 ^ 53 then ⟨false, 2 ^ 52, e + 1⟩ else ⟨false, em.roundedMantissa, e⟩

theorem negative_rounded (em : ExtendedMantissa) (e : Int) : (rounded em e).negative = false := by
  unfold rounded
  split <;> rfl

/-- A mantissa that has the bits of a double. -/
structure Fits (em : ExtendedMantissa) (e : Int) : Prop where
  mantissa_lt : em.mantissa < 2 ^ 53
  least_le : -1074 ≤ e
  le_mantissa : -1074 < e → 2 ^ 52 ≤ em.mantissa

namespace Fits

variable (hfits : Fits em e)

include hfits

theorem roundedMantissa_le : em.roundedMantissa ≤ 2 ^ 53 := by
  have hlt := hfits.mantissa_lt
  rw [roundedMantissa_eq]
  split <;> omega

theorem isCanonical : (rounded em e).IsCanonical := by
  obtain ⟨hlt, hleast, hle⟩ := hfits
  have hrounded := roundedMantissa_eq em
  unfold rounded
  split
  · exact ⟨by norm_num, by dsimp only; omega, fun _ => le_rfl⟩
  · refine ⟨?_, hleast, fun h => ?_⟩
    · dsimp only
      split at hrounded <;> omega
    · have hmantissa := hle h
      dsimp only
      split at hrounded <;> omega

end Fits

/-- The neighbourhood of a double in units of a quarter of the last bit. -/
theorem covers_of_quarters {f : BinaryFraction} {w : ℚ}
    (hlow : ((Neighbourhood.of f).low : ℚ) ≤ w) (hhigh : w ≤ 4 * f.mantissa + 2)
    (hopen : f.mantissa % 2 = 1 → ((Neighbourhood.of f).low : ℚ) < w ∧ w < 4 * f.mantissa + 2) :
    (Neighbourhood.of f).Covers (w * 2 ^ (f.exponent - 2)) := by
  have hunit : (0 : ℚ) < 2 ^ (f.exponent - 2) := by positivity
  have hhigh_eq : ((Neighbourhood.of f).high : ℚ) = 4 * f.mantissa + 2 := by
    simp [Neighbourhood.of]
  refine ⟨?_, ?_, fun hclosed => ?_⟩
  · rw [Neighbourhood.units_of]
    exact mul_le_mul_of_nonneg_right hlow hunit.le
  · rw [Neighbourhood.units_of, hhigh_eq]
    exact mul_le_mul_of_nonneg_right hhigh hunit.le
  · have hodd : f.mantissa % 2 = 1 := by
      simpa [Neighbourhood.of] using hclosed
    rw [Neighbourhood.units_of, Neighbourhood.units_of, hhigh_eq, mul_lt_mul_iff_left₀ hunit,
      mul_lt_mul_iff_left₀ hunit]
    exact hopen hodd

section Covers

variable {M : Nat}

/-- A number that is rounded down lies less than half a unit above the mantissa, or just half if the
mantissa is even. -/
theorem covers_down {w : ℚ} (hlow : 4 * (M : ℚ) ≤ w) (hhigh : w ≤ 4 * M + 2)
    (hodd : M % 2 = 1 → w < 4 * M + 2) :
    (Neighbourhood.of ⟨false, M, e⟩).Covers (w * 2 ^ (e - 2)) := by
  have hle : (Neighbourhood.of ⟨false, M, e⟩).low ≤ 4 * M := by
    obtain ⟨-, h⟩ | ⟨-, h⟩ := Neighbourhood.low_of ⟨false, M, e⟩ <;> dsimp only at h <;> omega
  have hlt : 0 < M → (Neighbourhood.of ⟨false, M, e⟩).low < 4 * M := by
    obtain ⟨-, h⟩ | ⟨-, h⟩ := Neighbourhood.low_of ⟨false, M, e⟩ <;> dsimp only at h <;> omega
  refine covers_of_quarters (f := ⟨false, M, e⟩) ?_ hhigh fun h => ⟨?_, hodd h⟩
  · exact le_trans (by exact_mod_cast hle) hlow
  · have hpos : 0 < M := Nat.pos_of_ne_zero fun hzero => by simp [hzero] at h
    exact lt_of_lt_of_le (by exact_mod_cast hlt hpos) hlow

/-- A number that is rounded up lies more than half a unit above the mantissa, or just half if the
mantissa is odd. -/
theorem covers_up {w : ℚ} (hlow : 4 * (M : ℚ) + 2 ≤ w) (hhigh : w < 4 * M + 4)
    (heven : M % 2 = 0 → 4 * (M : ℚ) + 2 < w) (hfits : -1074 < e → M + 1 ≠ 2 ^ 52) :
    (Neighbourhood.of ⟨false, M + 1, e⟩).Covers (w * 2 ^ (e - 2)) := by
  have hend : (Neighbourhood.of ⟨false, M + 1, e⟩).low = 4 * M + 2 := by
    simp only [Neighbourhood.of, Nat.pow_eq]
    rw [if_neg fun h => hfits h.2 h.1]
    omega
  refine covers_of_quarters (f := ⟨false, M + 1, e⟩) ?_ ?_ fun h => ?_
  · rw [hend]
    exact_mod_cast hlow
  · push_cast
    linarith
  · have hstrict := heven (by change (M + 1) % 2 = 1 at h; omega)
    rw [hend]
    push_cast
    exact ⟨hstrict, by linarith⟩

/-- A number that is rounded up to a power of two lies in the smaller neighbourhood below it. -/
theorem covers_power {w : ℚ} (he : -1074 ≤ e) (hlow : 4 * ((2 ^ 53 - 1 : ℕ) : ℚ) + 2 ≤ w)
    (hhigh : w < 4 * ((2 ^ 53 - 1 : ℕ) : ℚ) + 4) :
    (Neighbourhood.of ⟨false, 2 ^ 52, e + 1⟩).Covers (w * 2 ^ (e - 2)) := by
  have hend : (Neighbourhood.of ⟨false, 2 ^ 52, e + 1⟩).low = 2 ^ 54 - 1 := by
    simp only [Neighbourhood.of, Nat.pow_eq]
    rw [if_pos ⟨trivial, by omega⟩]
    norm_num
  have hunit : w * 2 ^ (e - 2) = w / 2 * 2 ^ (e + 1 - 2) := by
    rw [show e + 1 - 2 = e - 2 + 1 by omega, zpow_add_one₀ two_ne_zero]
    ring
  rw [hunit]
  refine covers_of_quarters (f := ⟨false, 2 ^ 52, e + 1⟩) ?_ ?_ fun h => ?_
  · rw [hend]
    norm_num at hlow ⊢
    linarith
  · norm_num at hhigh ⊢
    linarith
  · norm_num at h

end Covers

section Halfway

variable (hfits : Fits em e) (h : Describes em e v)

include hfits h

/-- A number that is rounded up lies in the neighbourhood of the next mantissa. -/
theorem covers_rounded_up (hup : em.roundBit ∧ (em.stickyBit ∨ em.mantissa % 2 = 1)) :
    (Neighbourhood.of (rounded em e)).Covers v := by
  obtain ⟨rest, hnonneg, hhalf, hsticky, hv⟩ := h
  obtain ⟨hlt, hleast, hle⟩ := hfits
  rw [rounded, roundedMantissa_eq, if_pos hup]
  have hquarters : v = (4 * em.mantissa + 2 + 4 * rest) * 2 ^ (e - 2) := by
    rw [hv, if_pos hup.1, ← Neighbourhood.four_mul_two_zpow]
    ring
  rw [hquarters]
  split
  · rename_i hpower
    have hmantissa : em.mantissa = 2 ^ 53 - 1 := by omega
    rw [hmantissa]
    exact covers_power hleast (by linarith) (by linarith)
  · refine covers_up (by linarith) (by linarith) (fun heven => ?_) fun hnormal => ?_
    · -- Not just half a unit is left, or the number would be rounded down.
      have hset : em.stickyBit = true := hup.2.resolve_right (by omega)
      have hne : rest ≠ 0 := fun hzero => by simp [hset, hzero] at hsticky
      have hpos : 0 < rest := lt_of_le_of_ne hnonneg hne.symm
      linarith
    · have := hle hnormal
      omega

/-- A number that is rounded down lies in the neighbourhood of its mantissa. -/
theorem covers_rounded_down (hdown : ¬(em.roundBit ∧ (em.stickyBit ∨ em.mantissa % 2 = 1))) :
    (Neighbourhood.of (rounded em e)).Covers v := by
  obtain ⟨rest, hnonneg, hhalf, hsticky, hv⟩ := h
  obtain ⟨hlt, hleast, hle⟩ := hfits
  rw [rounded, roundedMantissa_eq, if_neg hdown, if_neg (by omega)]
  cases hround : em.roundBit with
  | false =>
    have hquarters : v = (4 * em.mantissa + 4 * rest) * 2 ^ (e - 2) := by
      rw [hv, hround, if_neg (by simp), ← Neighbourhood.four_mul_two_zpow]
      ring
    rw [hquarters]
    exact covers_down (by linarith) (by linarith) fun _ => by linarith
  | true =>
    -- Just half a unit is left, and the mantissa is even.
    have hhalfway : em.stickyBit = false ∧ em.mantissa % 2 = 0 := by
      simp only [hround, true_and, not_or, Bool.not_eq_true] at hdown
      exact ⟨hdown.1, by omega⟩
    have hquarters : v = (4 * em.mantissa + 2) * 2 ^ (e - 2) := by
      rw [hv, hround, if_pos rfl, hsticky.mp hhalfway.1, ← Neighbourhood.four_mul_two_zpow]
      ring
    rw [hquarters]
    exact covers_down (by linarith) le_rfl fun hodd => by omega

/-- A number lies in the neighbourhood of what it is rounded to. -/
theorem covers_rounded : (Neighbourhood.of (rounded em e)).Covers v := by
  by_cases hup : em.roundBit ∧ (em.stickyBit ∨ em.mantissa % 2 = 1)
  · exact covers_rounded_up hfits h hup
  · exact covers_rounded_down hfits h hup

end Halfway

/-- A result is the double in whose neighbourhood a number lies. It may be out of range. -/
def RoundsTo (v : ℚ) (result : UnpackedFloat) : Prop :=
  ∃ f : BinaryFraction, f.IsCanonical ∧ f.negative = false ∧ (Neighbourhood.of f).Covers v ∧
    result = f.unpacked

/-! ### The arithmetic of the language -/

theorem targetExponent_eq (m : Nat) (e : Int) :
    Format.binary64.targetExponent (totalExponent m e) = max ((m.log2 : Int) + e - 52) (-1074) := by
  simp only [Format.targetExponent, totalExponent, Format.mantissaBits, Format.minExponent]
  norm_num
  omega

theorem mantissa_ofMantissaAndAccuracy (m : Nat) (accuracy : Accuracy) :
    (ExtendedMantissa.ofMantissaAndAccuracy m accuracy).mantissa = m := by
  unfold ExtendedMantissa.ofMantissaAndAccuracy
  split <;> rfl

/-- A mantissa that is shifted to the exponent it has as a double has the bits of a double. -/
theorem fits_shiftRight (m : Nat) (accuracy : Accuracy) {k : Nat}
    (htarget : Format.binary64.targetExponent (totalExponent m e) = e + k) :
    Fits (ExtendedMantissa.ofMantissaAndAccuracy m accuracy >>> k) (e + k) := by
  rw [targetExponent_eq] at htarget
  have hmantissa := mantissa_shiftRight (.ofMantissaAndAccuracy m accuracy) k
  rw [mantissa_ofMantissaAndAccuracy] at hmantissa
  refine ⟨?_, by omega, fun hnormal => ?_⟩
  · rw [hmantissa, Nat.div_lt_iff_lt_mul (Nat.pow_pos (by decide)), ← Nat.pow_add]
    calc m
      _ < 2 ^ (m.log2 + 1) := Nat.lt_log2_self
      _ ≤ 2 ^ (53 + k) := Nat.pow_le_pow_right (by decide) (by omega)
  · have hlog : m.log2 = 52 + k := by omega
    have hpos : m ≠ 0 := by
      rintro rfl
      simp at hlog
      omega
    rw [hmantissa, Nat.le_div_iff_mul_le (Nat.pow_pos (by decide)), ← Nat.pow_add, ← hlog]
    exact Nat.log2_self_le hpos

/-- What is rounded does not have to be rounded again: it fits, or it is a power of two. -/
theorem shiftToTargetExponent_rounded (hfits : Fits em e) :
    (shiftToTargetExponent Format.binary64 em.roundedMantissa e .exact).1.mantissa =
        (rounded em e).mantissa ∧
      (shiftToTargetExponent Format.binary64 em.roundedMantissa e .exact).2 =
        (rounded em e).exponent := by
  have hle := hfits.roundedMantissa_le
  have hleast := hfits.least_le
  rw [shiftToTargetExponent, shiftToExponent, targetExponent_eq, rounded]
  dsimp only
  rw [mantissa_shiftRight, mantissa_ofMantissaAndAccuracy]
  split
  · rename_i hpower
    have hlog : (2 ^ 53 : Nat).log2 = 53 := Nat.log2_two_pow
    have hshift : (max (((2 ^ 53 : Nat).log2 : Int) + e - 52) (-1074) - e).toNat = 1 := by
      rw [hlog]
      omega
    rw [hpower, hshift]
    exact ⟨by norm_num, by norm_num⟩
  · have hlog : em.roundedMantissa.log2 ≤ 52 := by
      rcases Nat.eq_zero_or_pos em.roundedMantissa with hzero | hpos
      · rw [hzero]
        decide
      · have := (Nat.log2_lt (n := em.roundedMantissa) (k := 53) (by omega)).mpr (by omega)
        omega
    have hshift : (max ((em.roundedMantissa.log2 : Int) + e - 52) (-1074) - e).toNat = 0 := by
      omega
    rw [hshift]
    exact ⟨by simp, by simp⟩

/-- Arithmetic rounds a number to the double in whose neighbourhood it lies. -/
theorem roundsTo_roundWithAccuracy (h : Describes (.ofMantissaAndAccuracy m accuracy) e v)
    (htarget : e ≤ Format.binary64.targetExponent (totalExponent m e)) :
    RoundsTo v (roundWithAccuracy Format.binary64 .positive m e accuracy) := by
  obtain ⟨k, hk⟩ := Int.le.dest htarget
  have hfits := fits_shiftRight m accuracy hk.symm
  have hfirst : shiftToTargetExponent Format.binary64 m e accuracy =
      (ExtendedMantissa.ofMantissaAndAccuracy m accuracy >>> k, e + k) := by
    have hshift : (e + k - e).toNat = k := by omega
    rw [shiftToTargetExponent, ← hk, shiftToExponent, hshift]
  obtain ⟨hmantissa, hexponent⟩ := shiftToTargetExponent_rounded hfits
  refine ⟨_, hfits.isCanonical, negative_rounded _ _, covers_rounded hfits (h.shiftRight k), ?_⟩
  rw [roundWithAccuracy, hfirst, BinaryFraction.unpacked]
  simp only [hmantissa, hexponent, BinaryFraction.sign, negative_rounded, Bool.false_eq_true,
    if_false]

/-! ### Products and quotients -/

/-- What is left of a division is described by comparing twice the remainder with the divisor. -/
theorem describes_div {n d : Nat} (hd : 0 < d) (e : Int) :
    Describes (.ofMantissaAndAccuracy (n / d) (accuracyOfFraction (n % d) d)) e
      (n / d * 2 ^ e) := by
  have hdivisor : (0 : ℚ) < d := Nat.cast_pos.mpr hd
  have hquotient : (n / d : ℚ) = (n / d : ℕ) + (n % d : ℕ) / d := by
    have hdivision : (d * (n / d : ℕ) + (n % d : ℕ) : ℚ) = n := by
      exact_mod_cast Nat.div_add_mod n d
    field_simp
    linarith
  have hless : ((n % d : ℕ) : ℚ) / d < 1 := by
    rw [div_lt_one hdivisor]
    exact_mod_cast Nat.mod_lt n hd
  rw [hquotient, accuracyOfFraction]
  split
  · rename_i hexact
    rw [hexact, Nat.cast_zero, zero_div, add_zero]
    exact describes_exact _ e
  · rename_i hinexact
    obtain hlt | heq | hgt := lt_trichotomy (2 * (n % d)) d
    · have hbelow : ((n % d : ℕ) : ℚ) / d < 1 / 2 := by
        rw [div_lt_div_iff₀ hdivisor two_pos, one_mul, mul_comm]
        exact_mod_cast hlt
      rw [Nat.compare_eq_lt.mpr hlt]
      exact describes_less _ e (div_pos (by exact_mod_cast Nat.pos_of_ne_zero hinexact) hdivisor)
        hbelow
    · have hmiddle : ((n % d : ℕ) : ℚ) / d = 1 / 2 := by
        rw [div_eq_div_iff hdivisor.ne' two_ne_zero, one_mul, mul_comm]
        exact_mod_cast heq
      rw [Nat.compare_eq_eq.mpr heq, hmiddle]
      exact describes_half _ e
    · have habove : 1 / 2 < ((n % d : ℕ) : ℚ) / d := by
        rw [div_lt_div_iff₀ two_pos hdivisor, one_mul, mul_comm]
        exact_mod_cast hgt
      rw [Nat.compare_eq_gt.mpr hgt]
      exact describes_more _ e habove hless

variable {m₁ m₂ : Nat} {e₁ e₂ : Int}

/-- A quotient has enough bits, if the dividend is shifted by so many more than the divisor has. -/
theorem le_div_of_shift (h₁ : 0 < m₁) (h₂ : 0 < m₂) {k : Nat} (hk : m₂.log2 + 53 ≤ m₁.log2 + k) :
    2 ^ 52 ≤ m₁ * 2 ^ k / m₂ := by
  rw [Nat.le_div_iff_mul_le h₂]
  calc 2 ^ 52 * m₂
    _ ≤ 2 ^ 52 * 2 ^ (m₂.log2 + 1) := Nat.mul_le_mul_left _ Nat.lt_log2_self.le
    _ = 2 ^ (52 + (m₂.log2 + 1)) := (Nat.pow_add ..).symm
    _ ≤ 2 ^ (m₁.log2 + k) := Nat.pow_le_pow_right (by decide) (by omega)
    _ = 2 ^ m₁.log2 * 2 ^ k := Nat.pow_add ..
    _ ≤ m₁ * 2 ^ k := Nat.mul_le_mul_right _ (Nat.log2_self_le h₁.ne')

/-- A quotient is rounded to the double in whose neighbourhood it lies. -/
theorem roundsTo_div (h₁ : 0 < m₁) (h₂ : 0 < m₂) :
    RoundsTo (m₁ * 2 ^ e₁ / (m₂ * 2 ^ e₂)) (UnpackedFloat.div Format.binary64
      (.finite .positive m₁ e₁ h₁) (.finite .positive m₂ e₂ h₂)) := by
  rw [UnpackedFloat.div, divCore]
  dsimp only
  have htarget : Format.binary64.targetExponent (totalExponent m₁ e₁ - totalExponent m₂ e₂) =
      max ((m₁.log2 : Int) - m₂.log2 + e₁ - e₂ - 53) (-1074) := by
    simp only [Format.targetExponent, totalExponent, Format.mantissaBits, Format.minExponent]
    norm_num
    omega
  rw [htarget]
  generalize ht : min (e₁ - e₂) (max ((m₁.log2 : Int) - m₂.log2 + e₁ - e₂ - 53) (-1074)) = t
  obtain ⟨k, hk⟩ := Int.le.dest (show t ≤ e₁ - e₂ by omega)
  have hshift : (e₁ - e₂ - t).toNat = k := by omega
  have hquotient : (m₁ * 2 ^ e₁ / (m₂ * 2 ^ e₂) : ℚ) = (m₁ * 2 ^ k : ℕ) / m₂ * 2 ^ t := by
    have hunits : (2 : ℚ) ^ e₁ = 2 ^ k * 2 ^ t * 2 ^ e₂ := by
      rw [← zpow_natCast, ← zpow_add₀ two_ne_zero, ← zpow_add₀ two_ne_zero]
      congr 1
      omega
    rw [hunits]
    push_cast
    field_simp
  rw [hshift, Nat.shiftLeft_eq, hquotient]
  refine roundsTo_roundWithAccuracy (describes_div h₂ t) ?_
  rw [targetExponent_eq]
  by_cases hleast : t ≤ -1074
  · omega
  · have hlong := le_div_of_shift h₁ h₂ (k := k) (by omega)
    have hlog : 52 ≤ (m₁ * 2 ^ k / m₂).log2 := (Nat.le_log2 (by omega)).mpr hlong
    omega

/-- A product whose mantissa is long enough is rounded to the double in whose neighbourhood it
lies. -/
theorem roundsTo_mul (h₁ : 0 < m₁) (h₂ : 0 < m₂) (hlong : 2 ^ 52 ≤ m₁ * m₂) :
    RoundsTo (m₁ * 2 ^ e₁ * (m₂ * 2 ^ e₂)) (UnpackedFloat.mul Format.binary64
      (.finite .positive m₁ e₁ h₁) (.finite .positive m₂ e₂ h₂)) := by
  have hexact : Describes (.ofMantissaAndAccuracy (m₁ * m₂) .exact) (e₁ + e₂)
      (m₁ * 2 ^ e₁ * (m₂ * 2 ^ e₂)) := by
    convert describes_exact (m₁ * m₂) (e₁ + e₂) using 1
    rw [zpow_add₀ two_ne_zero]
    push_cast
    ring
  refine roundsTo_roundWithAccuracy hexact ?_
  have hlog : 52 ≤ (m₁ * m₂).log2 := (Nat.le_log2 (by omega)).mpr hlong
  rw [targetExponent_eq]
  omega

end DocTemplate.Rounding

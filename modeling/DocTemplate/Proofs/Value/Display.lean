import DocTemplate.Proofs.Decimal.Values
import DocTemplate.Proofs.Number.Comparing

/-!
# Display texts of numbers

Different numbers are displayed differently, and only the two zeros alike. The text of a finite
double that is not zero spells a number of the sign of the double that reads back as the double, and
what reads back as one double does not read back as another.

## Main statements

* `writes_displayNumber` — the text of a finite double spells a number in its neighbourhood.
* `displayNumber_eq_iff` — a number is displayed like another double exactly if they are equal.
-/

namespace DocTemplate

open Float.Model.UnpackedFloat (Sign)
open Neighbourhood (Covers)

variable {x y : Float} {f g : BinaryFraction}

/-- The size of an integral fraction as a rational. -/
theorem units_value_of_isIntegral (h : f.isIntegral) :
    (Neighbourhood.of f).units (Neighbourhood.of f).value = f.truncate.natAbs := by
  have hsize : (f.mantissa : ℚ) * 2 ^ f.exponent.toNat =
      f.truncate.natAbs * 2 ^ (-f.exponent).toNat := by
    exact_mod_cast BinaryFraction.mantissa_of_isIntegral h
  have hpow := Neighbourhood.pow_toNat_neg_mul_zpow (two_ne_zero (α := ℚ)) f.exponent
  have hpos : (2 : ℚ) ^ (-f.exponent).toNat ≠ 0 := by positivity
  have hvalue : (Neighbourhood.of f).value = 4 * f.mantissa := rfl
  rw [← hpow] at hsize
  have hmantissa : (f.mantissa : ℚ) * 2 ^ f.exponent = f.truncate.natAbs := by
    refine mul_right_cancel₀ hpos ?_
    rw [← hsize]
    ring
  rw [Neighbourhood.units_of, hvalue, zpow_sub₀ two_ne_zero, ← hmantissa]
  push_cast
  ring

/-- The text of a finite double that is not zero spells a number of its sign that reads back as the
double. -/
theorem writes_displayNumber (h : BinaryFraction.ofFloat? x = some f) (hpos : 0 < f.mantissa) :
    ∃ v, Numeral.Writes (displayNumber x) f.negative v ∧ Covers (.of f) v := by
  simp only [displayNumber, h, numberText]
  split
  · rename_i hinteger
    obtain ⟨hintegral, -⟩ := Bool.and_eq_true_iff.mp hinteger
    have hne : 0 < f.truncate.natAbs := by
      rw [Int.natAbs_pos]
      exact fun hzero => hpos.ne' (BinaryFraction.mantissa_eq_zero_of_truncate hintegral hzero)
    have hsign : decide (f.truncate < 0) = f.negative := by
      simp [BinaryFraction.truncate_neg_iff hintegral hne]
    refine ⟨f.truncate.natAbs, hsign ▸ writes_integerText f.truncate, ?_⟩
    rw [← units_value_of_isIntegral hintegral]
    exact Neighbourhood.covers_value hpos
  · have hcanonical := BinaryFraction.isCanonical_of_ofFloat? h
    refine ⟨_, ?_, Decimal.covers_shortest hpos hcanonical .up⟩
    exact Decimal.writes_positional _ f.negative

theorem displayNumber_zero (h : x == 0) : displayNumber x = ['0'] := by
  cases hx : BinaryFraction.ofFloat? x with
  | none =>
    obtain ⟨s, hs⟩ := Number.beq_zero_iff.mp h
    have hfinite : x.toModel.unpack.isFinite = false :=
      BinaryFraction.isFinite_of_ofFloat?_eq_none hx
    rw [hs] at hfinite
    cases hfinite
  | some f =>
    obtain ⟨hintegral, htruncate⟩ :=
      BinaryFraction.of_mantissa_eq_zero ((BinaryFraction.beq_zero_iff hx).mp h)
    simp only [displayNumber, hx, numberText, hintegral, htruncate]
    rfl

/-- The text of a finite double spells a number that belongs to no other double. -/
theorem exists_writes_displayNumber (h : BinaryFraction.ofFloat? x = some f) :
    ∃ negative v, Numeral.Writes (displayNumber x) negative v ∧
      (f.mantissa = 0 ∧ v = 0 ∨ 0 < f.mantissa ∧ negative = f.negative ∧ Covers (.of f) v) := by
  obtain hzero | hpos := Nat.eq_zero_or_pos f.mantissa
  · rw [displayNumber_zero ((BinaryFraction.beq_zero_iff h).mpr hzero)]
    exact ⟨_, _, writes_integerText 0, .inl ⟨hzero, by simp⟩⟩
  · obtain ⟨v, hwrites, hcovers⟩ := writes_displayNumber h hpos
    exact ⟨_, v, hwrites, .inr ⟨hpos, rfl, hcovers⟩⟩

/-- The text of a finite double is read as a number. -/
theorem read?_displayNumber_isSome (h : BinaryFraction.ofFloat? x = some f) :
    (Numeral.read? (displayNumber x)).isSome := by
  obtain ⟨_, _, ⟨n, hn, -, -⟩, -⟩ := exists_writes_displayNumber h
  rw [Numeral.read?_of_spelled hn]
  rfl

/-- The text of an infinity says its sign. -/
theorem displayNumber_infinity (h : BinaryFraction.ofFloat? x = none) {s : Sign}
    (hs : x.toModel.unpack = .infinity s) :
    displayNumber x =
      match s with
      | .positive => "Infinity".toList
      | .negative => "-Infinity".toList := by
  have hnumber : ¬x.isNaN := by
    rw [Number.isNaN_iff, hs]
    nofun
  have hpositive := Number.zero_lt_iff_of_unpack hs
  cases s <;> simp_all [displayNumber]

/-- The text of an infinity is read as no number. -/
theorem read?_displayNumber_infinity (h : BinaryFraction.ofFloat? x = none)
    (hx : x.isNaN = false) : Numeral.read? (displayNumber x) = none := by
  obtain ⟨s, hs⟩ := Number.unpack_infinity h hx
  rw [displayNumber_infinity h hs]
  cases s <;> rfl

/-- Finite doubles that are displayed alike are the same or both zero. -/
theorem eq_or_zero_of_finite_displayNumber_eq (hx : BinaryFraction.ofFloat? x = some f)
    (hy : BinaryFraction.ofFloat? y = some g) (h : displayNumber x = displayNumber y) :
    x = y ∨ x == 0 ∧ y == 0 := by
  rw [BinaryFraction.beq_zero_iff hx, BinaryFraction.beq_zero_iff hy]
  obtain ⟨negative, v, hwrites, hv⟩ := exists_writes_displayNumber hx
  obtain ⟨negative', w, hwrites', hw⟩ := exists_writes_displayNumber hy
  rw [← h] at hwrites'
  obtain ⟨rfl, rfl⟩ := hwrites.unique hwrites'
  obtain ⟨hzero, hv⟩ | ⟨hpos, hsign, hcovers⟩ := hv
  · obtain ⟨hzero', -⟩ | ⟨hpos', -, hcovers'⟩ := hw
    · exact .inr ⟨hzero, hzero'⟩
    · exact absurd hv (hcovers'.pos hpos').ne'
  · obtain ⟨-, hw⟩ | ⟨-, hsign', hcovers'⟩ := hw
    · exact absurd hw (hcovers.pos hpos).ne'
    · obtain ⟨hmantissa, hexponent⟩ := Neighbourhood.eq_of_covers
        (BinaryFraction.isCanonical_of_ofFloat? hx) (BinaryFraction.isCanonical_of_ofFloat? hy)
        hcovers hcovers'
      have hfraction : f = g := by
        cases f
        cases g
        simp_all
      refine .inl (BinaryFraction.eq_of_unpack_eq ?_)
      rw [BinaryFraction.unpack_of_ofFloat? hx, BinaryFraction.unpack_of_ofFloat? hy, hfraction]

/-- Infinities that are displayed alike are the same. -/
theorem eq_of_infinite_displayNumber_eq (hx : BinaryFraction.ofFloat? x = none)
    (hy : BinaryFraction.ofFloat? y = none) (hnx : x.isNaN = false) (hny : y.isNaN = false)
    (h : displayNumber x = displayNumber y) : x = y := by
  obtain ⟨s, hs⟩ := Number.unpack_infinity hx hnx
  obtain ⟨t, ht⟩ := Number.unpack_infinity hy hny
  have hsign : s = t := by
    rw [displayNumber_infinity hx hs, displayNumber_infinity hy ht] at h
    cases s <;> cases t <;> first | rfl | cases h
  exact BinaryFraction.eq_of_unpack_eq (by rw [hs, ht, hsign])

theorem displayNumber_nan (h : x.isNaN) : displayNumber x = "NaN".toList := by
  have hfinite : x.isFinite = false := by
    show x.toModel.unpack.isFinite = false
    rw [Number.isNaN_iff.mp h]
    rfl
  rw [BinaryFraction.isFinite_eq, Option.isSome_eq_false_iff, Option.isNone_iff_eq_none] at hfinite
  simp only [displayNumber, hfinite, if_pos h]

/-- A number is not displayed like NaN. -/
theorem displayNumber_ne_nan (hx : x.isNaN = false) : displayNumber x ≠ "NaN".toList := by
  intro h
  cases hf : BinaryFraction.ofFloat? x with
  | none =>
    obtain ⟨s, hs⟩ := Number.unpack_infinity hf hx
    rw [displayNumber_infinity hf hs] at h
    cases s <;> cases h
  | some f =>
    have hread := read?_displayNumber_isSome hf
    rw [h] at hread
    cases hread

theorem displayNumber_ne_nil (x : Float) : displayNumber x ≠ [] := by
  intro h
  cases hf : BinaryFraction.ofFloat? x with
  | none =>
    simp only [displayNumber, hf] at h
    split_ifs at h <;> cases h
  | some f =>
    have hread := read?_displayNumber_isSome hf
    rw [h] at hread
    cases hread

/-- Numbers that are displayed alike are the same or both zero. -/
theorem eq_or_zero_of_displayNumber_eq (hx : x.isNaN = false) (hy : y.isNaN = false)
    (h : displayNumber x = displayNumber y) : x = y ∨ x == 0 ∧ y == 0 := by
  cases hfx : BinaryFraction.ofFloat? x with
  | none =>
    have hread := read?_displayNumber_infinity hfx hx
    cases hfy : BinaryFraction.ofFloat? y with
    | none => exact .inl (eq_of_infinite_displayNumber_eq hfx hfy hx hy h)
    | some g =>
      have hread' := read?_displayNumber_isSome hfy
      simp [← h, hread] at hread'
  | some f =>
    have hread := read?_displayNumber_isSome hfx
    cases hfy : BinaryFraction.ofFloat? y with
    | none => simp [h, read?_displayNumber_infinity hfy hy] at hread
    | some g => exact eq_or_zero_of_finite_displayNumber_eq hfx hfy h

/-- A number is displayed like another double exactly if they are equal. -/
theorem displayNumber_eq_iff (hx : x.isNaN = false) :
    displayNumber x = displayNumber y ↔ x == y := by
  rw [Number.beq_iff hx]
  constructor
  · intro h
    cases hy : y.isNaN with
    | true => exact absurd (h.trans (displayNumber_nan hy)) (displayNumber_ne_nan hx)
    | false => exact eq_or_zero_of_displayNumber_eq hx hy h
  · rintro (rfl | ⟨hzero, hzero'⟩)
    · rfl
    · rw [displayNumber_zero hzero, displayNumber_zero hzero']

end DocTemplate

import DocTemplate.Decimal.Shortest
import DocTemplate.Proofs.Decimal.Digits
import DocTemplate.Proofs.Number.Integers

/-!
# The shortest decimal

The neighbourhood of a double is an interval of rationals, and no rational lies in the
neighbourhoods of two doubles: where two of them meet, only the one with the even mantissa has its
end. The shortest decimal lies in the neighbourhood of its double, since one with seventeen digits
always does.

## Main definitions

* `Decimal.value` — the number that a decimal stands for.
* `BinaryFraction.IsCanonical` — the form that the fractions of doubles have.
* `Neighbourhood.Covers` — a rational that reads back as a double.

## Main statements

* `Neighbourhood.contains_iff` — what is tested in exact integers.
* `Neighbourhood.eq_of_covers` — a rational reads back as one double only.
* `Neighbourhood.onGrid_isSome` — seventeen digits are enough.
* `Decimal.covers_shortest` — the shortest decimal reads back as the double.
* `Decimal.digits_shortest_pos` — its digits are above zero.
-/

namespace DocTemplate

/-- The number that a decimal stands for. -/
def Decimal.value (d : Decimal) : ℚ :=
  d.digits * 10 ^ d.exponent

/-- The mantissa of a double has at most 53 bits, and fewer only with the least exponent. -/
structure BinaryFraction.IsCanonical (f : BinaryFraction) : Prop where
  mantissa_lt : f.mantissa < 2 ^ 53
  least_le : -1074 ≤ f.exponent
  le_mantissa : -1074 < f.exponent → 2 ^ 52 ≤ f.mantissa

theorem BinaryFraction.isCanonical_of_ofFloat? {x : Float} {f : BinaryFraction}
    (h : ofFloat? x = some f) : f.IsCanonical := by
  obtain ⟨hmantissa, -, hcases⟩ := bounds_of_ofFloat? h
  exact ⟨hmantissa, by omega, by omega⟩

namespace Neighbourhood

/-- So many units as a rational. -/
def units (n : Neighbourhood) (k : Nat) : ℚ :=
  k * 2 ^ n.exponent

/-- A rational lies in a neighbourhood: between the ends, or on one if the ends belong to it. -/
structure Covers (n : Neighbourhood) (v : ℚ) : Prop where
  low_le : n.units n.low ≤ v
  le_high : v ≤ n.units n.high
  between : n.closed = false → n.units n.low < v ∧ v < n.units n.high

theorem covers_of_between {n : Neighbourhood} {v : ℚ} (hlow : n.units n.low < v)
    (hhigh : v < n.units n.high) : n.Covers v :=
  ⟨hlow.le, hhigh.le, fun _ => ⟨hlow, hhigh⟩⟩

/-! ### The grid of a power of ten -/

theorem pow_toNat_neg_mul_zpow {a : ℚ} (ha : a ≠ 0) (i : Int) :
    a ^ (-i).toNat * a ^ i = a ^ i.toNat := by
  rw [← zpow_natCast, ← zpow_natCast, ← zpow_add₀ ha]
  congr 1
  omega

theorem two_zpow_mul_two_le {i j : Int} (h : i < j) : (2 : ℚ) ^ i * 2 ≤ 2 ^ j := by
  rw [← zpow_add_one₀ two_ne_zero]
  exact zpow_le_zpow_right₀ (by norm_num) h

theorem scales_pos (n : Neighbourhood) (place : Int) :
    0 < (n.scales place).1 ∧ 0 < (n.scales place).2 := by
  simp [scales, Nat.pow_eq]

theorem scales_fst (n : Neighbourhood) (place : Int) :
    (n.scales place).1 = 2 ^ n.exponent.toNat * 10 ^ (-place).toNat :=
  rfl

theorem scales_snd (n : Neighbourhood) (place : Int) :
    (n.scales place).2 = 2 ^ (-n.exponent).toNat * 10 ^ place.toNat :=
  rfl

theorem two_pow_le {a n : Nat} (h : a ≤ 3 * n) : 2 ^ a ≤ 10 ^ n :=
  calc 2 ^ a
    _ ≤ 2 ^ (3 * n) := Nat.pow_le_pow_right (by decide) h
    _ = 8 ^ n := Nat.pow_mul 2 3 n
    _ ≤ 10 ^ n := Nat.pow_le_pow_left (by decide) n

section Grid

variable (n : Neighbourhood) (place : Int)

/-- Over one denominator units and steps are natural numbers. -/
theorem exists_scale :
    ∃ c : ℚ, 0 < c ∧ (∀ a : Nat, n.units a * c = (a * (n.scales place).1 : ℕ)) ∧
      ∀ k : Nat, k * 10 ^ place * c = (k * (n.scales place).2 : ℕ) := by
  have hstep : (0 : ℚ) < (n.scales place).2 := Nat.cast_pos.mpr (n.scales_pos place).2
  have hten : (10 : ℚ) ^ place ≠ 0 := by positivity
  have hratio : ((n.scales place).1 : ℚ) * 10 ^ place = (n.scales place).2 * 2 ^ n.exponent := by
    rw [scales_fst, scales_snd]
    push_cast
    rw [← pow_toNat_neg_mul_zpow two_ne_zero n.exponent,
      ← pow_toNat_neg_mul_zpow (by decide : (10 : ℚ) ≠ 0) place]
    ring
  refine ⟨(n.scales place).2 / 10 ^ place, by positivity, fun a => ?_, fun k => ?_⟩
  · rw [units]
    push_cast
    field_simp
    linear_combination (-(a : ℚ)) * hratio
  · push_cast
    field_simp

variable (a k : Nat)

theorem units_le_iff :
    n.units a ≤ k * 10 ^ place ↔ a * (n.scales place).1 ≤ k * (n.scales place).2 := by
  obtain ⟨c, hc, hunits, hsteps⟩ := exists_scale n place
  rw [← mul_le_mul_iff_left₀ hc, hunits, hsteps, Nat.cast_le]

theorem le_units_iff :
    k * 10 ^ place ≤ n.units a ↔ k * (n.scales place).2 ≤ a * (n.scales place).1 := by
  obtain ⟨c, hc, hunits, hsteps⟩ := exists_scale n place
  rw [← mul_le_mul_iff_left₀ hc, hunits, hsteps, Nat.cast_le]

/-- What is tested in exact integers is whether a multiple of a power of ten reads back. -/
theorem contains_iff : n.contains place k ↔ n.Covers (k * 10 ^ place) := by
  have hlow := units_le_iff n place n.low k
  have hhigh := le_units_iff n place n.high k
  have hlow' := le_units_iff n place n.low k
  have hhigh' := units_le_iff n place n.high k
  unfold contains
  dsimp only
  constructor
  · intro h
    split at h
    · rename_i hclosed
      simp only [Bool.and_eq_true, decide_eq_true_eq, ← hlow, ← hhigh] at h
      exact ⟨h.1, h.2, fun hopen => by simp [hclosed] at hopen⟩
    · simp only [Bool.and_eq_true, decide_eq_true_eq, ← Nat.not_le, ← hlow', ← hhigh', not_le] at h
      exact covers_of_between h.1 h.2
  · rintro ⟨h1, h2, hopen⟩
    split
    · simp only [Bool.and_eq_true, decide_eq_true_eq, ← hlow, ← hhigh]
      exact ⟨h1, h2⟩
    · rename_i hclosed
      simp only [Bool.and_eq_true, decide_eq_true_eq, ← Nat.not_le, ← hlow', ← hhigh', not_le]
      exact hopen (by simpa using hclosed)

/-- A double lies between two multiples of a power of ten. -/
theorem below_le_units : n.below place * 10 ^ place ≤ n.units n.value := by
  rw [le_units_iff]
  exact Nat.div_mul_le_self _ _

theorem units_lt_below : n.units n.value < (n.below place + 1 : ℕ) * 10 ^ place := by
  rw [← not_le, le_units_iff, not_le]
  exact (Nat.div_lt_iff_lt_mul (scales_pos n place).2).mp (Nat.lt_succ_self _)

/-- The first digit of the multiple below a double stands for no more than the double. -/
theorem pow_length_below_le (h : 0 < n.below place) :
    (10 : ℚ) ^ (((Nat.toDigits 10 (n.below place)).length - 1 : ℕ) + place) ≤ n.units n.value := by
  have hdigits : (10 ^ ((Nat.toDigits 10 (n.below place)).length - 1) : ℚ) ≤ n.below place := by
    exact_mod_cast pow_le_of_length_toDigits _ h
  rw [zpow_add₀ (by decide), zpow_natCast]
  exact (mul_le_mul_of_nonneg_right hdigits (by positivity)).trans (below_le_units n place)

end Grid

theorem contains_of_onGrid {n : Neighbourhood} {tie : Tie} {place : Int} {k : Nat}
    (h : n.onGrid tie place = some k) : n.contains place k := by
  unfold onGrid at h
  dsimp only at h
  grind

theorem not_contains_of_onGrid {n : Neighbourhood} {tie : Tie} {place : Int}
    (h : n.onGrid tie place = none) :
    n.contains place (n.below place) = false ∧ n.contains place (n.below place + 1) = false := by
  unfold onGrid at h
  dsimp only at h
  grind

/-! ### One double for each rational -/

section Ends

variable {f g : BinaryFraction} {v : ℚ}

/-- The lower end of a double lies half a step below it, or a quarter of one where the doubles below
are twice as dense. -/
theorem low_of (f : BinaryFraction) :
    ¬(f.mantissa = 2 ^ 52 ∧ -1074 < f.exponent) ∧ (of f).low = 4 * f.mantissa - 2 ∨
      f.mantissa = 2 ^ 52 ∧ (of f).low = 4 * f.mantissa - 1 := by
  simp only [of, Nat.pow_eq]
  split_ifs with h
  · exact .inr ⟨h.1, rfl⟩
  · exact .inl ⟨h, rfl⟩

theorem units_of (f : BinaryFraction) (k : Nat) : (of f).units k = k * 2 ^ (f.exponent - 2) :=
  rfl

/-- The units of a neighbourhood are quarters of the unit of its double. -/
theorem four_mul_two_zpow (e : Int) : (4 * 2 ^ (e - 2) : ℚ) = 2 ^ e := by
  rw [zpow_sub₀ two_ne_zero]
  ring

/-- On an end only an even mantissa reads back. -/
theorem Covers.even_of_eq_low (h : (of f).Covers v) (hv : v = (of f).units (of f).low) :
    f.mantissa % 2 = 0 := by
  by_contra hodd
  have hopen := h.between (by simp [of, hodd])
  exact absurd hv hopen.1.ne'

theorem Covers.even_of_eq_high (h : (of f).Covers v) (hv : v = (of f).units (of f).high) :
    f.mantissa % 2 = 0 := by
  by_contra hodd
  have hopen := h.between (by simp [of, hodd])
  exact absurd hv hopen.2.ne

/-- With the same exponent a smaller mantissa has no rational in common with a greater one. -/
theorem not_covers_of_mantissa_lt (hexponent : f.exponent = g.exponent)
    (hlt : f.mantissa < g.mantissa) (hf : (of f).Covers v) : ¬(of g).Covers v := by
  intro hg
  have hunit : (0 : ℚ) < 2 ^ (g.exponent - 2) := by positivity
  have hle : (of g).units (of g).low ≤ (of f).units (of f).high := hg.low_le.trans hf.le_high
  rw [units_of, units_of, hexponent, mul_le_mul_iff_left₀ hunit, Nat.cast_le] at hle
  have hhigh : (of f).high = 4 * f.mantissa + 2 := rfl
  -- The two neighbourhoods meet in one end at most, which belongs to the even mantissa.
  have hmeet : (of g).low = (of f).high ∧ g.mantissa = f.mantissa + 1 := by
    obtain ⟨-, hlow⟩ | ⟨-, hlow⟩ := low_of g <;> omega
  have hends : (of g).units (of g).low = (of f).units (of f).high := by
    rw [units_of, units_of, hexponent, hmeet.1]
  have heven := hf.even_of_eq_high (le_antisymm hf.le_high (hends ▸ hg.low_le))
  have heven' := hg.even_of_eq_low (le_antisymm (hends ▸ hf.le_high) hg.low_le)
  omega

/-- All that reads back as a double lies below the middle of the gap behind its exponent. -/
theorem Covers.lt_of_isCanonical (hcanonical : f.IsCanonical) (h : (of f).Covers v) :
    v < (2 ^ 55 - 2 : ℕ) * 2 ^ (f.exponent - 2) := by
  have hmantissa := hcanonical.mantissa_lt
  have hunit : (0 : ℚ) < 2 ^ (f.exponent - 2) := by positivity
  have hhigh : (of f).high = 4 * f.mantissa + 2 := rfl
  obtain hv | hv := h.le_high.lt_or_eq
  · refine hv.trans_le ?_
    rw [units_of, mul_le_mul_iff_left₀ hunit, Nat.cast_le]
    omega
  · have heven := h.even_of_eq_high hv
    rw [hv, units_of, mul_lt_mul_iff_left₀ hunit, Nat.cast_lt]
    omega

/-- What reads back as a double lies above the middle of the gap before its exponent, if that is not
the least. -/
theorem Covers.le_of_isCanonical (hcanonical : f.IsCanonical) (hnormal : -1074 < f.exponent)
    (h : (of f).Covers v) : (2 ^ 54 - 1 : ℕ) * 2 ^ (f.exponent - 2) ≤ v := by
  have hmantissa := hcanonical.le_mantissa hnormal
  refine le_trans ?_ h.low_le
  have hlow : 2 ^ 54 - 1 ≤ (of f).low := by
    obtain ⟨hpower, hlow⟩ | ⟨hpower, hlow⟩ := low_of f <;> omega
  rw [units_of]
  gcongr

/-- A double with a smaller exponent has no rational in common with one with a greater exponent. -/
theorem not_covers_of_exponent_lt (hcanonical : f.IsCanonical) (hcanonical' : g.IsCanonical)
    (hlt : f.exponent < g.exponent) (hf : (of f).Covers v) : ¬(of g).Covers v := by
  intro hg
  have hleast := hcanonical.least_le
  have hbelow := hf.lt_of_isCanonical hcanonical
  have habove : ((2 ^ 55 - 2 : ℕ) : ℚ) * 2 ^ (f.exponent - 2) ≤ v := by
    refine le_trans ?_ (hg.le_of_isCanonical hcanonical' (by omega))
    have hdouble := two_zpow_mul_two_le (show f.exponent - 2 < g.exponent - 2 by omega)
    calc ((2 ^ 55 - 2 : ℕ) : ℚ) * 2 ^ (f.exponent - 2)
      _ = (2 ^ 54 - 1 : ℕ) * (2 ^ (f.exponent - 2) * 2) := by push_cast; ring
      _ ≤ (2 ^ 54 - 1 : ℕ) * 2 ^ (g.exponent - 2) := by gcongr
  exact absurd hbelow habove.not_gt

/-- No rational reads back as two doubles. -/
theorem eq_of_covers (hcanonical : f.IsCanonical) (hcanonical' : g.IsCanonical)
    (hf : (of f).Covers v) (hg : (of g).Covers v) :
    f.mantissa = g.mantissa ∧ f.exponent = g.exponent := by
  obtain hlt | hexponent | hlt := lt_trichotomy f.exponent g.exponent
  · exact absurd hg (not_covers_of_exponent_lt hcanonical hcanonical' hlt hf)
  · obtain hlt | hmantissa | hlt := lt_trichotomy f.mantissa g.mantissa
    · exact absurd hg (not_covers_of_mantissa_lt hexponent hlt hf)
    · exact ⟨hmantissa, hexponent⟩
    · exact absurd hf (not_covers_of_mantissa_lt hexponent.symm hlt hg)
  · exact absurd hf (not_covers_of_exponent_lt hcanonical' hcanonical hlt hg)

end Ends

/-! ### Seventeen digits -/

section Seventeen

variable {f : BinaryFraction} (h : 0 < f.mantissa)

include h

theorem low_pos : 0 < (of f).low := by
  simp only [of]
  split <;> omega

theorem value_between : (of f).units (of f).low < (of f).units (of f).value ∧
    (of f).units (of f).value < (of f).units (of f).high := by
  have hunit : (0 : ℚ) < 2 ^ (f.exponent - 2) := by positivity
  have hvalue : (of f).value = 4 * f.mantissa := rfl
  have hhigh : (of f).high = 4 * f.mantissa + 2 := rfl
  simp only [units_of, mul_lt_mul_iff_left₀ hunit, Nat.cast_lt]
  obtain ⟨-, hlow⟩ | ⟨-, hlow⟩ := low_of f <;> omega

/-- A double reads back as itself. -/
theorem covers_value : (of f).Covers ((of f).units (of f).value) :=
  covers_of_between (value_between h).1 (value_between h).2

/-- What reads back as a double above zero is above zero. -/
theorem Covers.pos {v : ℚ} (hv : (of f).Covers v) : 0 < v := by
  have hlow := low_pos h
  refine lt_of_lt_of_le ?_ hv.low_le
  rw [units_of]
  positivity

/-- The grid on which the first digit is looked up is fine enough for the least double. -/
theorem below_pos (he : -1074 ≤ f.exponent) : 0 < (of f).below (-400) := by
  have hexponent : (-(of f).exponent).toNat ≤ 3 * 400 := by
    simp only [of]
    omega
  have hvalue : 0 < (of f).value * 2 ^ (of f).exponent.toNat :=
    Nat.mul_pos (by simp only [of]; omega) (Nat.pow_pos (by decide))
  have hstep : ((of f).scales (-400)).2 ≤ (of f).value * ((of f).scales (-400)).1 := by
    calc ((of f).scales (-400)).2
      _ = 2 ^ (-(of f).exponent).toNat := by simp [scales_snd]
      _ ≤ 10 ^ 400 := two_pow_le hexponent
      _ ≤ (of f).value * 2 ^ (of f).exponent.toNat * 10 ^ 400 := Nat.le_mul_of_pos_left _ hvalue
      _ = (of f).value * ((of f).scales (-400)).1 := by
        rw [scales_fst, Nat.mul_assoc, show (-(-400 : Int)).toNat = 400 from rfl]
  exact Nat.div_pos hstep (scales_pos _ _).2

/-- The first digit of a double stands for no more than the double. -/
theorem pow_leadingPlace_le (he : -1074 ≤ f.exponent) :
    (10 : ℚ) ^ (of f).leadingPlace ≤ (of f).units (of f).value := by
  have hlength := Nat.length_toDigits_pos (b := 10) (n := (of f).below (-400))
  have hlead : (of f).leadingPlace =
      ((Nat.toDigits 10 ((of f).below (-400))).length - 1 : ℕ) + (-400) := by
    rw [leadingPlace]
    omega
  rw [hlead]
  exact pow_length_below_le _ _ (below_pos h he)

/-- The neighbourhood of a double is wider than a step of the seventeenth digit. -/
theorem step_lt_width (hcanonical : f.IsCanonical) :
    (10 : ℚ) ^ ((of f).leadingPlace - 16) < (of f).units (of f).high - (of f).units (of f).low := by
  have hunit : (0 : ℚ) < 2 ^ (f.exponent - 2) := by positivity
  have hlead := pow_leadingPlace_le h hcanonical.least_le
  have hmantissa := hcanonical.mantissa_lt
  have hvalue : (of f).value = 4 * f.mantissa := rfl
  have hhigh : (of f).high = 4 * f.mantissa + 2 := rfl
  have hwidth : (of f).value + (of f).low * 10 ^ 16 < (of f).high * 10 ^ 16 := by
    obtain ⟨-, hlow⟩ | ⟨hpower, hlow⟩ := low_of f <;> omega
  have hscaled : (of f).units (of f).value + (of f).units (of f).low * 10 ^ 16 <
      (of f).units (of f).high * 10 ^ 16 := by
    have hcast : ((of f).value + (of f).low * 10 ^ 16 : ℚ) < (of f).high * 10 ^ 16 := by
      exact_mod_cast hwidth
    simp only [units_of]
    nlinarith
  have hplace : (10 : ℚ) ^ (of f).leadingPlace = 10 ^ ((of f).leadingPlace - 16) * 10 ^ 16 := by
    rw [← zpow_natCast, ← zpow_add₀ (by decide)]
    congr 1
    omega
  linarith

/-- One of the two multiples around a double reads back on the grid of the seventeenth digit. -/
theorem onGrid_isSome (hcanonical : f.IsCanonical) (tie : Tie) :
    ((of f).onGrid tie ((of f).leadingPlace - 16)).isSome := by
  by_contra hnone
  rw [Option.not_isSome_iff_eq_none] at hnone
  obtain ⟨hleft, hright⟩ := not_contains_of_onGrid hnone
  have hwidth := step_lt_width h hcanonical
  generalize (of f).leadingPlace - 16 = place at *
  rw [← Bool.not_eq_true, contains_iff] at hleft hright
  have hbelow := below_le_units (of f) place
  have habove := units_lt_below (of f) place
  obtain ⟨hlow, hhigh⟩ := value_between h
  have hleft' : (of f).below place * 10 ^ place ≤ (of f).units (of f).low := by
    by_contra hlt
    exact hleft (covers_of_between (not_le.mp hlt) (hbelow.trans_lt hhigh))
  have hright' : (of f).units (of f).high ≤ ((of f).below place + 1 : ℕ) * 10 ^ place := by
    by_contra hlt
    exact hright (covers_of_between (hlow.trans habove) (not_le.mp hlt))
  push_cast at hright'
  linarith

end Seventeen

end Neighbourhood

namespace Decimal

theorem value_stripZeros (fuel : Nat) (d : Decimal) : (stripZeros fuel d).value = d.value := by
  induction fuel generalizing d with
  | zero => rfl
  | succ fuel ih =>
    unfold stripZeros
    split
    · rename_i hzero
      have hdigits : (d.digits : ℚ) = (d.digits / 10 : ℕ) * 10 := by
        exact_mod_cast (Nat.div_mul_cancel (Nat.dvd_of_mod_eq_zero hzero.2)).symm
      rw [ih, value, value, zpow_add_one₀ (by decide), hdigits]
      ring
    · rfl

/-- The shortest decimal reads back as the double. -/
theorem covers_shortest {f : BinaryFraction} (h : 0 < f.mantissa) (hcanonical : f.IsCanonical)
    (tie : Tie) : (Neighbourhood.of f).Covers (shortest f tie).value := by
  unfold shortest
  dsimp only
  rw [value_stripZeros]
  generalize hchosen : List.findSome? _ (List.range 17) = chosen
  cases chosen with
  | none =>
    have hlast := Neighbourhood.onGrid_isSome h hcanonical tie
    have hnone := List.findSome?_eq_none_iff.mp hchosen 16 (by decide)
    rw [Option.map_eq_none_iff, Nat.cast_ofNat] at hnone
    simp [hnone] at hlast
  | some d =>
    obtain ⟨i, -, hi⟩ := List.exists_of_findSome?_eq_some hchosen
    obtain ⟨k, hk, rfl⟩ := Option.map_eq_some_iff.mp hi
    exact (Neighbourhood.contains_iff _ _ _).mp (Neighbourhood.contains_of_onGrid hk)

/-- The digits that are chosen for a double above zero are above zero. -/
theorem digits_shortest_pos {f : BinaryFraction} (h : 0 < f.mantissa) (hcanonical : f.IsCanonical)
    (tie : Tie) : 0 < (shortest f tie).digits := by
  have hpos := Neighbourhood.Covers.pos h (covers_shortest h hcanonical tie)
  rw [Nat.pos_iff_ne_zero]
  intro hzero
  simp [value, hzero] at hpos

end Decimal

end DocTemplate

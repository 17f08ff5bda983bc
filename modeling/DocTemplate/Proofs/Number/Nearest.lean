import DocTemplate.Proofs.Number.Rounding

/-!
# The nearest double

What it means that a double is the nearest one to a number, said with distances only: no other
double is nearer, the even mantissa goes first between two that are equally near, and numbers beyond
the greatest double become infinite halfway to the next power of two. There is one such double for
each number, and it is the one in whose neighbourhood the number lies.

## Main definitions

* `BinaryFraction.value` — the number that a fraction stands for.
* `Number.IsNearest` — a double is the nearest one to a number.

## Main statements

* `BinaryFraction.exists_ofFloat?_eq` — every canonical fraction in range is one of a double.
* `Number.isNearest_of_covers` — the double of a neighbourhood is the nearest one to what lies in
  it.
* `Number.IsNearest.unique` — a number has one nearest double only.
* `Rounding.RoundsTo.isNearest` — a number is rounded to the nearest double.
-/

namespace DocTemplate

open Float.Model Float.Model.UnpackedFloat
open Neighbourhood (Covers of)

namespace BinaryFraction

variable {f g : BinaryFraction} {v : ℚ}

/-- The number that a fraction stands for. -/
def value (f : BinaryFraction) : ℚ :=
  f.signed * 2 ^ f.exponent

/-- The number that a fraction stands for, without its sign. -/
def size (f : BinaryFraction) : ℚ :=
  f.mantissa * 2 ^ f.exponent

theorem size_nonneg (f : BinaryFraction) : 0 ≤ f.size := by
  unfold size
  positivity

theorem value_eq (f : BinaryFraction) : f.value = if f.negative then -f.size else f.size := by
  unfold value signed size
  split <;> simp

theorem value_of_positive (h : f.negative = false) : f.value = f.size := by
  rw [value_eq, if_neg (by simp [h])]

theorem abs_value (f : BinaryFraction) : |f.value| = f.size := by
  rw [value_eq]
  split <;> simp [abs_of_nonneg f.size_nonneg]

/-- The size in the units of the neighbourhood. -/
theorem size_eq_quarters (f : BinaryFraction) :
    f.size = 4 * f.mantissa * 2 ^ (f.exponent - 2) := by
  rw [size, ← Neighbourhood.four_mul_two_zpow]
  ring

/-! ### The gaps between doubles -/

/-- The doubles with a smaller exponent end half a unit before the power of two that begins a
greater one. -/
theorem size_le_of_exponent_lt (hf : f.IsCanonical) (hlt : f.exponent < g.exponent) :
    f.size ≤ (2 ^ 54 - 2 : ℕ) * 2 ^ (g.exponent - 2) := by
  have hmantissa : f.mantissa ≤ 2 ^ 53 - 1 := by
    have := hf.mantissa_lt
    omega
  have hunits := Neighbourhood.two_zpow_mul_two_le hlt
  rw [← Neighbourhood.four_mul_two_zpow g.exponent] at hunits
  calc f.size
    _ ≤ (2 ^ 53 - 1 : ℕ) * 2 ^ f.exponent := by
      unfold size
      gcongr
    _ ≤ (2 ^ 53 - 1 : ℕ) * (2 * 2 ^ (g.exponent - 2)) := by
      gcongr
      linarith
    _ = (2 ^ 54 - 2 : ℕ) * 2 ^ (g.exponent - 2) := by push_cast; ring

/-- The next greater double is one unit away at least. -/
theorem size_add_unit_le (hf : f.IsCanonical) (hg : g.IsCanonical) (hlt : f.size < g.size) :
    f.size + 2 ^ f.exponent ≤ g.size := by
  have hunit : (0 : ℚ) < 2 ^ f.exponent := by positivity
  obtain hle | hgt := le_or_gt f.exponent g.exponent
  · obtain ⟨k, hk⟩ := Int.le.dest hle
    have hunits : g.size = (g.mantissa * 2 ^ k : ℕ) * 2 ^ f.exponent := by
      rw [size, ← hk, zpow_add₀ two_ne_zero, zpow_natCast]
      push_cast
      ring
    rw [hunits, size, mul_lt_mul_iff_left₀ hunit, Nat.cast_lt] at hlt
    rw [hunits, size, ← add_one_mul, mul_le_mul_iff_left₀ hunit]
    exact_mod_cast hlt
  · -- A greater exponent makes a double greater.
    have hmantissa := hf.le_mantissa (by have := hg.least_le; omega)
    refine absurd hlt (not_lt.mpr ((size_le_of_exponent_lt hg hgt).trans ?_))
    rw [size_eq_quarters]
    gcongr
    exact_mod_cast show 2 ^ 54 - 2 ≤ 4 * f.mantissa by omega

/-- The lower end of a neighbourhood is not below the middle between the double and a smaller
one. -/
theorem size_add_size_le_low (hf : f.IsCanonical) (hg : g.IsCanonical) (hlt : g.size < f.size) :
    g.size + f.size ≤ 2 * (of f).units (of f).low := by
  rw [Neighbourhood.units_of]
  obtain hle | hgt := le_or_gt f.exponent g.exponent
  · have hgap := size_add_unit_le hg hf hlt
    have hunits : (2 : ℚ) ^ f.exponent ≤ 2 ^ g.exponent := zpow_le_zpow_right₀ (by norm_num) hle
    have hlow : (4 * f.mantissa : ℚ) ≤ (of f).low + 2 := by
      have : 4 * f.mantissa ≤ (of f).low + 2 := by
        obtain ⟨-, h⟩ | ⟨-, h⟩ := Neighbourhood.low_of f <;> omega
      exact_mod_cast this
    have hquarter : (0 : ℚ) < 2 ^ (f.exponent - 2) := by positivity
    rw [← Neighbourhood.four_mul_two_zpow f.exponent] at hunits
    rw [size_eq_quarters f] at hgap ⊢
    nlinarith
  · -- The doubles with the next smaller exponent are twice as dense.
    have hleast := hg.least_le
    have hmantissa := hf.le_mantissa (by omega)
    have hg_le := size_le_of_exponent_lt hg hgt
    have hlow : (2 ^ 54 - 2 : ℕ) + 4 * f.mantissa ≤ 2 * (of f).low := by
      obtain ⟨hpower, h⟩ | ⟨hpower, h⟩ := Neighbourhood.low_of f <;> omega
    calc g.size + f.size
      _ ≤ (2 ^ 54 - 2 : ℕ) * 2 ^ (f.exponent - 2) + 4 * f.mantissa * 2 ^ (f.exponent - 2) := by
        rw [size_eq_quarters f]
        gcongr
      _ = ((2 ^ 54 - 2 : ℕ) + 4 * f.mantissa : ℕ) * 2 ^ (f.exponent - 2) := by push_cast; ring
      _ ≤ (2 * (of f).low : ℕ) * 2 ^ (f.exponent - 2) := by gcongr
      _ = 2 * ((of f).low * 2 ^ (f.exponent - 2)) := by push_cast; ring

/-- The upper end of a neighbourhood is not above the middle between the double and a greater
one. -/
theorem high_le_size_add_size (hf : f.IsCanonical) (hg : g.IsCanonical) (hlt : f.size < g.size) :
    2 * (of f).units (of f).high ≤ f.size + g.size := by
  have hgap := size_add_unit_le hf hg hlt
  have hhigh : ((of f).high : ℚ) = 4 * f.mantissa + 2 := by
    simp [of]
  rw [← Neighbourhood.four_mul_two_zpow] at hgap
  rw [Neighbourhood.units_of, hhigh]
  rw [size_eq_quarters f] at hgap ⊢
  linarith

/-- A double lies in its own neighbourhood. -/
theorem covers_size (h : 0 < f.mantissa) : (of f).Covers f.size := by
  have hvalue : (of f).units (of f).value = f.size := by
    rw [Neighbourhood.units_of, size_eq_quarters]
    simp [of]
  rw [← hvalue]
  exact Neighbourhood.covers_value h

/-- Two doubles with the same size have the same parts. -/
theorem eq_of_size_eq (hf : f.IsCanonical) (hg : g.IsCanonical) (h : f.size = g.size) :
    f.mantissa = g.mantissa ∧ f.exponent = g.exponent := by
  have hpos (f : BinaryFraction) : 0 < f.size ↔ 0 < f.mantissa := by
    unfold size
    rw [mul_pos_iff_of_pos_right (by positivity), Nat.cast_pos]
  by_cases hf0 : 0 < f.mantissa
  · have hg0 : 0 < g.mantissa := (hpos g).mp (h ▸ (hpos f).mpr hf0)
    exact Neighbourhood.eq_of_covers hf hg (covers_size hf0) (h ▸ covers_size hg0)
  · have hg0 : ¬0 < g.mantissa := fun hg0 => hf0 ((hpos f).mp (h ▸ (hpos g).mpr hg0))
    have hf1 := hf.least_le
    have hf2 := hf.le_mantissa
    have hg1 := hg.least_le
    have hg2 := hg.le_mantissa
    omega

/-! ### Distances -/

theorem abs_sub_le_iff_of_lt {a b : ℚ} (hlt : a < b) : |v - b| ≤ |v - a| ↔ a + b ≤ 2 * v := by
  rw [← sq_le_sq]
  constructor <;> intro h <;> nlinarith

theorem abs_sub_le_iff_of_gt {a b : ℚ} (hlt : a < b) : |v - a| ≤ |v - b| ↔ 2 * v ≤ a + b := by
  rw [← sq_le_sq]
  constructor <;> intro h <;> nlinarith

/-- No double of another size is nearer than the one in whose neighbourhood a number lies, and if
one is equally near the mantissa is even. -/
theorem dist_size_le (hf : f.IsCanonical) (hg : g.IsCanonical) (h : (of f).Covers v) :
    |v - f.size| ≤ |v - g.size| ∧
      (|v - g.size| ≤ |v - f.size| → g.size = f.size ∨ f.mantissa % 2 = 0) := by
  obtain hlt | heq | hgt := lt_trichotomy g.size f.size
  · have hmiddle := size_add_size_le_low hf hg hlt
    have hlow := h.low_le
    rw [abs_sub_le_iff_of_lt hlt, abs_sub_le_iff_of_gt hlt]
    refine ⟨by linarith, fun htie => .inr (h.even_of_eq_low ?_)⟩
    linarith
  · exact ⟨by rw [heq], fun _ => .inl heq⟩
  · have hmiddle := high_le_size_add_size hf hg hgt
    have hhigh := h.le_high
    rw [abs_sub_le_iff_of_lt hgt, abs_sub_le_iff_of_gt hgt]
    refine ⟨by linarith, fun htie => .inr (h.even_of_eq_high ?_)⟩
    linarith

/-! ### Every fraction is one of a double -/

theorem unpacked_inj (hf : f.IsCanonical) (hg : g.IsCanonical) (h : f.unpacked = g.unpacked) :
    f = g := by
  have hsign : f.sign = g.sign → f.negative = g.negative := by
    unfold sign
    cases f.negative <;> cases g.negative <;> simp
  obtain ⟨negative, m, e⟩ := f
  obtain ⟨negative', m', e'⟩ := g
  unfold unpacked at h
  split at h
  · rename_i hzero
    split at h
    · rename_i hzero'
      have hleast := hf.least_le
      have hleast' := hg.least_le
      have hnormal := hf.le_mantissa
      have hnormal' := hg.le_mantissa
      dsimp only at *
      obtain rfl := hsign (UnpackedFloat.zero.inj h)
      congr 1 <;> omega
    · cases h
  · split at h
    · cases h
    · obtain ⟨hs, hm, he⟩ := UnpackedFloat.finite.inj h
      obtain rfl := hsign hs
      dsimp only at *
      rw [hm, he]

/-- Unpacking undoes packing of a fraction in range. -/
theorem unpack_pack_unpacked (hf : f.IsCanonical) (he : f.exponent ≤ 971) :
    (Float.Model.pack f.unpacked).unpack = f.unpacked := by
  unfold unpacked
  split
  · cases f.sign <;> rfl
  · rename_i hpos
    by_cases hnormal : 2 ^ 52 ≤ f.mantissa
    · exact unpack_pack_normal _ hnormal hf.mantissa_lt hf.least_le he _
    · have hleast : f.exponent = -1074 := by
        have := hf.least_le
        have := hf.le_mantissa
        omega
      simp only [hleast]
      exact unpack_pack_subnormal _ (by omega) _

theorem ofFloat?_of_toModel {x : Float} (hf : f.IsCanonical) (he : f.exponent ≤ 971)
    (hx : x.toModel = Float.Model.pack f.unpacked) : ofFloat? x = some f := by
  have hunpack : x.toModel.unpack = f.unpacked := by
    rw [hx, unpack_pack_unpacked hf he]
  cases hg : ofFloat? x with
  | none =>
    have hfinite : x.toModel.unpack.isFinite = false := isFinite_of_ofFloat?_eq_none hg
    rw [hunpack, unpacked] at hfinite
    split at hfinite <;> cases hfinite
  | some g =>
    rw [unpack_of_ofFloat? hg] at hunpack
    rw [unpacked_inj (isCanonical_of_ofFloat? hg) hf hunpack]

/-- Every canonical fraction in range is one of a double. -/
theorem exists_ofFloat?_eq (hf : f.IsCanonical) (he : f.exponent ≤ 971) :
    ∃ x, ofFloat? x = some f :=
  ⟨.ofModel (Float.Model.pack f.unpacked), ofFloat?_of_toModel hf he rfl⟩

end BinaryFraction

namespace Number

open BinaryFraction

variable {v : ℚ} {x y : Float} {f : BinaryFraction}

/-- A double is the nearest one to a number that is not below zero: no double is nearer, and if
another is equally near the mantissa is even. From the middle between the greatest double and the
next power of two on the nearest double is infinite. -/
inductive IsNearest (v : ℚ) : Float → Prop
  | finite {x : Float} {f : BinaryFraction} (hx : ofFloat? x = some f) (hsign : f.negative = false)
      (hlt : v < 2 ^ 1024 - 2 ^ 970)
      (hnear : ∀ y g, ofFloat? y = some g → |v - f.value| ≤ |v - g.value|)
      (htie : ∀ y g, ofFloat? y = some g → |v - g.value| = |v - f.value| →
        g.value = f.value ∨ f.mantissa % 2 = 0) : IsNearest v x
  | infinite (hle : 2 ^ 1024 - 2 ^ 970 ≤ v) : IsNearest v (1 / 0)

theorem limit_eq : (2 ^ 1024 - 2 ^ 970 : ℚ) = (2 ^ 54 - 1 : ℕ) * 2 ^ (970 : Int) := by
  have hsplit : (2 ^ 1024 : ℚ) = 2 ^ 54 * 2 ^ 970 := by rw [← pow_add]
  have hunit : (2 : ℚ) ^ (970 : Int) = 2 ^ 970 := zpow_natCast 2 970
  rw [hsplit, hunit]
  generalize (2 : ℚ) ^ 970 = unit
  push_cast
  ring

theorem lt_limit_of_covers (hf : f.IsCanonical) (he : f.exponent ≤ 971) (h : (of f).Covers v) :
    v < 2 ^ 1024 - 2 ^ 970 := by
  have hunits := Neighbourhood.two_zpow_mul_two_le (show f.exponent - 2 < 970 by omega)
  rw [limit_eq]
  calc v
    _ < (2 ^ 55 - 2 : ℕ) * 2 ^ (f.exponent - 2) := h.lt_of_isCanonical hf
    _ = (2 ^ 54 - 1 : ℕ) * (2 ^ (f.exponent - 2) * 2) := by push_cast; ring
    _ ≤ (2 ^ 54 - 1 : ℕ) * 2 ^ (970 : Int) := by gcongr

theorem limit_le_of_covers (hf : f.IsCanonical) (he : 971 < f.exponent) (h : (of f).Covers v) :
    2 ^ 1024 - 2 ^ 970 ≤ v := by
  have hunits : (2 : ℚ) ^ (970 : Int) ≤ 2 ^ (f.exponent - 2) :=
    zpow_le_zpow_right₀ (by norm_num) (by omega)
  rw [limit_eq]
  calc ((2 ^ 54 - 1 : ℕ) * 2 ^ (970 : Int) : ℚ)
    _ ≤ (2 ^ 54 - 1 : ℕ) * 2 ^ (f.exponent - 2) := by gcongr
    _ ≤ v := h.le_of_isCanonical hf (by omega)

/-- A fraction that is out of range is packed as an infinity. -/
theorem eq_infinite_of_toModel (hf : f.IsCanonical) (hsign : f.negative = false)
    (he : 971 < f.exponent) (hx : x.toModel = Float.Model.pack f.unpacked) : x = 1 / 0 := by
  have hnormal := hf.le_mantissa (by omega)
  have hpack : Float.Model.pack f.unpacked = Float.Model.pack (.infinity .positive) := by
    have hexponent :
        2 ^ 11 ≤ (f.exponent + Format.binary64.exponentBias + (52 : ℕ)).toNat + 1 := by
      simp only [Format.exponentBias]
      omega
    rw [unpacked, dif_neg (by omega), sign, if_neg (by simp [hsign])]
    rw [Float.Model.pack, Float.Model.pack]
    congr 1
    simp only [UnpackedFloat.pack]
    rw [if_pos hexponent]
  have hinfinite : (1 / 0 : Float).toModel = Float.Model.pack (.infinity .positive) := by
    rfl
  rw [hpack, ← hinfinite] at hx
  cases x
  exact congrArg Float.ofModel hx

/-- The double of a neighbourhood is the nearest one to what lies in it. -/
theorem isNearest_of_covers (hf : f.IsCanonical) (hsign : f.negative = false)
    (h : (of f).Covers v) (hx : x.toModel = Float.Model.pack f.unpacked) : IsNearest v x := by
  obtain he | he := le_or_gt f.exponent 971
  · have hnonneg : 0 ≤ v := by
      refine le_trans ?_ h.low_le
      rw [Neighbourhood.units_of]
      positivity
    -- A double below zero is not nearer than the double without the sign.
    have hsize (g : BinaryFraction) : |v - g.size| ≤ |v - g.value| := by
      have habs := abs_abs_sub_abs_le_abs_sub v g.value
      rwa [abs_of_nonneg hnonneg, abs_value] at habs
    refine .finite (ofFloat?_of_toModel hf he hx) hsign (lt_limit_of_covers hf he h) ?_ ?_
    · intro y g hg
      rw [value_of_positive hsign]
      exact (dist_size_le hf (isCanonical_of_ofFloat? hg) h).1.trans (hsize g)
    · intro y g hg htie
      rw [value_of_positive hsign] at htie ⊢
      obtain heq | heven :=
        (dist_size_le hf (isCanonical_of_ofFloat? hg) h).2 ((hsize g).trans htie.le)
      · rw [value_eq, heq] at htie ⊢
        split at htie
        · rename_i hnegative
          by_cases hpos : 0 < f.mantissa
          · -- The double with the other sign is further away.
            have hv := Neighbourhood.Covers.pos hpos h
            have hsize_pos : 0 < f.size := by
              unfold size
              positivity
            rw [sub_neg_eq_add, abs_of_pos (by linarith)] at htie
            exact absurd htie.symm (abs_lt.mpr ⟨by linarith, by linarith⟩).ne
          · exact .inr (by omega)
        · rename_i hpositive
          exact .inl (if_neg hpositive)
      · exact .inr heven
  · obtain rfl := eq_infinite_of_toModel hf hsign he hx
    exact .infinite (limit_le_of_covers hf he h)

/-- A double is the nearest one to the number that it stands for. -/
theorem isNearest_size (hx : ofFloat? x = some f) (hsign : f.negative = false) :
    IsNearest f.size x := by
  have hvalue := value_of_positive hsign
  have hcanonical := isCanonical_of_ofFloat? hx
  refine .finite hx hsign ?_ ?_ ?_
  · by_cases hpos : 0 < f.mantissa
    · exact lt_limit_of_covers hcanonical (bounds_of_ofFloat? hx).2.1 (covers_size hpos)
    · have hzero : f.size = 0 := by
        simp [size, Nat.eq_zero_of_not_pos hpos]
      rw [hzero, limit_eq]
      positivity
  · intro y g _
    rw [hvalue, sub_self, abs_zero]
    exact abs_nonneg _
  · intro y g _ htie
    rw [hvalue, sub_self, abs_zero, abs_eq_zero, sub_eq_zero] at htie
    exact .inl (hvalue ▸ htie.symm)

/-- Between two even mantissas lies a double that is nearer to the middle. -/
theorem exists_nearer {g : BinaryFraction} (hf : f.IsCanonical) (hg : g.IsCanonical)
    (he : f.exponent ≤ 971) (hlt : f.size < g.size) (heven : f.mantissa % 2 = 0)
    (heven' : g.mantissa % 2 = 0) (hmiddle : f.size + g.size = 2 * v) :
    ∃ y h, ofFloat? y = some h ∧ |v - h.value| < |v - f.size| := by
  have hmantissa := hf.mantissa_lt
  have hcanonical : (⟨false, f.mantissa + 1, f.exponent⟩ : BinaryFraction).IsCanonical := by
    refine ⟨?_, hf.least_le, fun hnormal => ?_⟩
    · show f.mantissa + 1 < 2 ^ 53
      omega
    · exact Nat.le_succ_of_le (hf.le_mantissa hnormal)
  obtain ⟨y, hy⟩ := exists_ofFloat?_eq hcanonical he
  refine ⟨y, _, hy, ?_⟩
  rw [value_of_positive rfl]
  have hnext : (⟨false, f.mantissa + 1, f.exponent⟩ : BinaryFraction).size =
      f.size + 2 ^ f.exponent := by
    simp only [size]
    push_cast
    ring
  have hunit : (0 : ℚ) < 2 ^ f.exponent := by positivity
  have hbefore : f.size + 2 ^ f.exponent < g.size := by
    refine lt_of_le_of_ne (size_add_unit_le hf hg hlt) fun heq => ?_
    have hodd := (eq_of_size_eq hcanonical hg (hnext.trans heq)).1
    dsimp only at hodd
    omega
  rw [hnext, abs_of_pos (by linarith : 0 < v - f.size)]
  exact abs_lt.mpr ⟨by linarith, by linarith⟩

/-- Of two doubles that are equally near to a number and go first in a tie, none is smaller. -/
theorem not_size_lt {g : BinaryFraction} (hf : ofFloat? x = some f) (hg : g.IsCanonical)
    (hsign : f.negative = false)
    (hnear : ∀ y g, ofFloat? y = some g → |v - f.value| ≤ |v - g.value|)
    (heq : |v - f.size| = |v - g.size|) (htie : g.size = f.size ∨ f.mantissa % 2 = 0)
    (htie' : f.size = g.size ∨ g.mantissa % 2 = 0) : ¬f.size < g.size := by
  intro hlt
  have hmiddle := le_antisymm ((abs_sub_le_iff_of_lt hlt).mp heq.ge)
    ((abs_sub_le_iff_of_gt hlt).mp heq.le)
  obtain ⟨y, h, hy, hnearer⟩ := exists_nearer (isCanonical_of_ofFloat? hf) hg
    (bounds_of_ofFloat? hf).2.1 hlt (htie.resolve_left hlt.ne') (htie'.resolve_left hlt.ne) hmiddle
  rw [← value_of_positive hsign] at hnearer
  exact absurd (hnear y h hy) hnearer.not_ge

/-- A number has one nearest double only. -/
theorem IsNearest.unique (hx : IsNearest v x) (hy : IsNearest v y) : x = y := by
  cases hx with
  | infinite hle =>
    cases hy with
    | infinite => rfl
    | finite _ _ hlt => exact absurd hlt hle.not_gt
  | @finite _ f hf hsign hlt hnear htie =>
    cases hy with
    | infinite hle => exact absurd hlt hle.not_gt
    | @finite _ g hg hsign' _ hnear' htie' =>
      have hcf := isCanonical_of_ofFloat? hf
      have hcg := isCanonical_of_ofFloat? hg
      have heq : |v - f.value| = |v - g.value| := le_antisymm (hnear y g hg) (hnear' x f hf)
      have hties := htie y g hg heq.symm
      have hties' := htie' x f hf heq
      rw [value_of_positive hsign, value_of_positive hsign'] at heq hties hties'
      have hsize : f.size = g.size := le_antisymm
        (not_lt.mp (not_size_lt hg hcf hsign' hnear' heq.symm hties' hties))
        (not_lt.mp (not_size_lt hf hcg hsign hnear heq hties hties'))
      obtain ⟨hmantissa, hexponent⟩ := eq_of_size_eq hcf hcg hsize
      have hparts : f = g := by
        cases f
        cases g
        simp_all
      subst hparts
      exact eq_of_unpack_eq ((unpack_of_ofFloat? hf).trans (unpack_of_ofFloat? hg).symm)

end Number

/-- A number is rounded to the double nearest to it. -/
theorem Rounding.RoundsTo.isNearest {v : ℚ} {x : Float} {result : UnpackedFloat}
    (h : RoundsTo v result) (hx : x.toModel = Float.Model.pack result) :
    Number.IsNearest v x := by
  obtain ⟨f, hf, hsign, hcovers, rfl⟩ := h
  exact Number.isNearest_of_covers hf hsign hcovers hx

end DocTemplate

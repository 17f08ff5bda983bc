import DocTemplate.Proofs.Number.Doubles
import DocTemplate.Proofs.Number.Integers

/-!
# The total order of doubles

The bits of a double, taken as an integer that falls below zero with the sign, rise with the number.
So the total order is the numeric order of the numbers, with -0 in front of 0. NaN stands in front
of all numbers if its sign is set, and behind them if it is not.

## Main definitions

* `Number.NotBehind` — the total order in terms of the comparisons of doubles and of NaN.
* `BinaryFraction.rank` — the bits of a finite double without its sign.

## Main statements

* `Number.lt_iff_orderKey_lt` — a number is smaller exactly if it comes first, the zeros apart.
* `Number.totalLe_iff` — the order by bits is the total order.
-/

namespace DocTemplate

open Float.Model Float.Model.UnpackedFloat

namespace BinaryFraction

variable {x y : Float} {f g : BinaryFraction}

theorem isNaN_of_ofFloat? (h : ofFloat? x = some f) : x.isNaN = false := by
  rw [Bool.eq_false_iff, Ne, Number.isNaN_iff, unpack_of_ofFloat? h, unpacked]
  split <;> simp

/-- The bits of a finite double without its sign. -/
def rank (f : BinaryFraction) : Int :=
  (f.exponent + 1074) * 2 ^ 52 + f.mantissa

theorem orderKey_of_ofFloat? (h : ofFloat? x = some f) :
    Number.orderKey x = if f.negative then -1 - f.rank else f.rank := by
  have hlt := x.toBits.toNat_lt
  rw [Number.orderKey, Double.ofFloat_of_number (isNaN_of_ofFloat? h)]
  unfold ofFloat? at h
  simp only [Nat.pow_eq] at h
  split_ifs at h with hinfinite hzero <;> obtain rfl := Option.some.inj h <;>
    simp only [rank, decide_eq_true_eq, Int.ofNat_eq_natCast] <;>
    split_ifs <;> omega

/-- A greater exponent outweighs the mantissa. -/
theorem rank_lt_iff (hf : ofFloat? x = some f) (hg : ofFloat? y = some g) :
    f.rank < g.rank ↔
      f.exponent < g.exponent ∨ f.exponent = g.exponent ∧ f.mantissa < g.mantissa := by
  obtain ⟨hmantissa, -, hleast⟩ := bounds_of_ofFloat? hf
  obtain ⟨hmantissa', -, hleast'⟩ := bounds_of_ofFloat? hg
  simp only [rank]
  omega

theorem rank_bounds (h : ofFloat? x = some f) :
    0 ≤ f.rank ∧ f.rank < 0x7FF0000000000000 ∧ (f.rank = 0 ↔ f.mantissa = 0) := by
  have hbounds := bounds_of_ofFloat? h
  simp only [rank]
  omega

end BinaryFraction

namespace Number

open BinaryFraction (ofFloat?)

variable {x y : Float} {f g : BinaryFraction}

theorem lt_iff_unpack : x < y ↔ x.toModel.unpack.lt y.toModel.unpack = true := by
  show decide (x.toModel < y.toModel) = true ↔ _
  rw [decide_eq_true_iff]
  rfl

/-- A finite double is smaller than another one exactly if it comes first, the zeros apart. -/
theorem lt_iff_of_ofFloat? (hf : ofFloat? x = some f) (hg : ofFloat? y = some g) :
    x < y ↔ orderKey x < orderKey y ∧ ¬(f.mantissa = 0 ∧ g.mantissa = 0) := by
  have hrank := BinaryFraction.rank_lt_iff hf hg
  have hrank' := BinaryFraction.rank_lt_iff hg hf
  obtain ⟨hnonneg, -, hzero⟩ := BinaryFraction.rank_bounds hf
  obtain ⟨hnonneg', -, hzero'⟩ := BinaryFraction.rank_bounds hg
  rw [lt_iff_unpack, BinaryFraction.unpack_of_ofFloat? hf, BinaryFraction.unpack_of_ofFloat? hg,
    BinaryFraction.orderKey_of_ofFloat? hf, BinaryFraction.orderKey_of_ofFloat? hg,
    BinaryFraction.unpacked, BinaryFraction.unpacked, BinaryFraction.sign, BinaryFraction.sign]
  -- Signs and zeros are told apart; within a sign ranks compare like exponent and mantissa.
  cases f.negative <;> cases g.negative <;> simp only [if_true, if_false, Bool.false_eq_true] <;>
    split <;> split <;>
    simp [UnpackedFloat.lt, UnpackedFloat.compare, Ordering.then_eq_lt, Ordering.then_eq_gt,
      compare_lt_iff_lt, compare_gt_iff_gt] <;>
    omega

/-! ### Infinities -/

theorem orderKey_of_infinity (h : x.toModel.unpack = .infinity .positive) :
    orderKey x = 0x7FF0000000000000 := by
  have hinfinity : (Float.ofBits 0x7FF0000000000000).toModel.unpack = .infinity .positive := by rfl
  obtain rfl := BinaryFraction.eq_of_unpack_eq (h.trans hinfinity.symm)
  decide +kernel

theorem orderKey_of_neg_infinity (h : x.toModel.unpack = .infinity .negative) :
    orderKey x = -0x7FF0000000000001 := by
  have hinfinity : (Float.ofBits 0xFFF0000000000000).toModel.unpack = .infinity .negative := by rfl
  obtain rfl := BinaryFraction.eq_of_unpack_eq (h.trans hinfinity.symm)
  decide +kernel

theorem orderKey_finite_bounds (h : ofFloat? x = some f) :
    -0x7FF0000000000001 < orderKey x ∧ orderKey x < 0x7FF0000000000000 := by
  have hrank := BinaryFraction.rank_bounds h
  rw [BinaryFraction.orderKey_of_ofFloat? h]
  split_ifs <;> omega

/-- A number is finite or one of the infinities. -/
theorem finite_or_infinity (h : x.isNaN = false) :
    (∃ f, ofFloat? x = some f) ∨ x.toModel.unpack = .infinity .positive ∨
      x.toModel.unpack = .infinity .negative := by
  cases hf : ofFloat? x with
  | some f => exact .inl ⟨f, rfl⟩
  | none =>
    obtain ⟨s, hs⟩ := unpack_infinity hf h
    cases s with
    | positive => exact .inr (.inl hs)
    | negative => exact .inr (.inr hs)

theorem ne_zero_of_infinity {s : Sign} (h : x.toModel.unpack = .infinity s) : ¬x == 0 := by
  rw [beq_zero_iff, h]
  nofun

/-- A finite double stands between the infinities. -/
theorem finite_between (h : ofFloat? x = some f) :
    (∀ y : Float, y.toModel.unpack = .infinity .positive → x < y ∧ ¬y < x) ∧
      ∀ y : Float, y.toModel.unpack = .infinity .negative → y < x ∧ ¬x < y := by
  simp only [lt_iff_unpack, BinaryFraction.unpack_of_ofFloat? h, BinaryFraction.unpacked]
  constructor <;> intro y hy <;> rw [hy] <;> split <;>
    simp [UnpackedFloat.lt, UnpackedFloat.compare]

/-- The infinities compare by their signs. -/
theorem lt_iff_of_infinities {s t : Sign} (hs : x.toModel.unpack = .infinity s)
    (ht : y.toModel.unpack = .infinity t) : x < y ↔ s = .negative ∧ t = .positive := by
  rw [lt_iff_unpack, hs, ht]
  cases s <;> cases t <;> simp [UnpackedFloat.lt, UnpackedFloat.compare]
  decide

/-- A number is smaller exactly if it comes first, the zeros apart. -/
theorem lt_iff_orderKey_lt (hx : x.isNaN = false) (hy : y.isNaN = false) :
    x < y ↔ orderKey x < orderKey y ∧ ¬(x == 0 ∧ y == 0) := by
  rcases finite_or_infinity hx with ⟨f, hf⟩ | hinf | hinf
  · have hbounds := orderKey_finite_bounds hf
    rcases finite_or_infinity hy with ⟨g, hg⟩ | hinf' | hinf'
    · rw [lt_iff_of_ofFloat? hf hg, BinaryFraction.beq_zero_iff hf, BinaryFraction.beq_zero_iff hg]
    · have hlt := (finite_between hf).1 y hinf'
      grind [ne_zero_of_infinity, orderKey_of_infinity]
    · have hlt := (finite_between hf).2 y hinf'
      grind [ne_zero_of_infinity, orderKey_of_neg_infinity]
  · rcases finite_or_infinity hy with ⟨g, hg⟩ | hinf' | hinf'
    · have hbounds := orderKey_finite_bounds hg
      have hlt := (finite_between hg).1 x hinf
      grind [ne_zero_of_infinity, orderKey_of_infinity]
    · grind [lt_iff_of_infinities, orderKey_of_infinity]
    · grind [lt_iff_of_infinities, orderKey_of_infinity, orderKey_of_neg_infinity]
  · rcases finite_or_infinity hy with ⟨g, hg⟩ | hinf' | hinf'
    · have hbounds := orderKey_finite_bounds hg
      have hlt := (finite_between hg).2 x hinf
      grind [ne_zero_of_infinity, orderKey_of_neg_infinity]
    · grind [ne_zero_of_infinity, lt_iff_of_infinities, orderKey_of_infinity,
        orderKey_of_neg_infinity]
    · grind [lt_iff_of_infinities, orderKey_of_neg_infinity]

/-- A number is known by its place. -/
theorem eq_of_orderKey_eq {x y : Double} (h : orderKey x = orderKey y) : x = y := by
  have hlt := x.bits.toNat_lt
  have hlt' := y.bits.toNat_lt
  have hbits : x.bits.toNat = y.bits.toNat := by
    simp only [orderKey] at h
    split_ifs at h <;> omega
  cases x
  cases y
  exact congrArg Double.mk (UInt64.toNat_inj.mp hbits)

theorem eq_zero_or_neg_zero (h : x == 0) : x = 0 ∨ x = -0 := by
  obtain ⟨s, hs⟩ := beq_zero_iff.mp h
  cases s with
  | positive => exact .inl (BinaryFraction.eq_of_unpack_eq hs)
  | negative => exact .inr (BinaryFraction.eq_of_unpack_eq hs)

theorem orderKey_zero : orderKey (Double.ofFloat 0) = 0 := by
  decide +kernel

theorem orderKey_neg_zero : orderKey (Double.ofFloat (-0)) = -1 := by
  decide +kernel

theorem orderKey_le_iff (hx : x.isNaN = false) (hy : y.isNaN = false) :
    orderKey x ≤ orderKey y ↔ x < y ∨ x == y ∧ (x = 0 → y = 0) := by
  have heq : x == y ↔ x = y ∨ x == 0 ∧ y == 0 := beq_iff hx
  rw [lt_iff_orderKey_lt hx hy, heq]
  constructor
  · intro h
    by_cases hzeros : x == 0 ∧ y == 0
    · refine .inr ⟨.inr hzeros, ?_⟩
      rintro rfl
      rcases eq_zero_or_neg_zero hzeros.2 with rfl | rfl
      · rfl
      · rw [orderKey_zero, orderKey_neg_zero] at h
        omega
    · rcases h.lt_or_eq with hlt | hkeys
      · exact .inl ⟨hlt, hzeros⟩
      · have hsame : x = y := by simpa using congrArg Double.toFloat (eq_of_orderKey_eq hkeys)
        exact .inr ⟨.inl hsame, fun hzero => hsame ▸ hzero⟩
  · rintro (⟨hlt, -⟩ | ⟨rfl | ⟨hx, hy⟩, hzero⟩)
    · exact hlt.le
    · exact le_rfl
    · rcases eq_zero_or_neg_zero hx with rfl | rfl
      · rw [hzero rfl]
      · rcases eq_zero_or_neg_zero hy with rfl | rfl <;>
          simp only [orderKey_zero, orderKey_neg_zero] <;> omega

/-! ### The total order -/

section Total

variable {x y : Double}

/-- NaN stands outside the infinities, and the farther the more it carries. -/
theorem orderKey_of_isNaN (h : x.isNaN) :
    0 < x.payload ∧ orderKey x =
      if x.negative then -0x7FF0000000000001 - (x.payload : Int)
      else 0x7FF0000000000000 + (x.payload : Int) := by
  obtain ⟨hexponent, hpayload⟩ := Double.isNaN_iff.mp h
  have hlt := x.bits.toNat_lt
  simp only [orderKey, Double.negative, Double.payload, decide_eq_true_eq] at *
  split_ifs <;> omega

/-- A number does not stand outside the infinities. -/
theorem orderKey_bounds (h : x.isNaN = false) :
    -0x7FF0000000000001 ≤ orderKey x ∧ orderKey x ≤ 0x7FF0000000000000 := by
  have hnot : ¬x.HasNaNBits := mt Double.isNaN_iff.mpr (Bool.eq_false_iff.mp h)
  have hlt := x.bits.toNat_lt
  simp only [orderKey, Double.HasNaNBits, Double.payload] at *
  split_ifs <;> omega

/-- The numbers go by size, and -0 stands in front of 0. -/
theorem orderKey_le_iff_of_numbers (hx : x.isNaN = false) (hy : y.isNaN = false) :
    orderKey x ≤ orderKey y ↔ x < y ∨ x == y ∧ (x = 0 → y = 0) := by
  have hzero {z : Double} (hz : z.isNaN = false) : z.toFloat = 0 ↔ z = 0 := by
    constructor
    · intro h
      rw [← Double.ofFloat_toFloat hz, h]
      rfl
    · rintro rfl
      exact Double.toFloat_ofFloat 0
  have hplaces := orderKey_le_iff (x := x.toFloat) (y := y.toFloat) hx hy
  rwa [Double.ofFloat_toFloat hx, Double.ofFloat_toFloat hy, hzero hx, hzero hy] at hplaces

/-- The total order: NaN with its sign set, and the more it carries the farther in front, then the
numbers by size with -0 in front of 0, then NaN with its sign not set, and the more it carries the
farther behind. -/
inductive NotBehind (x y : Double) : Prop
  | first (hx : x.isNaN) (hsign : x.negative)
      (h : y.isNaN → y.negative → y.payload ≤ x.payload) : NotBehind x y
  | last (hy : y.isNaN) (hsign : y.negative = false)
      (h : x.isNaN → x.negative = false → x.payload ≤ y.payload) : NotBehind x y
  | number (hx : x.isNaN = false) (hy : y.isNaN = false)
      (h : x < y ∨ x == y ∧ (x = 0 → y = 0)) : NotBehind x y

theorem orderKey_le_of_notBehind (h : NotBehind x y) : orderKey x ≤ orderKey y := by
  cases h with
  | first hx hsign h =>
    obtain ⟨-, hkey⟩ := orderKey_of_isNaN hx
    rw [hkey, if_pos hsign]
    cases hy : y.isNaN with
    | false =>
      have hbounds := orderKey_bounds hy
      omega
    | true =>
      rw [(orderKey_of_isNaN hy).2]
      split_ifs with hsign'
      · have hpayload := h hy hsign'
        omega
      · omega
  | last hy hsign h =>
    obtain ⟨-, hkey⟩ := orderKey_of_isNaN hy
    rw [hkey, if_neg (Bool.eq_false_iff.mp hsign)]
    cases hx : x.isNaN with
    | false =>
      have hbounds := orderKey_bounds hx
      omega
    | true =>
      rw [(orderKey_of_isNaN hx).2]
      split_ifs with hsign'
      · omega
      · have hpayload := h hx (Bool.eq_false_iff.mpr hsign')
        omega
  | number hx hy h => exact (orderKey_le_iff_of_numbers hx hy).mpr h

theorem notBehind_of_orderKey_le (h : orderKey x ≤ orderKey y) : NotBehind x y := by
  cases hx : x.isNaN with
  | false =>
    have hbounds := orderKey_bounds hx
    cases hy : y.isNaN with
    | false => exact .number hx hy ((orderKey_le_iff_of_numbers hx hy).mp h)
    | true =>
      obtain ⟨hpos, hkey⟩ := orderKey_of_isNaN hy
      cases hsign : y.negative with
      | false => exact .last hy hsign fun hnan => absurd hnan (Bool.eq_false_iff.mp hx)
      | true =>
        rw [hkey, if_pos hsign] at h
        omega
  | true =>
    obtain ⟨hpos, hkey⟩ := orderKey_of_isNaN hx
    cases hsign : x.negative with
    | true =>
      rw [hkey, if_pos hsign] at h
      refine .first hx hsign fun hy hsign' => ?_
      rw [(orderKey_of_isNaN hy).2, if_pos hsign'] at h
      omega
    | false =>
      rw [hkey, if_neg (Bool.eq_false_iff.mp hsign)] at h
      cases hy : y.isNaN with
      | false =>
        have hbounds := orderKey_bounds hy
        omega
      | true =>
        rw [(orderKey_of_isNaN hy).2] at h
        split_ifs at h with hsign'
        · omega
        · exact .last hy (Bool.eq_false_iff.mpr hsign') fun _ _ => by omega

/-- The order by bits is the total order. -/
theorem totalLe_iff : totalLe x y ↔ NotBehind x y := by
  rw [totalLe, decide_eq_true_iff]
  exact ⟨notBehind_of_orderKey_le, orderKey_le_of_notBehind⟩

end Total

end Number

end DocTemplate

import DocTemplate.Proofs.Decimal.Conversion
import DocTemplate.Proofs.Decimal.Numerals
import DocTemplate.Token.Lexing

/-!
# What digits stand for

Digits before a point count whole tens and ones, and digits behind it count tenths. A text of digits
with one point at most stands for a number in this way, and it denotes the double nearest to that
number. This is the number that the lexer reads.

## Main definitions

* `Token.wholeValue`, `Token.fractionValue` — the number of the digits on either side of a point.
* `Token.StandsFor` — digits, with a point or without, stand for a number.
* `Token.Denotes` — a text denotes a double.

## Main statements

* `Token.number?_eq_some_iff` — the number that is read from digits is the one that they denote.
-/

namespace DocTemplate.Token

variable {whole digits fraction run : List Char} {x : Float}

/-- The number of the digits before a point. Each is worth ten times as much as one behind it. -/
def wholeValue : List Char → ℚ
  | [] => 0
  | c :: rest => (c.toNat - '0'.toNat) * 10 ^ rest.length + wholeValue rest

/-- The number of the digits behind a point. Each is worth a tenth of one before it. -/
def fractionValue : List Char → ℚ
  | [] => 0
  | c :: rest => (c.toNat - '0'.toNat + fractionValue rest) / 10

/-- Digits stand for a number. They may have a point before them, among them or behind them. -/
inductive StandsFor : List Char → ℚ → Prop
  | whole {digits : List Char} (hdigits : ∀ c ∈ digits, c.isDigit) :
      StandsFor digits (wholeValue digits)
  | point {whole fraction : List Char} (hwhole : ∀ c ∈ whole, c.isDigit)
      (hfraction : ∀ c ∈ fraction, c.isDigit) :
      StandsFor (whole ++ '.' :: fraction) (wholeValue whole + fractionValue fraction)

/-- A text denotes the double nearest to the number that it stands for. -/
def Denotes (run : List Char) (x : Float) : Prop :=
  ∃ v, StandsFor run v ∧ Number.IsNearest v x

/-! ### The number of a list of digits -/

theorem digitValue_eq {c : Char} (h : c.isDigit) :
    (digitValue c : ℚ) = (c.toNat : ℚ) - ('0'.toNat : ℚ) := by
  have hbounds : 48 ≤ c.toNat ∧ c.toNat ≤ 57 := by
    simpa [Char.isDigit, UInt32.le_iff_toNat_le] using h
  rw [digitValue, Nat.cast_sub (show '0'.toNat ≤ c.toNat from hbounds.1)]

theorem ten_pow_mul_zpow_neg (n : Nat) : (10 : ℚ) ^ n * 10 ^ (-(n : Int)) = 1 := by
  rw [← zpow_natCast, ← zpow_add₀ (by norm_num), add_neg_cancel, zpow_zero]

theorem natOfDigits_eq (h : ∀ c ∈ digits, c.isDigit) :
    (natOfDigits digits : ℚ) = wholeValue digits := by
  induction digits with
  | nil => simp [natOfDigits, wholeValue]
  | cons c rest ih =>
    obtain ⟨hc, hrest⟩ := List.forall_mem_cons.mp h
    rw [natOfDigits_cons, wholeValue, ← ih hrest, ← digitValue_eq hc]
    push_cast
    ring

theorem natOfDigits_mul_eq (h : ∀ c ∈ digits, c.isDigit) :
    (natOfDigits digits * 10 ^ (-(digits.length : Int)) : ℚ) = fractionValue digits := by
  induction digits with
  | nil => simp [natOfDigits, fractionValue]
  | cons c rest ih =>
    obtain ⟨hc, hrest⟩ := List.forall_mem_cons.mp h
    have hpower : (10 : ℚ) ^ (-((c :: rest).length : Int)) = 10 ^ (-(rest.length : Int)) / 10 := by
      rw [List.length_cons, Nat.cast_succ, neg_add, zpow_add₀ (by norm_num), zpow_neg_one]
      rfl
    rw [natOfDigits_cons, fractionValue, ← ih hrest, ← digitValue_eq hc, hpower]
    push_cast
    linear_combination (digitValue c : ℚ) / 10 * ten_pow_mul_zpow_neg rest.length

/-- The digits on either side of a point spell one number, which is moved behind the point. -/
theorem natOfDigits_append_mul_eq (hwhole : ∀ c ∈ whole, c.isDigit)
    (hdigits : ∀ c ∈ digits, c.isDigit) :
    (natOfDigits (whole ++ digits) * 10 ^ (-(digits.length : Int)) : ℚ) =
      wholeValue whole + fractionValue digits := by
  rw [natOfDigits_append, ← natOfDigits_eq hwhole, ← natOfDigits_mul_eq hdigits]
  push_cast
  linear_combination (natOfDigits whole : ℚ) * ten_pow_mul_zpow_neg digits.length

/-! ### Reading digits -/

theorem isNumberPart_iff {c : Char} : isNumberPart c = true ↔ c.isDigit ∨ c = '.' := by
  simp [isNumberPart]

/-- Digits around a point are read as the double nearest to what they stand for. -/
theorem exists_number?_eq (hwhole : ∀ c ∈ whole, c.isDigit)
    (hfraction : Numeral.FractionSpelled digits fraction) (hne : whole ++ digits ≠ []) :
    ∃ x, number? (whole ++ fraction) = some x ∧
      Number.IsNearest (wholeValue whole + fractionValue digits) x := by
  have hspelled : (⟨false, whole, digits, 0⟩ : Numeral).Spelled (whole ++ fraction) :=
    .intro hwhole hfraction hne .none (by simpa using .none)
  have hnearest := Numeral.isNearest_nearestOf (natOfDigits (whole ++ digits))
    (0 - digits.length)
  rw [zero_sub, natOfDigits_append_mul_eq hwhole hfraction.forall_isDigit] at hnearest
  refine ⟨_, ?_, hnearest⟩
  simp only [number?, Numeral.read?_of_spelled hspelled, Option.map_some, Numeral.nearest,
    zero_sub, Bool.false_eq_true, if_false]

/-- A text of digits and points that is read as a number has neither a sign nor an exponent. -/
theorem exists_parts_of_number? (h : ∀ c ∈ run, isNumberPart c) (hx : number? run = some x) :
    ∃ whole digits fraction, run = whole ++ fraction ∧ (∀ c ∈ whole, c.isDigit) ∧
      Numeral.FractionSpelled digits fraction ∧ whole ++ digits ≠ [] := by
  obtain ⟨n, hn, -⟩ := Option.map_eq_some_iff.mp hx
  obtain @⟨fraction, exponent, _, hwhole, hfraction, hne, hexponent, hsign⟩ :=
    Numeral.read?_eq_some_iff.mp hn
  obtain ⟨negative, whole, digits, e⟩ := n
  dsimp only at *
  cases hsign with
  | plus => exact absurd (h '+' List.mem_cons_self) (by decide)
  | minus => exact absurd (h '-' List.mem_cons_self) (by decide)
  | none =>
    cases hexponent with
    | @some letter _ _ hletter _ =>
      have hpart : isNumberPart letter := h letter (by simp)
      obtain rfl | rfl := hletter <;> exact absurd hpart (by decide)
    | none => exact ⟨whole, digits, fraction, by simp, hwhole, hfraction, hne⟩

/-- The number that is read from digits is the one that they denote. -/
theorem number?_eq_some_iff (h : ∀ c ∈ run, isNumberPart c) (hdigit : ∃ c ∈ run, c.isDigit) :
    number? run = some x ↔ Denotes run x := by
  constructor
  · intro hx
    obtain ⟨whole, digits, fraction, rfl, hwhole, hfraction, hne⟩ := exists_parts_of_number? h hx
    obtain ⟨y, hy, hnearest⟩ := exists_number?_eq hwhole hfraction hne
    obtain rfl := Option.some.inj (hx.symm.trans hy)
    cases hfraction with
    | none =>
      rw [List.append_nil]
      exact ⟨_, .whole hwhole, by simpa [fractionValue] using hnearest⟩
    | point hdigits => exact ⟨_, .point hwhole hdigits, hnearest⟩
  · rintro ⟨v, hv, hx⟩
    obtain ⟨c, hc, hcdigit⟩ := hdigit
    cases hv with
    | whole hdigits =>
      obtain ⟨y, hy, hnearest⟩ :=
        exists_number?_eq hdigits .none (by simpa using List.ne_nil_of_mem hc)
      rw [List.append_nil] at hy
      rw [fractionValue, add_zero] at hnearest
      rw [hy, hnearest.unique hx]
    | @point whole fraction hwhole hfraction =>
      have hne : whole ++ fraction ≠ [] := by
        intro hnil
        obtain ⟨rfl, rfl⟩ := List.append_eq_nil_iff.mp hnil
        obtain rfl := List.mem_singleton.mp hc
        exact absurd hcdigit (by decide)
      obtain ⟨y, hy, hnearest⟩ := exists_number?_eq hwhole (.point hfraction) hne
      rw [hy, hnearest.unique hx]

end DocTemplate.Token

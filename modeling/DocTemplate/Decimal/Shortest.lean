import DocTemplate.Number.BinaryFraction

/-!
# The shortest decimal that reads back

A double is the nearest double to every real of an interval around it. Of the decimals in that
interval the ones with the fewest digits are taken, and of those the nearest to the double.

## Main definitions

* `Neighbourhood` — the interval of reals that read back as a double, in exact integers.
* `Decimal.shortest` — the chosen digits.
-/

namespace DocTemplate

/-- The number `digits * 10 ^ exponent`. -/
structure Decimal where
  digits : Nat
  exponent : Int
deriving DecidableEq, Repr

/-- Where a number goes that lies halfway between two candidates. -/
inductive Tie
  | up
  | even
deriving DecidableEq, Repr

/-- A positive double with the ends of the interval that reads back as it, all in units of
`2 ^ exponent`. -/
structure Neighbourhood where
  low : Nat
  value : Nat
  high : Nat
  /-- The ends themselves read back when the mantissa is even. -/
  closed : Bool
  exponent : Int
deriving Repr

namespace Neighbourhood

/-- The ends lie halfway to the next doubles. Below a power of two these are twice as dense. -/
def of (f : BinaryFraction) : Neighbourhood where
  low :=
    if f.mantissa = Nat.pow 2 52 ∧ -1074 < f.exponent then 4 * f.mantissa - 1
    else 4 * f.mantissa - 2
  value := 4 * f.mantissa
  high := 4 * f.mantissa + 2
  closed := f.mantissa % 2 == 0
  exponent := f.exponent - 2

/-- What the units and the steps of the grid of `10 ^ place` come to over one denominator. -/
def scales (n : Neighbourhood) (place : Int) : Nat × Nat :=
  (Nat.pow 2 n.exponent.toNat * Nat.pow 10 (-place).toNat,
    Nat.pow 2 (-n.exponent).toNat * Nat.pow 10 place.toNat)

/-- Whether `k * 10 ^ place` reads back. -/
def contains (n : Neighbourhood) (place : Int) (k : Nat) : Bool :=
  let (unit, step) := n.scales place
  if n.closed then n.low * unit ≤ k * step && k * step ≤ n.high * unit
  else n.low * unit < k * step && k * step < n.high * unit

/-- The multiple of `10 ^ place` next below the double. -/
def below (n : Neighbourhood) (place : Int) : Nat :=
  let (unit, step) := n.scales place
  n.value * unit / step

/-- Of the two multiples of `10 ^ place` around the double the nearer one that reads back. -/
def onGrid (n : Neighbourhood) (tie : Tie) (place : Int) : Option Nat :=
  let (unit, step) := n.scales place
  let k := n.below place
  match n.contains place k, n.contains place (k + 1) with
  | true, false => some k
  | false, true => some (k + 1)
  | false, false => none
  | true, true =>
    match compare (2 * (n.value * unit - k * step)) step with
    | .lt => some k
    | .gt => some (k + 1)
    | .eq => some (if tie = .even ∧ k % 2 = 0 then k else k + 1)

/-- The place of the first digit of the double. -/
def leadingPlace (n : Neighbourhood) : Int :=
  ((Nat.toDigits 10 (n.below (-400))).length : Int) - 401

end Neighbourhood

namespace Decimal

/-- Moves the zeros at the end of the digits into the exponent. -/
def stripZeros (fuel : Nat) (d : Decimal) : Decimal :=
  match fuel with
  | 0 => d
  | fuel + 1 =>
    if d.digits ≠ 0 ∧ d.digits % 10 = 0 then stripZeros fuel ⟨d.digits / 10, d.exponent + 1⟩ else d

/-- The fewest digits that read back as a positive double, and of those the nearest. Seventeen
digits are always enough. -/
def shortest (f : BinaryFraction) (tie : Tie) : Decimal :=
  let n := Neighbourhood.of f
  let lead := n.leadingPlace
  let chosen := (List.range 17).findSome? fun (i : Nat) =>
    (n.onGrid tie (lead - i)).map fun k => (⟨k, lead - i⟩ : Decimal)
  stripZeros 17 (chosen.getD ⟨n.below (lead - 16), lead - 16⟩)

end Decimal

end DocTemplate

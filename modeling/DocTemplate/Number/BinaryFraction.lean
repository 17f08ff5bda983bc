/-!
# Doubles as exact fractions

A finite double is an integer multiple of a power of two. The operations that have to be exact
(remainder, rounding to an integer, the digits of a text) work on that fraction.

## Main definitions

* `BinaryFraction.ofFloat?` — the fraction that a finite double stands for.
* `BinaryFraction.floor`, `ceil`, `truncate`, `roundHalfEven` — its neighbouring integers.
* `BinaryFraction.toFloat` — back to a double.
-/

namespace DocTemplate

/-- The number `mantissa * 2 ^ exponent`, below zero if `negative`. -/
structure BinaryFraction where
  negative : Bool
  mantissa : Nat
  exponent : Int
deriving DecidableEq, Repr

namespace BinaryFraction

/-- The fraction a double stands for; infinities and NaN stand for none. -/
def ofFloat? (x : Float) : Option BinaryFraction :=
  let bits := x.toBits.toNat
  let negative := decide (Nat.pow 2 63 ≤ bits)
  let field := bits / Nat.pow 2 52 % Nat.pow 2 11
  let fraction := bits % Nat.pow 2 52
  if field = 2047 then none
  else if field = 0 then some ⟨negative, fraction, -1074⟩
  else some ⟨negative, Nat.pow 2 52 + fraction, Int.ofNat field - 1075⟩

/-- The mantissa with its sign. -/
def signed (f : BinaryFraction) : Int :=
  if f.negative then -(f.mantissa : Int) else f.mantissa

/-- The fraction as a numerator over a positive denominator. -/
def quotient (f : BinaryFraction) : Int × Nat :=
  (f.signed * Nat.pow 2 f.exponent.toNat, Nat.pow 2 (-f.exponent).toNat)

/-- The greatest integer that is not above the fraction. -/
def floor (f : BinaryFraction) : Int :=
  Int.fdiv f.quotient.1 f.quotient.2

/-- The least integer that is not below the fraction. -/
def ceil (f : BinaryFraction) : Int :=
  -Int.fdiv (-f.quotient.1) f.quotient.2

/-- The integer that is left when the places after the point are dropped. -/
def truncate (f : BinaryFraction) : Int :=
  Int.tdiv f.quotient.1 f.quotient.2

/-- The nearest integer; a half goes to the even neighbour. -/
def roundHalfEven (f : BinaryFraction) : Int :=
  let below := f.floor
  let twice := 2 * (f.quotient.1 - below * f.quotient.2)
  if twice < f.quotient.2 then below
  else if (f.quotient.2 : Int) < twice then below + 1
  else if below % 2 = 0 then below else below + 1

/-- Whether the fraction is an integer. -/
def isIntegral (f : BinaryFraction) : Bool :=
  f.quotient.1 % f.quotient.2 == 0

/-- The double nearest to the fraction. -/
def toFloat (f : BinaryFraction) : Float :=
  let size :=
    if 0 ≤ f.exponent then Float.ofNat (f.mantissa * Nat.pow 2 f.exponent.toNat)
    else Float.ofScientific (f.mantissa * Nat.pow 5 (-f.exponent).toNat) true (-f.exponent).toNat
  if f.negative then -size else size

/-- The remainder that has the sign of the first number and is smaller than the second. -/
def rem (x y : BinaryFraction) : BinaryFraction :=
  let exponent := min x.exponent y.exponent
  let units (f : BinaryFraction) := f.mantissa * Nat.pow 2 (f.exponent - exponent).toNat
  ⟨x.negative, units x % units y, exponent⟩

end BinaryFraction

end DocTemplate

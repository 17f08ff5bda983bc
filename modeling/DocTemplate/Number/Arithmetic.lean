import DocTemplate.Number.BinaryFraction
import DocTemplate.Number.Double

/-!
# Arithmetic on doubles

Rounding to integers, the remainder and the orders on doubles. Each is computed on the exact
fraction and then taken back to a double.

## Main definitions

* `Number.truncate`, `floor`, `ceil`, `roundHalfEven` — rounding to an integer.
* `Number.rem` — the remainder of a division that truncates.
* `Number.min`, `Number.max` — bounds that pass over NaN.
* `Number.orderKey` — the total order of doubles.
* `Number.toInt64` — the integer part, kept within 64 bits.
-/

namespace DocTemplate

namespace Number

/-- Applies a rounding to a finite double and leaves the others as they are. -/
def roundBy (rounding : BinaryFraction → Int) : Double → Double :=
  Double.map fun x =>
    match BinaryFraction.ofFloat? x with
    | some f => Float.ofInt (rounding f)
    | none => x

/-- Drops the places after the point. -/
def truncate : Double → Double := roundBy BinaryFraction.truncate

/-- Rounds down. -/
def floor : Double → Double := roundBy BinaryFraction.floor

/-- Rounds up. -/
def ceil : Double → Double := roundBy BinaryFraction.ceil

/-- Rounds to the nearest integer, and a half to the even one. -/
def roundHalfEven : Double → Double := roundBy BinaryFraction.roundHalfEven

/-- Whether a double is a finite integer. -/
def isIntegral (x : Float) : Bool :=
  (BinaryFraction.ofFloat? x).any BinaryFraction.isIntegral

/-- The remainder of the division that truncates: exact, with the sign of the dividend. An infinite
divisor leaves the dividend; an infinite dividend or a zero divisor gives no number. -/
def rem : Double → Double → Double :=
  Double.map₂ fun x y =>
    match BinaryFraction.ofFloat? x, BinaryFraction.ofFloat? y with
    | some a, some b => if b.mantissa = 0 then 0 / 0 else (a.rem b).toFloat
    | some _, none => x
    | none, _ => 0 / 0

/-- The smaller number; NaN counts only against NaN. -/
def min (x y : Double) : Double :=
  if x.isNaN then y else if y.isNaN then x else if y < x then y else x

/-- The greater number; NaN counts only against NaN. -/
def max (x y : Double) : Double :=
  if x.isNaN then y else if y.isNaN then x else if x < y then y else x

/-- The bounds of a signed integer of 64 bits. -/
def clampInt64 (n : Int) : Int :=
  Max.max (-0x8000000000000000) (Min.min n 0x7FFFFFFFFFFFFFFF)

/-- The integer part of a double within 64 bits; 0 if the double is not finite. -/
def toInt64 (x : Float) : Int :=
  match BinaryFraction.ofFloat? x with
  | some f => clampInt64 f.truncate
  | none => 0

/-- The place of a double in the total order: its bits as a number, which falls below zero with the
sign. -/
def orderKey (x : Double) : Int :=
  let bits : Int := x.bits.toNat
  if 0x8000000000000000 ≤ bits then 0x7FFFFFFFFFFFFFFF - bits else bits

/-- The total order of doubles as a test. -/
def totalLe (x y : Double) : Bool :=
  orderKey x ≤ orderKey y

end Number

end DocTemplate

import DocTemplate.Decimal.Digits

/-!
# Numerals

A numeral is a written decimal number taken apart: its sign, the digits on either side of the point
and its exponent. Here are the free form, which a text to be converted may have, and the value of a
numeral.

## Main definitions

* `Numeral` — the parts of a written number.
* `Numeral.read?` — the free form: digits on either side of the point may be missing.
* `Numeral.nearest` — the double nearest to a numeral.
-/

namespace DocTemplate

/-- The parts of a written number. -/
structure Numeral where
  negative : Bool
  whole : List Char
  fraction : List Char
  exponent : Int
deriving DecidableEq, Repr

namespace Numeral

/-- An optional sign in front of a text. -/
def sign : List Char → Bool × List Char
  | '-' :: rest => (true, rest)
  | '+' :: rest => (false, rest)
  | rest => (false, rest)

/-- The integer that a text of digits with an optional sign spells. -/
def exponent? (text : List Char) : Option Int :=
  let (negative, digits) := sign text
  if digits.isEmpty || !digits.all Char.isDigit then none
  else
    let n : Int := natOfDigits digits
    some (if negative then -n else n)

/-- Reads a text as a number: an optional sign, digits with an optional point on either side or
among them, and an optional exponent. -/
def read? (text : List Char) : Option Numeral :=
  let (negative, body) := sign text
  let whole := body.takeWhile Char.isDigit
  let afterWhole := body.dropWhile Char.isDigit
  let (fraction, rest) :=
    match afterWhole with
    | '.' :: more => (more.takeWhile Char.isDigit, more.dropWhile Char.isDigit)
    | _ => ([], afterWhole)
  if whole.isEmpty && fraction.isEmpty then none
  else
    match rest with
    | [] => some ⟨negative, whole, fraction, 0⟩
    | c :: more =>
      if c = 'e' ∨ c = 'E' then (exponent? more).map (⟨negative, whole, fraction, ·⟩) else none

/-- The double nearest to `digits * 10 ^ exponent`, a half going to the even mantissa. Numbers far
outside the range of doubles are settled by their size alone. -/
def nearestOf (digits : Nat) (exponent : Int) : Float :=
  let size := exponent + (Nat.toDigits 10 digits).length
  if digits = 0 then 0
  else if 400 < size then 1 / 0
  else if size < -400 then 0
  else Float.ofScientific digits (exponent < 0) exponent.natAbs

/-- The double nearest to a numeral. -/
def nearest (n : Numeral) : Float :=
  let size := nearestOf (natOfDigits (n.whole ++ n.fraction)) (n.exponent - n.fraction.length)
  if n.negative then -size else size

end Numeral

end DocTemplate

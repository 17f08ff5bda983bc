import DocTemplate.Decimal.Shortest

/-!
# Laying digits out

How the chosen digits of a number become text: where a point goes, when an exponent is written and
how. Each output format is one `Layout`.

## Main definitions

* `Layout` — the decisions of a format.
* `Decimal.positional`, `Decimal.scientific` — the two ways of writing.
* `Layout.render` — the text of a finite double that is not zero.
-/

namespace DocTemplate

namespace Decimal

/-- The digits as text. -/
def digitText (d : Decimal) : List Char :=
  Nat.toDigits 10 d.digits

/-- The exponent of ten of the first digit. -/
def leadingExponent (d : Decimal) : Int :=
  d.exponent + d.digitText.length - 1

/-- Written out with zeros on either side where they are needed. -/
def positional (d : Decimal) (pointZero : Bool) : List Char :=
  let text := d.digitText
  if 0 ≤ d.exponent then
    text ++ List.replicate d.exponent.toNat '0' ++ (if pointZero then ['.', '0'] else [])
  else
    let places := (-d.exponent).toNat
    if places < text.length then
      text.take (text.length - places) ++ '.' :: text.drop (text.length - places)
    else
      '0' :: '.' :: List.replicate (places - text.length) '0' ++ text

/-- One digit, a point if more digits follow, and the exponent with its sign. -/
def scientific (d : Decimal) : List Char :=
  let e := d.leadingExponent
  let mantissa :=
    match d.digitText with
    | [] => []
    | [c] => [c]
    | c :: more => c :: '.' :: more
  mantissa ++ 'e' :: (if e < 0 then '-' else '+') :: Nat.toDigits 10 e.natAbs

end Decimal

/-- The decisions of a number format. -/
structure Layout where
  /-- Which of two equally near candidates is written. -/
  tie : Tie
  /-- The exponents of the first digit that are written without an exponent; `none` means all. -/
  plain : Option (Int × Int)
  /-- Whether an integer is written with `.0` behind it. -/
  pointZero : Bool

namespace Layout

/-- Whether a number whose first digit has this exponent is written without an exponent. -/
def isPlain (l : Layout) (e : Int) : Bool :=
  match l.plain with
  | none => true
  | some (least, greatest) => least ≤ e && e ≤ greatest

/-- The text of a finite double that is not zero. -/
def render (l : Layout) (f : BinaryFraction) : List Char :=
  let d := Decimal.shortest f l.tie
  let text := if l.isPlain d.leadingExponent then d.positional l.pointZero else d.scientific
  if f.negative then '-' :: text else text

end Layout

end DocTemplate

import DocTemplate.Decimal.Digits

/-!
# JSON documents

A JSON text taken apart, before anything is decided about what it means: numbers keep their digits
and objects keep every member that is written.

## Main definitions

* `Json` — the parts of a JSON text.
* `JsonNumber.nearby?` — the double a number is read as.
-/

namespace DocTemplate

/-- The parts of a number in a JSON text. An integer has no digits behind the point and no
exponent. -/
structure JsonNumber where
  negative : Bool
  whole : List Char
  fraction : List Char
  exponent : Option Int
deriving DecidableEq, Repr

/-- A JSON text taken apart. A string that holds half of a surrogate pair stands for no text. -/
inductive Json where
  | null
  | boolean (b : Bool)
  | number (n : JsonNumber)
  | string (s : Option String)
  | array (items : List Json)
  | object (members : List (Option String × Json))
deriving Repr, Inhabited

namespace JsonNumber

/-- Whether a number is written without a point and without an exponent. -/
def isInteger (n : JsonNumber) : Bool :=
  n.fraction.isEmpty && n.exponent.isNone

/-- The greatest number of 64 bits. -/
def maxWord : Nat := 0xFFFFFFFFFFFFFFFF

/-- Appends the digits before the point to a number as long as it fits 64 bits, and counts the
digits that are left over. -/
def takeWhole (n : Nat) : List Char → Nat × Nat
  | [] => (n, 0)
  | c :: rest =>
    let next := 10 * n + digitValue c
    if next ≤ maxWord then takeWhole next rest else (n, rest.length + 1)

/-- Appends the digits behind the point to a number as long as it fits 64 bits, and counts the
digits that were taken. -/
def takeFraction (n : Nat) : List Char → Nat × Nat
  | [] => (n, 0)
  | c :: rest =>
    let next := 10 * n + digitValue c
    if next ≤ maxWord then
      let (m, taken) := takeFraction next rest
      (m, taken + 1)
    else (n, 0)

/-- The leading digits that fit 64 bits, with the power of ten that is left. -/
def scaledWord (n : JsonNumber) : Nat × Int :=
  let (whole, dropped) := takeWhole 0 n.whole
  let (word, taken) := takeFraction whole n.fraction
  (word, (dropped : Int) - taken + n.exponent.getD 0)

/-- A power of ten as a double. -/
def powerOfTen (k : Nat) : Float :=
  Float.ofScientific 1 false k

/-- A double times a power of ten, in steps of at most `10 ^ 308`; fails on overflow. -/
def scale (x : Float) (exponent : Int) : Option Float :=
  if 0 ≤ exponent then
    if 308 < exponent then if x == 0 then some x else none
    else
      let y := x * powerOfTen exponent.toNat
      if y.isInf then none else some y
  else if h : exponent < -308 then
    if x == 0 then some x else scale (x / powerOfTen 308) (exponent + 308)
  else some (x / powerOfTen exponent.natAbs)
termination_by exponent.natAbs
decreasing_by omega

/-- The double a number is read as: its leading 64 bits scaled in double arithmetic. A number that
is too great for a double is none. -/
def nearby? (n : JsonNumber) : Option Float :=
  let (word, exponent) := n.scaledWord
  (scale (Float.ofNat word) exponent).map fun x => if n.negative then -x else x

/-- The natural number of 64 bits that an integer without a sign is. -/
def word? (n : JsonNumber) : Option Nat :=
  let (word, dropped) := takeWhole 0 n.whole
  if n.isInteger && !n.negative && dropped == 0 then some word else none

end JsonNumber

end DocTemplate

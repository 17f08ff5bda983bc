import DocTemplate.Function.Builtin
import DocTemplate.Value.Coercion

/-!
# Functions on numbers

Arguments of any kind are taken as numbers.

## Main definitions

* `ArithmeticFunctions.all` — the functions by name.
-/

namespace DocTemplate.ArithmeticFunctions

/-- Applies a function of doubles. -/
def onNumber (f : Double → Double) (v : Value) : Value :=
  .number (f v.toNumber)

/-- Applies an operation to the arguments from left to right. -/
def foldNumbers (f : Double → Double → Double) (start : Double) (args : List Value) : Value :=
  .number ((args.map Value.toNumber).foldl f start)

/-- Applies an operation that is not defined for a second number of zero. -/
def dividing (f : Double → Double → Double) (a b : Value) : Except CallError Value :=
  if b.toNumber == 0 then .error .divisionByZero else .ok (.number (f a.toNumber b.toNumber))

/-- The functions on numbers. -/
def all : List (String × Builtin) :=
  [("add", .fromTwo fun a b more => .ok (foldNumbers (· + ·) 0 (a :: b :: more))),
    ("sub", .total2 fun a b => .number (a.toNumber - b.toNumber)),
    ("mul", .fromTwo fun a b more => .ok (foldNumbers (· * ·) 1 (a :: b :: more))),
    ("div", .binary (dividing (· / ·))),
    ("mod", .binary (dividing Number.rem)),
    ("min", .fromOne fun a more => .ok (foldNumbers Number.min (1 / 0) (a :: more))),
    ("max", .fromOne fun a more => .ok (foldNumbers Number.max (-1 / 0) (a :: more))),
    ("round", .total1 (onNumber Number.roundHalfEven)),
    ("floor", .total1 (onNumber Number.floor)),
    ("ceil", .total1 (onNumber Number.ceil)),
    ("abs", .total1 (onNumber Double.abs))]

end DocTemplate.ArithmeticFunctions

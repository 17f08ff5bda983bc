import DocTemplate.Pattern.Store
import DocTemplate.Value.Coercion

/-!
# Functions on truth values

Arguments of any kind are taken as truth values.

## Main definitions

* `LogicFunctions.all` — the functions by name.
-/

namespace DocTemplate.LogicFunctions

/-- One of two values, by a condition. -/
def choose (condition whenTrue whenFalse : Value) : Value :=
  if condition.toBool then whenTrue else whenFalse

/-- Whether a value is null or has no characters, items or members. -/
def isEmpty (v : Value) : Bool :=
  v.isNull || v.size? == some 0

/-- The functions on truth values. -/
def all : List (String × Builtin) :=
  [("if", .ternary fun c a b => .ok (choose c a b)),
    ("equals", .total2 fun a b => .boolean (a.looseEq b)),
    ("not", .total1 fun v => .boolean !v.toBool),
    ("and", .fromTwo fun a b more => .ok (.boolean ((a :: b :: more).all Value.toBool))),
    ("or", .fromTwo fun a b more => .ok (.boolean ((a :: b :: more).any Value.toBool))),
    ("greaterThan", .total2 fun a b => .boolean (b.toNumber < a.toNumber)),
    ("lessThan", .total2 fun a b => .boolean (a.toNumber < b.toNumber)),
    ("exists", .total1 fun v => .boolean !v.isNull),
    ("empty", .total1 fun v => .boolean (isEmpty v)),
    ("isMatch", .total2 fun text pattern => .boolean (text.isMatch pattern))]

end DocTemplate.LogicFunctions

import DocTemplate.Function.Basic

/-!
# Functions of the library

A function of the library says by its form how many arguments it takes, so that it never looks at an
argument that is not there.

## Main definitions

* `Builtin` — a function together with its arity.
* `Builtin.call` — calling it; the number of arguments is checked before anything else.
-/

namespace DocTemplate

/-- A function with a fixed form of arguments. -/
inductive Builtin where
  | nullary (f : Except CallError Value)
  | unary (f : Value → Except CallError Value)
  | binary (f : Value → Value → Except CallError Value)
  | ternary (f : Value → Value → Value → Except CallError Value)
  | unaryOrBinary (f : Value → Option Value → Except CallError Value)
  | binaryOrTernary (f : Value → Value → Option Value → Except CallError Value)
  | fromOne (f : Value → List Value → Except CallError Value)
  | fromTwo (f : Value → Value → List Value → Except CallError Value)

namespace Builtin

/-- How many arguments a function takes. -/
def arity : Builtin → Arity
  | .nullary _ => .exactly 0
  | .unary _ => .exactly 1
  | .binary _ => .exactly 2
  | .ternary _ => .exactly 3
  | .unaryOrBinary _ => .between 1 2
  | .binaryOrTernary _ => .between 2 3
  | .fromOne _ => .atLeast 1
  | .fromTwo _ => .atLeast 2

/-- Calls a function. -/
def call (b : Builtin) (args : List Value) : Except CallError Value :=
  match b, args with
  | .nullary f, [] => f
  | .unary f, [x] => f x
  | .binary f, [x, y] => f x y
  | .ternary f, [x, y, z] => f x y z
  | .unaryOrBinary f, [x] => f x none
  | .unaryOrBinary f, [x, y] => f x (some y)
  | .binaryOrTernary f, [x, y] => f x y none
  | .binaryOrTernary f, [x, y, z] => f x y (some z)
  | .fromOne f, x :: rest => f x rest
  | .fromTwo f, x :: y :: rest => f x y rest
  | b, args => .error (.arity b.arity args.length)

/-- A function that always succeeds. -/
def total1 (f : Value → Value) : Builtin := .unary fun x => .ok (f x)

/-- A function of two arguments that always succeeds. -/
def total2 (f : Value → Value → Value) : Builtin := .binary fun x y => .ok (f x y)

end Builtin

end DocTemplate

import DocTemplate.Expr.Basic
import DocTemplate.Function.Basic
import DocTemplate.Scope
import DocTemplate.Value.Coercion

/-!
# Evaluation

The value of an expression in a scope. Both operands of a binary operator are evaluated before it is
applied, of a condition only the alternative that is taken. A function is looked up before its
arguments are evaluated.

## Main definitions

* `Expr.eval` — the value of an expression, or why it has none.
* `BinaryOp.apply`, `UnaryOp.apply` — the operators on values.
* `EvalError` — why an expression has no value.
-/

namespace DocTemplate

/-- Why an expression has no value. -/
inductive EvalError where
  | unknownFunction (name : String)
  | arityMismatch (function : String) (expected : Arity) (actual : Nat)
  | divisionByZero
  | unknownOperator (op : BinaryOp)
  /-- A function failed for another reason than the number of its arguments. -/
  | function (name : String) (cause : CallError)
deriving DecidableEq, Repr

namespace EvalError

/-- The kinds of failure that a caller can tell apart. -/
inductive Kind where
  | unknownFunction | arityMismatch | divisionByZero | typeCoercion | unknownOperator
deriving DecidableEq, Repr

/-- The kind of a failure. Whatever else goes wrong in a function counts as a coercion. -/
def kind : EvalError → Kind
  | .unknownFunction _ => .unknownFunction
  | .arityMismatch .. => .arityMismatch
  | .divisionByZero => .divisionByZero
  | .unknownOperator _ => .unknownOperator
  | .function _ (.arity ..) => .arityMismatch
  | .function _ .divisionByZero => .divisionByZero
  | .function _ (.coercion _) => .typeCoercion
  | .function _ (.runtime _) => .typeCoercion

/-- The wording of a failure. -/
def message : EvalError → String
  | .unknownFunction name => "Unknown function: " ++ name
  | .arityMismatch name expected actual =>
    name ++ " expects " ++ expected.text ++ " argument(s), got " ++ toString actual
  | .divisionByZero => "Division by zero"
  | .unknownOperator op => "Unknown operator: " ++ op.symbol
  | .function name cause => name ++ ": " ++ cause.message

/-- The failure of an expression that calls a function which fails. -/
def ofCall (name : String) : CallError → EvalError
  | .arity expected actual => .arityMismatch name expected actual
  | cause => .function name cause

end EvalError

/-- The value of an operator before an operand. -/
def UnaryOp.apply (op : UnaryOp) (v : Value) : Value :=
  match op with
  | .not => .boolean !v.toBool
  | .negate => .number (-v.toNumber)

namespace BinaryOp

/-- A divisor, which is not zero. -/
def divisor (v : Value) : Except EvalError Double :=
  if v.toNumber == 0 then .error .divisionByZero else .ok v.toNumber

/-- A sum of numbers, or the display texts in a row if one of the values is a text. -/
def plus (a b : Value) : Value :=
  if a.isString || b.isString then .string (a.display ++ b.display)
  else .number (a.toNumber + b.toNumber)

/-- The value of an operator between two operands. Membership can be written but has no value. -/
def apply (op : BinaryOp) (a b : Value) : Except EvalError Value :=
  match op with
  | .add => .ok (plus a b)
  | .subtract => .ok (.number (a.toNumber - b.toNumber))
  | .multiply => .ok (.number (a.toNumber * b.toNumber))
  | .divide => (divisor b).map fun y => .number (a.toNumber / y)
  | .modulo => (divisor b).map fun y => .number (Number.rem a.toNumber y)
  | .equal => .ok (.boolean (a.looseEq b))
  | .notEqual => .ok (.boolean !(a.looseEq b))
  | .lessThan => .ok (.boolean (a.toNumber < b.toNumber))
  | .lessThanOrEqual => .ok (.boolean (a.toNumber ≤ b.toNumber))
  | .greaterThan => .ok (.boolean (b.toNumber < a.toNumber))
  | .greaterThanOrEqual => .ok (.boolean (b.toNumber ≤ a.toNumber))
  | .and => .ok (.boolean (a.toBool && b.toBool))
  | .or => .ok (.boolean (a.toBool || b.toBool))
  | .isIn => .error (.unknownOperator .isIn)

end BinaryOp

namespace Expr

variable {m : Type → Type} [Monad m]

mutual
/-- The value of an expression, with the effects of the functions it calls. -/
def eval (functions : Registry m) (scope : Scope) : Expr → ExceptT EvalError m Value
  | .literal v => pure v
  | .path text => pure (scope.resolve text)
  | .call name args =>
    match functions.get? name with
    | none => throw (.unknownFunction name)
    | some f => do
      let values ← evalAll functions scope args
      match ← f values with
      | .ok v => pure v
      | .error e => throw (.ofCall name e)
  | .binary op lhs rhs => do
    let a ← eval functions scope lhs
    let b ← eval functions scope rhs
    ExceptT.mk (pure (op.apply a b))
  | .unary op operand => do
    let v ← eval functions scope operand
    pure (op.apply v)
  | .ternary condition whenTrue whenFalse => do
    let c ← eval functions scope condition
    if c.toBool then eval functions scope whenTrue else eval functions scope whenFalse

/-- The values of several expressions from left to right. -/
def evalAll (functions : Registry m) (scope : Scope) : List Expr → ExceptT EvalError m (List Value)
  | [] => pure []
  | e :: es => do
    let v ← eval functions scope e
    let vs ← evalAll functions scope es
    pure (v :: vs)
end

end Expr

end DocTemplate

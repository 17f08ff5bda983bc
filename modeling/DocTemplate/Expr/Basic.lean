import DocTemplate.Value.Basic

/-!
# Expressions

The trees of the expression language.

## Main definitions

* `Expr` — literals, paths, calls and operators.
* `BinaryOp.symbol`, `UnaryOp.symbol` — how operators are written.
* `Expr.isClosed` — whether an expression names no path.
-/

namespace DocTemplate

/-- The operators between two operands. -/
inductive BinaryOp where
  | add | subtract | multiply | divide | modulo
  | equal | notEqual | lessThan | lessThanOrEqual | greaterThan | greaterThanOrEqual
  | and | or
  | isIn
deriving DecidableEq, Repr

/-- The operators before one operand. -/
inductive UnaryOp where
  | negate | not
deriving DecidableEq, Repr

namespace BinaryOp

/-- How an operator is written. -/
def symbol : BinaryOp → String
  | .add => "+"
  | .subtract => "-"
  | .multiply => "*"
  | .divide => "/"
  | .modulo => "%"
  | .equal => "=="
  | .notEqual => "!="
  | .lessThan => "<"
  | .lessThanOrEqual => "<="
  | .greaterThan => ">"
  | .greaterThanOrEqual => ">="
  | .and => "&&"
  | .or => "||"
  | .isIn => "in"

/-- The name of an operator. -/
def name : BinaryOp → String
  | .add => "Add"
  | .subtract => "Subtract"
  | .multiply => "Multiply"
  | .divide => "Divide"
  | .modulo => "Modulo"
  | .equal => "Equal"
  | .notEqual => "NotEqual"
  | .lessThan => "LessThan"
  | .lessThanOrEqual => "LessThanOrEqual"
  | .greaterThan => "GreaterThan"
  | .greaterThanOrEqual => "GreaterThanOrEqual"
  | .and => "And"
  | .or => "Or"
  | .isIn => "In"

/-- All operators between two operands. -/
def all : List BinaryOp :=
  [.add, .subtract, .multiply, .divide, .modulo, .equal, .notEqual, .lessThan, .lessThanOrEqual,
    .greaterThan, .greaterThanOrEqual, .and, .or, .isIn]

/-- The operator of a name. -/
def ofName? (name : String) : Option BinaryOp :=
  all.find? (·.name == name)

end BinaryOp

namespace UnaryOp

/-- How an operator is written. -/
def symbol : UnaryOp → String
  | .negate => "-"
  | .not => "!"

/-- The name of an operator. -/
def name : UnaryOp → String
  | .negate => "Negate"
  | .not => "Not"

/-- All operators before one operand. -/
def all : List UnaryOp := [.negate, .not]

/-- The operator of a name. -/
def ofName? (name : String) : Option UnaryOp :=
  all.find? (·.name == name)

end UnaryOp

/-- The trees of the expression language. The segments of a path stand in one text, with points
between them. -/
inductive Expr where
  | literal (v : Value)
  | path (text : String)
  | call (name : String) (args : List Expr)
  | binary (op : BinaryOp) (lhs rhs : Expr)
  | unary (op : UnaryOp) (operand : Expr)
  | ternary (condition whenTrue whenFalse : Expr)
deriving Repr, Inhabited

namespace Expr

mutual
/-- Whether an expression names no path, and so does not look at data. -/
def isClosed : Expr → Bool
  | .literal _ => true
  | .path _ => false
  | .call _ args => areClosed args
  | .binary _ lhs rhs => lhs.isClosed && rhs.isClosed
  | .unary _ operand => operand.isClosed
  | .ternary condition whenTrue whenFalse =>
    condition.isClosed && whenTrue.isClosed && whenFalse.isClosed

/-- Whether none of several expressions names a path. -/
def areClosed : List Expr → Bool
  | [] => true
  | e :: es => e.isClosed && areClosed es
end

end Expr

end DocTemplate

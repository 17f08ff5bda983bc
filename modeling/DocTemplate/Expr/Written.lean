import DocTemplate.Expr.Basic
import DocTemplate.Json.Fields
import DocTemplate.Value.Reading
import DocTemplate.Value.Writing

/-!
# Expressions as JSON

The JSON form of expression trees: an object with one member, whose key names the kind of the node
and whose value holds its parts.

## Main definitions

* `Expr.json` — the JSON text of an expression.
* `Expr.read?` — the expression of a JSON text.
-/

namespace DocTemplate.Expr

/-- A member of an object: a name and the text of its value. -/
def field (name : String) (text : List Char) : List Char :=
  jsonString name ++ ':' :: text

mutual
/-- The JSON text of an expression, as characters. -/
def jsonChars : Expr → List Char
  | .literal v => '{' :: field "Literal" v.jsonChars ++ ['}']
  | .path text => '{' :: field "PropertyAccess" (jsonString text) ++ ['}']
  | .call name args =>
    '{' :: field "FunctionCall"
      ('{' :: field "name" (jsonString name) ++ ',' :: field "args" ('[' :: jsonArgs args) ++ ['}'])
      ++ ['}']
  | .binary op lhs rhs =>
    '{' :: field "Binary"
      ('{' :: field "op" (jsonString op.name) ++ ',' :: field "lhs" (jsonChars lhs)
        ++ ',' :: field "rhs" (jsonChars rhs) ++ ['}'])
      ++ ['}']
  | .unary op operand =>
    '{' :: field "Unary"
      ('{' :: field "op" (jsonString op.name)
        ++ ',' :: field "operand" (jsonChars operand) ++ ['}'])
      ++ ['}']
  | .ternary condition whenTrue whenFalse =>
    '{' :: field "Ternary"
      ('{' :: field "condition" (jsonChars condition)
        ++ ',' :: field "when_true" (jsonChars whenTrue)
        ++ ',' :: field "when_false" (jsonChars whenFalse) ++ ['}'])
      ++ ['}']

/-- The arguments of a call and the closing bracket. -/
def jsonArgs : List Expr → List Char
  | [] => [']']
  | [e] => jsonChars e ++ [']']
  | e :: es => jsonChars e ++ ',' :: jsonArgs es
end

/-- The JSON text of an expression. -/
def json (e : Expr) : String :=
  String.ofList e.jsonChars

/-- The expression of a JSON document with at most `depth` arrays and objects inside each other. -/
def ofJson? : (depth : Nat) → Json → Option Expr
  | 0, _ => none
  | depth + 1, .object [(some "Literal", body)] => (Value.ofJson? depth body).map .literal
  | _ + 1, .object [(some "PropertyAccess", .string text)] => text.map .path
  | depth + 2, .object [(some "FunctionCall", body)] =>
    match depth, Json.fields? ["name", "args"] body with
    | depth + 1, some [some (.string (some name)), some (.array args)] =>
      (args.mapM (ofJson? depth)).map (.call name)
    | _, _ => none
  | depth + 2, .object [(some "Binary", body)] =>
    match Json.fields? ["op", "lhs", "rhs"] body with
    | some [some op, some lhs, some rhs] => do
      let op ← (Json.choice? depth op).bind BinaryOp.ofName?
      let lhs ← ofJson? depth lhs
      let rhs ← ofJson? depth rhs
      some (.binary op lhs rhs)
    | _ => none
  | depth + 2, .object [(some "Unary", body)] =>
    match Json.fields? ["op", "operand"] body with
    | some [some op, some operand] => do
      let op ← (Json.choice? depth op).bind UnaryOp.ofName?
      let operand ← ofJson? depth operand
      some (.unary op operand)
    | _ => none
  | depth + 2, .object [(some "Ternary", body)] =>
    match Json.fields? ["condition", "when_true", "when_false"] body with
    | some [some condition, some whenTrue, some whenFalse] => do
      let condition ← ofJson? depth condition
      let whenTrue ← ofJson? depth whenTrue
      let whenFalse ← ofJson? depth whenFalse
      some (.ternary condition whenTrue whenFalse)
    | _ => none
  | _ + 1, _ => none

/-- The expression of a JSON text. -/
def read? (text : String) : Option Expr :=
  (Json.read? text).bind (ofJson? Value.maxDepth)

end DocTemplate.Expr

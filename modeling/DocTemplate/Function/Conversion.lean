import DocTemplate.Function.Builtin
import DocTemplate.Function.TextFunctions
import DocTemplate.Text.Case
import DocTemplate.Value.Coercion

/-!
# Conversions

Conversions that fail where a coercion would fall back to a default.

## Main definitions

* `ConversionFunctions.strictNumber` — the number of a value that is one.
* `ConversionFunctions.all` — the functions by name.
-/

namespace DocTemplate.ConversionFunctions

/-- The number of a value. Texts that spell no finite number, arrays and objects have none; `target`
is what the message calls the wanted number. -/
def strictNumber (target : String) : Value → Except CallError Double
  | .number x => .ok x
  | .string s =>
    match Value.parseNumber? s with
    | some x => .ok x
    | none => .error (.coercion ("cannot parse '" ++ s ++ "' as " ++ target))
  | .boolean true => .ok 1
  | .boolean false => .ok 0
  | .null => .ok 0
  | v => .error (.coercion ("cannot convert " ++ v.kindName ++ " to " ++ target))

/-- The integer part of the number of a value. -/
def parseInt (v : Value) : Except CallError Value :=
  (strictNumber "integer" v).map fun x => .number (Number.truncate x)

/-- The number of a value. -/
def parseFloat (v : Value) : Except CallError Value :=
  (strictNumber "number" v).map .number

/-- The truth value of a value. Some words for no make a text false, and an object is always
true. -/
def parseBool : Value → Value
  | .string s =>
    .boolean !(["false", "0", "no", ""].contains (String.ofList (Text.lowerText s.toList)))
  | .object _ => .boolean true
  | v => .boolean v.toBool

/-- The conversions. -/
def all : List (String × Builtin) :=
  [("parseInt", .unary parseInt),
    ("int", .unary parseInt),
    ("parseFloat", .unary parseFloat),
    ("float", .unary parseFloat),
    ("toNumber", .unary parseFloat),
    ("toString", .total1 TextFunctions.displayed),
    ("toBool", .total1 parseBool)]

end DocTemplate.ConversionFunctions

import DocTemplate.Decimal.Numeral
import DocTemplate.Text.Blank
import DocTemplate.Value.Writing

/-!
# Coercions

How a value of any kind is taken as a number, an integer or a truth value, and when two values are
equal for an expression.

## Main definitions

* `Value.parseNumber?` — the finite number a text spells.
* `Value.toNumber`, `Value.toInteger`, `Value.toBool` — coercions that always succeed.
* `Value.looseEq` — equality across kinds.
* `Value.flattenItems` — one level of nesting removed.
-/

namespace DocTemplate.Value

/-- The finite number that a text spells, blanks around it apart. -/
def parseNumber? (s : String) : Option Float :=
  (Numeral.read? (Text.trim s.toList)).bind fun n =>
    let x := n.nearest
    if x.isFinite then some x else none

/-- A value as a number. What does not spell a number counts as 0. -/
def toNumber : Value → Double
  | .number x => x
  | .string s => (parseNumber? s).getD 0
  | .boolean true => 1
  | .boolean false => 0
  | .null | .array _ | .object _ => 0

/-- A value as a truth value: empty texts, arrays and objects, null and zero are false. -/
def toBool : Value → Bool
  | .boolean b => b
  | .number x => x != 0
  | .string s => !s.isEmpty
  | .null => false
  | .array items => !items.isEmpty
  | .object members => !members.isEmpty

/-- The integer part of a value as a number, within 64 bits; 0 if it is not finite. -/
def toInteger (v : Value) : Int :=
  Number.toInt64 v.toNumber

/-- Equality across kinds. Null equals only null, values of one plain kind are compared directly,
all others by their display text. -/
def looseEq : Value → Value → Bool
  | .null, .null => true
  | .null, _ => false
  | _, .null => false
  | .number a, .number b => a == b
  | .string a, .string b => a == b
  | .boolean a, .boolean b => a == b
  | a, b => a.display == b.display

/-- The items of an array with the arrays among them opened, one level deep. -/
def flattenItems (items : List Value) : List Value :=
  items.flatMap fun
    | .array inner => inner
    | v => [v]

end DocTemplate.Value

import DocTemplate.Decimal.Layout
import DocTemplate.Number.Arithmetic
import DocTemplate.Value.Basic

/-!
# Writing values

The two texts of a value: its JSON text, which keeps the kinds apart, and its display text, in which
a string stands for itself and null is empty.

## Main definitions

* `Value.json` — compact JSON text. A number that is not finite is written as null.
* `Value.display` — the text that is put into a document.
-/

namespace DocTemplate

/-- Numbers in JSON text: an exponent below -5 and above 15, a half to the even digit, and `.0`
behind integers that are too great to be written as plain integers. -/
def jsonLayout : Layout where
  tie := .even
  plain := some (-5, 15)
  pointZero := true

/-- Numbers in display text: never an exponent, a half upwards. -/
def displayLayout : Layout where
  tie := .up
  plain := none
  pointZero := false

/-- The text of an integer. -/
def integerText (n : Int) : List Char :=
  if n < 0 then '-' :: Nat.toDigits 10 n.natAbs else Nat.toDigits 10 n.natAbs

/-- A finite number: integers below `limit` in size plainly, the others in a layout. -/
def numberText (limit : Nat) (layout : Layout) (f : BinaryFraction) : List Char :=
  if f.isIntegral && f.truncate.natAbs < limit then integerText f.truncate else layout.render f

/-- The display text of a number. -/
def displayNumber (x : Float) : List Char :=
  match BinaryFraction.ofFloat? x with
  | some f => numberText (Nat.pow 10 15) displayLayout f
  | none =>
    if x.isNaN then "NaN".toList else if 0 < x then "Infinity".toList else "-Infinity".toList

/-- The JSON text of a number. -/
def jsonNumber (x : Float) : List Char :=
  match BinaryFraction.ofFloat? x with
  | some f => numberText (9 * Nat.pow 10 15) jsonLayout f
  | none => "null".toList

/-- The lower case hexadecimal digit of a number below 16. -/
def hexDigit (n : Nat) : Char :=
  Nat.digitChar n

/-- A character inside a JSON string. Quotes, backslashes and control characters are escaped. -/
def jsonChar (c : Char) : List Char :=
  if c = '"' then ['\\', '"']
  else if c = '\\' then ['\\', '\\']
  else if c = '\n' then ['\\', 'n']
  else if c = '\r' then ['\\', 'r']
  else if c = '\t' then ['\\', 't']
  else if c.toNat = 8 then ['\\', 'b']
  else if c.toNat = 12 then ['\\', 'f']
  else if c.toNat < 32 then
    ['\\', 'u', '0', '0', hexDigit (c.toNat / 16), hexDigit (c.toNat % 16)]
  else [c]

/-- A JSON string. -/
def jsonString (s : String) : List Char :=
  '"' :: s.toList.flatMap jsonChar ++ ['"']

namespace Value

mutual
/-- The JSON text of a value, as characters. -/
def jsonChars : Value → List Char
  | .null => "null".toList
  | .boolean true => "true".toList
  | .boolean false => "false".toList
  | .number x => jsonNumber x
  | .string s => jsonString s
  | .array [] => ['[', ']']
  | .array (v :: vs) => '[' :: jsonChars v ++ jsonItems vs
  | .object [] => ['{', '}']
  | .object ((key, v) :: rest) => '{' :: jsonString key ++ ':' :: jsonChars v ++ jsonMembers rest

/-- The further items of an array and its closing bracket. -/
def jsonItems : List Value → List Char
  | [] => [']']
  | v :: vs => ',' :: jsonChars v ++ jsonItems vs

/-- The further members of an object and its closing brace. -/
def jsonMembers : List (String × Value) → List Char
  | [] => ['}']
  | (key, v) :: rest => ',' :: jsonString key ++ ':' :: jsonChars v ++ jsonMembers rest
end

/-- The compact JSON text of a value. -/
def json (v : Value) : String :=
  String.ofList v.jsonChars

/-- The text a value is shown as. -/
def display : Value → String
  | .null => ""
  | .boolean true => "true"
  | .boolean false => "false"
  | .number x => String.ofList (displayNumber x)
  | .string s => s
  | v => v.json

end Value

end DocTemplate

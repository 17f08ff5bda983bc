import DocTemplate.Function.Builtin
import DocTemplate.Text.Case
import DocTemplate.Text.Search
import DocTemplate.Value.Coercion

/-!
# Functions on texts

Most of them leave a value that is no text as it is.

## Main definitions

* `TextFunctions.all` — the functions by name.
-/

namespace DocTemplate.TextFunctions

/-- Applies a function to the characters of a text and leaves other values as they are. -/
def onText (f : List Char → List Char) : Value → Value
  | .string s => .string (String.ofList (f s.toList))
  | v => v

/-- The characters from a start on, as many as asked for and there are. A start outside the text
leaves the whole text. -/
def substring (text : Value) (start : Value) (length : Option Value) : Value :=
  match text with
  | .string s =>
    let count : Int := s.toList.length
    let first := start.toInteger
    if first < 0 ∨ count ≤ first then text
    else
      let available := count - first
      let taken :=
        match length with
        | some n => max 0 (min n.toInteger available)
        | none => available
      .string (String.ofList ((s.toList.drop first.toNat).take taken.toNat))
  | v => v

/-- The number of characters before the first occurrence, or -1. -/
def indexOf (text pattern : Value) : Value :=
  match text, pattern with
  | .string s, .string p =>
    match Text.find? p.toList s.toList with
    | some n => .number (Float.ofNat n)
    | none => .number (-1)
  | _, _ => .number (-1)

/-- The number of characters, items or members; 0 for other values. -/
def length (v : Value) : Value :=
  .number (Float.ofNat (v.size?.getD 0))

/-- Every occurrence of a text exchanged for another. -/
def replace (text pattern replacement : Value) : Value :=
  match text, pattern, replacement with
  | .string s, .string p, .string r =>
    .string (String.ofList (Text.replace p.toList r.toList s.toList))
  | _, _, _ => text

/-- The pieces between the occurrences of a delimiter. -/
def split (text delimiter : Value) : Value :=
  match text, delimiter with
  | .string s, .string d =>
    .array ((Text.split d.toList s.toList).map fun piece => .string (String.ofList piece))
  | _, _ => .array [text]

/-- The display texts of the items with a delimiter between them. -/
def join (items delimiter : Value) : Value :=
  match items, delimiter with
  | .array vs, .string d =>
    .string (String.ofList (Text.join d.toList (vs.map fun v => v.display.toList)))
  | _, _ => .string ""

/-- Whether a text starts with another. -/
def startsWith (text pattern : Value) : Value :=
  match text, pattern with
  | .string s, .string p => .boolean (p.toList.isPrefixOf s.toList)
  | _, _ => .boolean false

/-- Whether a text ends with another. -/
def endsWith (text pattern : Value) : Value :=
  match text, pattern with
  | .string s, .string p => .boolean (p.toList.isSuffixOf s.toList)
  | _, _ => .boolean false

/-- Whether a text occurs in another, or an item of an array is displayed like a value. -/
def contains (whole part : Value) : Value :=
  match whole, part with
  | .string s, .string p => .boolean (Text.occurs p.toList s.toList)
  | .array vs, v => .boolean (vs.any fun item => item.display == v.display)
  | _, _ => .boolean false

/-- Exchanges the placeholders of the arguments from `first` on, one argument after the other. -/
def fillFrom (first : Nat) (text : List Char) : List Value → List Char
  | [] => text
  | v :: vs =>
    let placeholder := '{' :: Nat.toDigits 10 first ++ ['}']
    fillFrom (first + 1) (Text.replace placeholder v.display.toList text) vs

/-- A pattern whose placeholders, numbers from 0 in braces, are exchanged for the display texts of
the arguments. -/
def format (pattern : Value) (args : List Value) : Value :=
  onText (fillFrom 0 · args) pattern

/-- The display texts in a row. -/
def concat (args : List Value) : Value :=
  .string (String.ofList (args.flatMap fun v => v.display.toList))

/-- The display text of a value. -/
def displayed (v : Value) : Value :=
  .string v.display

/-- The functions on texts. -/
def all : List (String × Builtin) :=
  [("toLower", .total1 (onText Text.lowerText)),
    ("toUpper", .total1 (onText Text.upperText)),
    ("substring", .binaryOrTernary fun s start length => .ok (substring s start length)),
    ("indexOf", .total2 indexOf),
    ("length", .total1 length),
    ("replace", .ternary fun s p r => .ok (replace s p r)),
    ("split", .total2 split),
    ("join", .total2 join),
    ("trim", .total1 (onText Text.trim)),
    ("startsWith", .total2 startsWith),
    ("endsWith", .total2 endsWith),
    ("contains", .total2 contains),
    ("format", .fromOne fun pattern args => .ok (format pattern args)),
    ("concat", .fromOne fun v vs => .ok (concat (v :: vs))),
    ("string", .total1 displayed)]

end DocTemplate.TextFunctions

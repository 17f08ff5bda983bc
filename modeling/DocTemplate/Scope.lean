import DocTemplate.Decimal.Digits
import DocTemplate.Text.Search
import DocTemplate.Value.Basic

/-!
# Scopes

What a path means. A scope holds the data of the whole document and, innermost first, the values
that iteration has entered, each with its index if it is a row.

## Main definitions

* `Scope.ofData`, `Scope.row`, `Scope.enter` — the outermost scope and the two ways inwards.
* `Scope.resolve` — the value of a path. What is missing is null.
-/

namespace DocTemplate

/-- A value that iteration has entered, with its index if it is a row. -/
structure Frame where
  value : Value
  index : Option Nat
deriving Repr

/-- The data of the document, the value entered last and the ones outside it. -/
structure Scope where
  root : Value
  current : Frame
  outer : List Frame
deriving Repr

namespace Scope

/-- The scope of a whole document. -/
def ofData (data : Value) : Scope :=
  ⟨data, ⟨data, none⟩, []⟩

/-- The scope inside, with another value and index. -/
def push (s : Scope) (frame : Frame) : Scope :=
  ⟨s.root, frame, s.current :: s.outer⟩

/-- The scope of a row of an array. -/
def row (s : Scope) (value : Value) (index : Nat) : Scope :=
  s.push ⟨value, some index⟩

/-- The scope of a value that is no row. -/
def enter (s : Scope) (value : Value) : Scope :=
  s.push ⟨value, none⟩

/-- The number of scopes around a scope. -/
def depth (s : Scope) : Nat :=
  s.outer.length

/-- The index of a segment: digits with an optional plus in front, within 64 bits. -/
def index? (segment : List Char) : Option Nat :=
  let digits :=
    match segment with
    | '+' :: rest => rest
    | _ => segment
  if digits.isEmpty || !digits.all Char.isDigit then none
  else
    let n := natOfDigits digits
    if n < Nat.pow 2 64 then some n else none

/-- The part of a value that a segment names. -/
def step (v : Value) (segment : List Char) : Option Value :=
  match v with
  | .object members => members.lookup (String.ofList segment)
  | .array items => (index? segment).bind (items[·]?)
  | _ => none

/-- The part of a value that a list of segments leads to. -/
def walk (v : Value) : List (List Char) → Value
  | [] => v
  | segment :: rest =>
    match step v segment with
    | some next => walk next rest
    | none => .null

/-- The part of a value that a path with points between its segments leads to. -/
def follow (v : Value) (path : List Char) : Value :=
  walk v (Text.split ['.'] path)

/-- The value of a path. `$data` is the current value, `$root` the whole document and `$index` the
index of the row; other paths start at the current value. -/
def resolve (s : Scope) (path : String) : Value :=
  if path = "$data" then s.current.value
  else if path = "$root" then s.root
  else if path = "$index" then
    match s.current.index with
    | some n => .number (Float.ofNat n)
    | none => .null
  else
    match "$root.".toList.isPrefixOf? path.toList with
    | some rest => follow s.root rest
    | none =>
      match "$data.".toList.isPrefixOf? path.toList with
      | some rest => follow s.current.value rest
      | none => follow s.current.value path.toList

end Scope

end DocTemplate

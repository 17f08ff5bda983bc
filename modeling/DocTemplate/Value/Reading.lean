import DocTemplate.Json.Reading
import DocTemplate.Value.Basic

/-!
# Reading values

A value is read from JSON text. Nesting is bounded, numbers become doubles, and of two members with
one key the later one is kept in the place of the earlier.

## Main definitions

* `Value.ofJson?` — the value of a JSON document.
* `Value.read?` — the value of a JSON text.
-/

namespace DocTemplate.Value

/-- How many arrays and objects may stand inside each other. -/
def maxDepth : Nat := 127

mutual
/-- The value of a JSON document with at most `depth` arrays and objects inside each other. -/
def ofJson? (depth : Nat) : Json → Option Value
  | .null => some .null
  | .boolean b => some (.boolean b)
  | .number n => n.nearby?.map fun x : Float => .number x
  | .string s => s.map .string
  | .array items =>
    match depth with
    | 0 => none
    | depth + 1 => (ofJsonItems? depth items).map .array
  | .object members =>
    match depth with
    | 0 => none
    | depth + 1 => (ofJsonMembers? depth members []).map .object

/-- The values of the items of an array. -/
def ofJsonItems? (depth : Nat) : List Json → Option (List Value)
  | [] => some []
  | item :: items => do
    let v ← ofJson? depth item
    let vs ← ofJsonItems? depth items
    some (v :: vs)

/-- The members of an object written after those that are there. -/
def ofJsonMembers? (depth : Nat) : List (Option String × Json) → List (String × Value) →
    Option (List (String × Value))
  | [], members => some members
  | (key, item) :: rest, members => do
    let key ← key
    let v ← ofJson? depth item
    ofJsonMembers? depth rest (insertMember key v members)
end

/-- The value of a JSON text. -/
def read? (text : String) : Option Value :=
  (Json.read? text).bind (ofJson? maxDepth)

end DocTemplate.Value

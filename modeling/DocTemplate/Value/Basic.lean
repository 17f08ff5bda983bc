import DocTemplate.Number.Double

/-!
# Values

The values that data documents hold and that expressions and templates produce.

## Main definitions

* `Value` — null, truth values, doubles, texts, arrays and objects whose members keep their order.
* `Value.insertMember` — writing a member: a key that is there keeps its place.
* `Value.same` — structural equality: members are compared by key, numbers as doubles.
-/

namespace DocTemplate

/-- A value of a data document. The members of an object stand in the order in which their keys
were first written. -/
inductive Value where
  | null
  | boolean (b : Bool)
  | number (x : Double)
  | string (s : String)
  | array (items : List Value)
  | object (members : List (String × Value))
deriving Repr, Inhabited

namespace Value

/-- The name of a value's kind. -/
def kindName : Value → String
  | .null => "null"
  | .boolean _ => "boolean"
  | .number _ => "number"
  | .string _ => "string"
  | .array _ => "array"
  | .object _ => "object"

/-- Whether a value is null. -/
def isNull : Value → Bool
  | .null => true
  | _ => false

/-- Whether a value is a number. -/
def isNumber : Value → Bool
  | .number _ => true
  | _ => false

/-- Whether a value is a text. -/
def isString : Value → Bool
  | .string _ => true
  | _ => false

/-- The text of a string. -/
def string? : Value → Option String
  | .string s => some s
  | _ => none

/-- The items of an array. -/
def items? : Value → Option (List Value)
  | .array items => some items
  | _ => none

/-- The member of an object under a key. -/
def member? (v : Value) (key : String) : Option Value :=
  match v with
  | .object members => members.lookup key
  | _ => none

/-- The number of characters of a text, items of an array or members of an object. -/
def size? : Value → Option Nat
  | .string s => some s.toList.length
  | .array items => some items.length
  | .object members => some members.length
  | _ => none

/-- Writes a member: a key that is there keeps its place and takes the new value, another one goes
to the end. -/
def insertMember {α : Type} (key : String) (v : α) : List (String × α) → List (String × α)
  | [] => [(key, v)]
  | (k, w) :: rest => if k = key then (k, v) :: rest else (k, w) :: insertMember key v rest

mutual
/-- A value with the members of its objects in the order of their keys. -/
def sortKeys : Value → Value
  | .array items => .array (sortItemKeys items)
  | .object members =>
    .object ((sortMemberKeys members).mergeSort fun a b => a.1 ≤ b.1)
  | v => v

/-- Items with the members of their objects in order. -/
def sortItemKeys : List Value → List Value
  | [] => []
  | v :: vs => sortKeys v :: sortItemKeys vs

/-- Members with the members of the objects inside them in order. -/
def sortMemberKeys : List (String × Value) → List (String × Value)
  | [] => []
  | (key, v) :: rest => (key, sortKeys v) :: sortMemberKeys rest
end

mutual
/-- Structural equality. Numbers are equal as doubles, objects if they have the same members in any
order. -/
def same : Value → Value → Bool
  | .null, .null => true
  | .boolean a, .boolean b => a == b
  | .number a, .number b => a == b
  | .string a, .string b => a == b
  | .array as, .array bs => sameItems as bs
  | .object as, .object bs => as.length == bs.length && sameMembers as bs
  | _, _ => false

/-- Item by item equality of arrays. -/
def sameItems : List Value → List Value → Bool
  | [], [] => true
  | a :: as, b :: bs => same a b && sameItems as bs
  | _, _ => false

/-- Whether each of the first members has an equal one among the second. -/
def sameMembers : List (String × Value) → List (String × Value) → Bool
  | [], _ => true
  | (key, a) :: as, bs =>
    (match bs.lookup key with
      | some b => same a b
      | none => false) && sameMembers as bs
end

end Value

end DocTemplate

import DocTemplate.Function.Builtin
import DocTemplate.Value.Coercion

/-!
# Functions on arrays

Membership in an array goes by display text.

## Main definitions

* `CollectionFunctions.sortItems` — the stable sort and its three orders.
* `CollectionFunctions.unionItems`, `intersectionItems` — arrays as sets.
* `CollectionFunctions.all` — the functions by name.
-/

namespace DocTemplate.CollectionFunctions

/-- Applies a function to the items of an array; other values give the empty array. -/
def onItems (f : List Value → List Value) : Value → Value
  | .array items => .array (f items)
  | _ => .array []

/-- The number of items, members or characters; 0 for other values. -/
def count (v : Value) : Value :=
  .number (Float.ofNat (v.size?.getD 0))

/-- The first item, or null. -/
def first : Value → Value
  | .array items => items.head?.getD .null
  | _ => .null

/-- The last item, or null. -/
def last : Value → Value
  | .array items => items.getLast?.getD .null
  | _ => .null

/-- Whether an item is neither null nor an empty text. -/
def isPresent : Value → Bool
  | .null => false
  | .string s => !s.isEmpty
  | _ => true

/-- Texts by their characters. -/
def textLe (a b : String) : Bool :=
  a ≤ b

/-- Numbers by the total order of doubles. -/
def byNumber (a b : Value) : Bool :=
  Number.totalLe a.toNumber b.toNumber

/-- Any values by their display texts; for texts these are the texts themselves. -/
def byDisplay (a b : Value) : Bool :=
  textLe a.display b.display

/-- Sorts numbers as numbers and everything else by display text. Equal items keep their order. -/
def sortItems (items : List Value) : List Value :=
  if items.all Value.isNumber then items.mergeSort byNumber else items.mergeSort byDisplay

/-- The items displayed like none of the texts, each display text once. -/
def newItems (seen : List String) : List Value → List Value
  | [] => []
  | v :: vs =>
    if seen.contains v.display then newItems seen vs else v :: newItems (v.display :: seen) vs

/-- The first items, then those of the second that are not displayed yet. -/
def unionItems (as bs : List Value) : List Value :=
  as ++ newItems (as.map Value.display) bs

/-- The first items that are displayed like one of the second. -/
def intersectionItems (as bs : List Value) : List Value :=
  as.filter fun v => (bs.map Value.display).contains v.display

/-- Applies a function to the items of two arrays; other values give the empty array. -/
def onTwo (f : List Value → List Value → List Value) (a b : Value) : Value :=
  match a, b with
  | .array as, .array bs => .array (f as bs)
  | _, _ => .array []

/-- The functions on arrays. -/
def all : List (String × Builtin) :=
  [("count", .total1 count),
    ("first", .total1 first),
    ("last", .total1 last),
    ("filter", .fromOne fun v _ => .ok (onItems (List.filter isPresent) v)),
    ("sort", .total1 (onItems sortItems)),
    ("flatten", .total1 (onItems Value.flattenItems)),
    ("union", .total2 (onTwo unionItems)),
    ("intersection", .total2 (onTwo intersectionItems))]

end DocTemplate.CollectionFunctions

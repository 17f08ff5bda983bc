import DocTemplate.Json.Basic

/-!
# Records in JSON

A record with named fields is written as an object, or as an array of its fields in order. Members
under other names are passed over, and no field may be written twice.

## Main definitions

* `Json.fields?` — what stands under each name of a record.
* `Json.choice?` — the name of an alternative that carries nothing.
-/

namespace DocTemplate.Json

/-- What is written for each field of a record; a field that is not written is none. -/
def fields? (names : List String) : Json → Option (List (Option Json))
  | .object members => do
    let entries ← members.mapM fun (key, v) => key.map (·, v)
    let known := entries.filter fun (key, _) => names.contains key
    if (known.map (·.1)).Nodup then some (names.map fun name => List.lookup name known) else none
  | .array items =>
    if items.length ≤ names.length then
      some (items.map some ++ List.replicate (names.length - items.length) none)
    else none
  | _ => none

/-- The name of an alternative that carries nothing: a string, or an object with null under the
name. -/
def choice? (depth : Nat) : Json → Option String
  | .string s => s
  | .object [(key, .null)] => if depth = 0 then none else key
  | _ => none

end DocTemplate.Json

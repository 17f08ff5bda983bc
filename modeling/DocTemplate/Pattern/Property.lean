import DocTemplate.Pattern.CharProperty
import DocTemplate.Pattern.Script

/-!
# Properties in patterns

The sets of characters that a pattern names by a property. Case, blanks, hyphens and underscores do
not count in a name, and neither does `is` in front of it.

## Main definitions

* `Property.named?` — the set of a name on its own: a property, a category or a script.
* `Property.valued?` — the set of a value of a property.
-/

namespace DocTemplate.Pattern.Property

/-- A name without what does not count in it. -/
def significant (name : List Char) : List Char :=
  (name.filter fun c => c != ' ' && c != '_' && c != '-' && c.toNat < 128).map Char.toLower

/-- A name as the tables have it. The name `isc` stands for a comment and not for the category
`c`. -/
def symbolic (name : List Char) : String :=
  match name with
  | i :: s :: rest =>
    if i.toLower = 'i' ∧ s.toLower = 's' then
      if significant rest = ['c'] then "isc" else String.ofList (significant rest)
    else String.ofList (significant name)
  | _ => String.ofList (significant name)

/-- The set of a general category. -/
def category? (name : String) : Option CharSet :=
  if name = "any" then some .all
  else if name = "ascii" then some (.range 0 127)
  else if name = "assigned" then some .assigned
  else if name = "cn" ∨ name = "unassigned" then some (.complement .assigned)
  else if name = "c" ∨ name = "other" then
    some ((CharSet.complement .assigned).union (.categories [.control, .format, .privateUse]))
  else (Category.named? name).map .categories

/-- The set of a script. -/
def script? (name : String) : Option CharSet :=
  (Script.named? name).map fun s => .ofTable s.table

/-- The set of a script together with the characters it shares. The two scripts of shared characters
keep those that no other script uses. -/
def scriptExtension? (name : String) : Option CharSet :=
  (Script.named? name).map fun s =>
    if s.names.contains "zyyy" ∨ s.names.contains "zinh" then
      (CharSet.ofTable s.table).difference (.unions (Script.extensions.map (.ofTable ·.2)))
    else (CharSet.ofTable s.table).union (.ofTable s.sharedTable)

/-- The set of a property, a category or a script. Three short names of properties are taken as
those of categories. -/
def named? (name : List Char) : Option CharSet :=
  let name := symbolic name
  let property := if ["cf", "sc", "lc"].contains name then none else CharProperty.named? name
  match property with
  | some p => some p.charSet
  | none => (category? name).or (script? name)

/-- The set of a value of a property. -/
def valued? (property value : List Char) : Option CharSet :=
  let property := symbolic property
  let value := symbolic value
  if property = "gc" ∨ property = "generalcategory" then category? value
  else if property = "sc" ∨ property = "script" then script? value
  else if property = "scx" ∨ property = "scriptextensions" then scriptExtension? value
  else none

end DocTemplate.Pattern.Property

import DocTemplate.Binding.Interpolation
import DocTemplate.Scope
import DocTemplate.Value.Coercion

/-!
# Expansion of documents

A template is a document whose texts hold bindings and whose objects may hold two directives. An
object with `$when` is there only if its condition holds. An element of an array with `$data` is
repeated for each row of an array, once for another value and not at all for null. Elements that
come out as empty objects are dropped.

## Main definitions

* `Document.expand` — the document that a template stands for in a scope.
-/

namespace DocTemplate.Document

/-- The key of a condition. -/
def whenKey : String := "$when"

/-- The key of the data to repeat an element for. -/
def dataKey : String := "$data"

variable {n : Type → Type} [Monad n] {ε : Type}

/-- Whether a value is an object without members. -/
def isEmptyObject : Value → Bool
  | .object [] => true
  | _ => false

/-- An element, unless it is an empty object. -/
def kept (v : Value) : List Value :=
  if isEmptyObject v then [] else [v]

/-- Whether a condition holds. A text is an expression, and one that fails does not hold. -/
def holds (evaluate : String → n (Except ε Value)) : Value → n Bool
  | .string source => do
    match ← evaluate (Binding.unwrap source) with
    | .ok v => pure v.toBool
    | .error _ => pure false
  | v => pure v.toBool

/-- Whether an object is there, going by its condition if it has one. -/
def isPresent (evaluate : String → n (Except ε Value)) (members : List (String × Value)) : n Bool :=
  match members.lookup whenKey with
  | some condition => holds evaluate condition
  | none => pure true

/-- The elements for each row of an array, from the row of index `first` on. -/
def forRows (element : Value → Nat → ExceptT TemplateError n Value) (first : Nat) :
    List Value → ExceptT TemplateError n (List Value)
  | [] => pure []
  | row :: rows => do
    let v ← element row first
    let vs ← forRows element (first + 1) rows
    pure (kept v ++ vs)

/-- An object with expanded members, or the empty object if its condition does not hold. -/
def object (evaluate : String → n (Except ε Value)) (members : List (String × Value))
    (expanded : ExceptT TemplateError n (List (String × Value))) :
    ExceptT TemplateError n Value := do
  let present ← (isPresent evaluate members : n Bool)
  if present then
    let expanded ← expanded
    pure (.object expanded)
  else pure (.object [])

/-- What an object contributes as an element of an array, given how its data and its members are
expanded. Its data is a directive: `expanded` leaves it out of the members. -/
def element (evaluate : Scope → String → n (Except ε Value)) (scope : Scope)
    (members : List (String × Value)) (data : ExceptT TemplateError n Value)
    (expanded : Scope → ExceptT TemplateError n (List (String × Value))) :
    ExceptT TemplateError n (List Value) := do
  let inScope (scope : Scope) := object (evaluate scope) members (expanded scope)
  if (members.lookup dataKey).isSome then
    match ← data with
    | .array rows => forRows (fun row i => inScope (scope.row row i)) 0 rows
    | .null => pure []
    | v => do
      let result ← inScope (scope.enter v)
      pure (kept result)
  else
    let result ← inScope scope
    pure (kept result)

variable (evaluate : Scope → String → n (Except ε Value)) (policy : BindingErrors)

mutual
/-- The document that a template stands for in a scope. -/
def expand (scope : Scope) : Value → ExceptT TemplateError n Value
  | .string s => do
    let text ← Binding.interpolate (evaluate scope) policy s
    pure (.string text)
  | .array items => do
    let vs ← expandItems scope items
    pure (.array vs)
  | .object members => object (evaluate scope) members (expandMembers scope [whenKey] members)
  | v => pure v

/-- The members of an object without its directives. -/
def expandMembers (scope : Scope) (directives : List String) :
    List (String × Value) → ExceptT TemplateError n (List (String × Value))
  | [] => pure []
  | (key, v) :: rest =>
    if directives.contains key then expandMembers scope directives rest
    else do
      let v ← expand scope v
      let rest ← expandMembers scope directives rest
      pure ((key, v) :: rest)

/-- What the elements of an array contribute, in order. -/
def expandItems (scope : Scope) : List Value → ExceptT TemplateError n (List Value)
  | [] => pure []
  | .object members :: items => do
    let vs ← element evaluate scope members (expandData scope members) fun scope =>
      expandMembers scope [whenKey, dataKey] members
    let rest ← expandItems scope items
    pure (vs ++ rest)
  | item :: items => do
    let v ← expand scope item
    let rest ← expandItems scope items
    pure (v :: rest)

/-- The data of an element: the value of an expression, null if it fails, or a template itself. -/
def expandData (scope : Scope) : List (String × Value) → ExceptT TemplateError n Value
  | [] => pure .null
  | (key, v) :: rest =>
    if key = dataKey then
      match v with
      | .string source => do
        match ← (evaluate scope (Binding.unwrap source) : n (Except ε Value)) with
        | .ok data => pure data
        | .error _ => pure .null
      | v => expand scope v
    else expandData scope rest
end

end DocTemplate.Document

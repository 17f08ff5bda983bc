import DocTemplate.Document.Expansion

/-!
# The parts of documents

What a document holds at any depth, and two things that an expansion looks at or leaves behind
there: the texts in which bindings are replaced, and the traces of directives.

## Main definitions

* `Value.IsPart` — what a value holds at any depth.
* `Document.scanned` — the texts of a template in which bindings are replaced.
* `Document.Finished` — a document without traces of directives.

## Main statements

* `Document.expandItems_of_kindName_ne`, `Document.expandData_of_not_isString` — where a part is
  expanded like any template.
* `Document.finished_array`, `Document.finished_object` — being finished goes by the elements and
  the members.
-/

namespace DocTemplate

/-- What a value holds at any depth, the value itself included. -/
inductive Value.IsPart : Value → Value → Prop
  | refl (v : Value) : IsPart v v
  | element {part v : Value} {items : List Value} (hv : v ∈ items) (h : IsPart part v) :
      IsPart part (.array items)
  | member {part v : Value} {key : String} {members : List (String × Value)}
      (hv : (key, v) ∈ members) (h : IsPart part v) : IsPart part (.object members)

section Parts

variable {part : Value}

theorem Value.isPart_array {items : List Value} :
    part.IsPart (.array items) ↔ part = .array items ∨ ∃ v ∈ items, part.IsPart v := by
  constructor
  · rintro (_ | ⟨hv, h⟩)
    · exact .inl rfl
    · exact .inr ⟨_, hv, h⟩
  · rintro (rfl | ⟨v, hv, h⟩)
    · exact .refl _
    · exact .element hv h

theorem Value.isPart_object {members : List (String × Value)} :
    part.IsPart (.object members) ↔
      part = .object members ∨ ∃ entry ∈ members, part.IsPart entry.2 := by
  constructor
  · rintro (_ | _ | ⟨hv, h⟩)
    · exact .inl rfl
    · exact .inr ⟨_, hv, h⟩
  · rintro (rfl | ⟨entry, hentry, h⟩)
    · exact .refl _
    · exact .member hentry h

/-- A value that is neither an array nor an object holds nothing but itself. -/
theorem Value.isPart_scalar {v : Value} (harray : v.kindName ≠ "array")
    (hobject : v.kindName ≠ "object") : part.IsPart v ↔ part = v := by
  constructor
  · rintro (_ | ⟨hv, h⟩ | ⟨hv, h⟩)
    · rfl
    · exact absurd rfl harray
    · exact absurd rfl hobject
  · rintro rfl
    exact .refl _

theorem Value.isPart_number {x : Double} : part.IsPart (.number x) ↔ part = .number x :=
  isPart_scalar (by simp [kindName]) (by simp [kindName])

theorem Value.isPart_string {s : String} : part.IsPart (.string s) ↔ part = .string s :=
  isPart_scalar (by simp [kindName]) (by simp [kindName])

end Parts

namespace Document

/-- The keys of the directives of an object, which may be an element of an array. -/
def directives (inArray : Bool) : List String :=
  if inArray then [whenKey, dataKey] else [whenKey]

@[simp] theorem whenKey_mem_directives (inArray : Bool) : whenKey ∈ directives inArray := by
  cases inArray <;> simp [directives]

@[simp] theorem dataKey_mem_directives : dataKey ∈ directives true := by
  simp [directives]

/-- Whether a member is a directive that is read as it stands: a condition, or the data of an
element if it is a text. -/
def isDirective (inArray : Bool) (key : String) (v : Value) : Bool :=
  key == whenKey || (inArray && key == dataKey && v.isString)

theorem mem_directives_of_isDirective {inArray : Bool} {key : String} {v : Value}
    (h : isDirective inArray key v) : key ∈ directives inArray := by
  simp only [isDirective, Bool.or_eq_true, Bool.and_eq_true, beq_iff_eq] at h
  obtain rfl | ⟨⟨rfl, rfl⟩, -⟩ := h
  · exact whenKey_mem_directives inArray
  · exact dataKey_mem_directives

mutual
/-- The texts of a template in which bindings are replaced, in order. -/
def scanned : Value → List String
  | .string s => [s]
  | .array items => scannedOfItems items
  | .object members => scannedOfMembers false members
  | _ => []

/-- The texts of the members of an object, which may be an element of an array. -/
def scannedOfMembers (inArray : Bool) : List (String × Value) → List String
  | [] => []
  | (key, v) :: rest =>
    (if isDirective inArray key v then [] else scanned v) ++ scannedOfMembers inArray rest

/-- The texts of the elements of an array. -/
def scannedOfItems : List Value → List String
  | [] => []
  | .object members :: items => scannedOfMembers true members ++ scannedOfItems items
  | item :: items => scanned item ++ scannedOfItems items
end

section Equations

variable {n : Type → Type} [Monad n] {ε : Type} {evaluate : Scope → String → n (Except ε Value)}
  {policy : BindingErrors} {scope : Scope} {v : Value}

/-- An element that is no object is expanded like any template. -/
theorem expandItems_of_kindName_ne (h : v.kindName ≠ "object") (items : List Value) :
    expandItems evaluate policy scope (v :: items) = (do
      let v ← expand evaluate policy scope v
      let rest ← expandItems evaluate policy scope items
      pure (v :: rest)) := by
  cases v with
  | object members => exact absurd rfl h
  | _ => rfl

/-- An element that is an object is expanded with its data and without its directives. -/
theorem expandItems_object (members : List (String × Value)) (items : List Value) :
    expandItems evaluate policy scope (.object members :: items) = (do
      let vs ← element evaluate scope members (expandData evaluate policy scope members)
        fun scope => expandMembers evaluate policy scope (directives true) members
      let rest ← expandItems evaluate policy scope items
      pure (vs ++ rest)) :=
  rfl

variable {key : String} {rest : List (String × Value)}

theorem expandData_of_ne (h : key ≠ dataKey) :
    expandData evaluate policy scope ((key, v) :: rest) =
      expandData evaluate policy scope rest := by
  cases v <;> exact if_neg h

/-- Data that is a text is the value of an expression, or null if there is none. -/
theorem expandData_string (source : String) :
    expandData evaluate policy scope ((dataKey, .string source) :: rest) = (do
      match ← (evaluate scope (Binding.unwrap source) : n (Except ε Value)) with
      | .ok data => pure data
      | .error _ => pure .null) :=
  if_pos rfl

/-- Data that is no text is expanded like any template. -/
theorem expandData_of_not_isString (h : v.isString = false) :
    expandData evaluate policy scope ((dataKey, v) :: rest) = expand evaluate policy scope v := by
  cases v with
  | string s => cases h
  | _ => exact if_pos rfl

end Equations

/-- An array has no empty object and no object with data for an element, and an object has no
condition. -/
def HasNoTrace : Value → Prop
  | .array items =>
    .object [] ∉ items ∧ ∀ members, .object members ∈ items → dataKey ∉ members.map Prod.fst
  | .object members => whenKey ∉ members.map Prod.fst
  | _ => True

/-- No part of a document has traces of directives. -/
def Finished (v : Value) : Prop :=
  ∀ part, part.IsPart v → HasNoTrace part

theorem finished_array {items : List Value} :
    Finished (.array items) ↔ HasNoTrace (.array items) ∧ ∀ v ∈ items, Finished v := by
  constructor
  · exact fun h => ⟨h _ (.refl _), fun v hv part hpart => h part (.element hv hpart)⟩
  · rintro ⟨hself, hitems⟩ part hpart
    cases hpart with
    | refl => exact hself
    | element hv h => exact hitems _ hv part h

theorem finished_object {members : List (String × Value)} :
    Finished (.object members) ↔
      HasNoTrace (.object members) ∧ ∀ entry ∈ members, Finished entry.2 := by
  constructor
  · exact fun h => ⟨h _ (.refl _), fun entry hentry part hpart => h part (.member hentry hpart)⟩
  · rintro ⟨hself, hmembers⟩ part hpart
    cases hpart with
    | refl => exact hself
    | member hv h => exact hmembers _ hv part h

/-- A value without parts of its own is finished. -/
theorem finished_scalar {v : Value} (harray : v.kindName ≠ "array")
    (hobject : v.kindName ≠ "object") : Finished v := by
  intro part hpart
  cases hpart with
  | refl =>
    cases v with
    | array items => exact absurd rfl harray
    | object members => exact absurd rfl hobject
    | _ => exact trivial
  | element => exact absurd rfl harray
  | member => exact absurd rfl hobject

end Document

end DocTemplate

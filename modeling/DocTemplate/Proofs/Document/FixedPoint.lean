import DocTemplate.Proofs.Document.Outcome

/-!
# Documents that expand to themselves

A template without directives, dropped elements and bindings has nothing to expand. It stands for
itself, whatever the scope, the policy and the functions are.

## Main definitions

* `Document.HasPlainTexts` — no binding starts in a text of a document.

## Main statements

* `Document.expand_eq_pure` — a finished document with plain texts expands to itself.
-/

namespace DocTemplate.Document

/-- No binding starts in the texts of a document, at any depth. -/
def HasPlainTexts (v : Value) : Prop :=
  ∀ text, (Value.string text).IsPart v → Binding.Plain text.toList

theorem hasPlainTexts_string {text : String} :
    HasPlainTexts (.string text) ↔ Binding.Plain text.toList := by
  constructor
  · exact fun h => h text (.refl _)
  · rintro h _ ⟨⟩
    exact h

theorem hasPlainTexts_array {items : List Value} :
    HasPlainTexts (.array items) ↔ ∀ v ∈ items, HasPlainTexts v := by
  constructor
  · exact fun h v hv text htext => h text (.element hv htext)
  · intro h text htext
    cases htext with
    | element hv htext => exact h _ hv text htext

theorem hasPlainTexts_object {members : List (String × Value)} :
    HasPlainTexts (.object members) ↔ ∀ entry ∈ members, HasPlainTexts entry.2 := by
  constructor
  · exact fun h entry hentry text htext => h text (.member hentry htext)
  · intro h text htext
    cases htext with
    | member hv htext => exact h _ hv text htext

theorem Finished.element {items : List Value} (h : Finished (.array items)) {v : Value}
    (hv : v ∈ items) : Finished v :=
  (finished_array.mp h).2 v hv

theorem Finished.member {members : List (String × Value)} (h : Finished (.object members))
    {entry : String × Value} (hentry : entry ∈ members) : Finished entry.2 :=
  (finished_object.mp h).2 entry hentry

theorem Finished.not_mem_keys {members : List (String × Value)} (h : Finished (.object members)) :
    whenKey ∉ members.map Prod.fst :=
  (finished_object.mp h).1

/-- An element of a finished array that is an object is not empty and has no directive. -/
theorem Finished.element_object {items : List Value} (h : Finished (.array items))
    {members : List (String × Value)} (hmembers : .object members ∈ items) :
    members ≠ [] ∧ ∀ entry ∈ members, entry.1 ∉ directives true := by
  obtain ⟨hempty, hdata⟩ := (finished_array.mp h).1
  have hwhen := (h.element hmembers).not_mem_keys
  refine ⟨?_, fun entry hentry => ?_⟩
  · rintro rfl
    exact hempty hmembers
  · have hkey : entry.1 ∈ members.map Prod.fst := List.mem_map_of_mem hentry
    simp only [directives, if_true, List.mem_cons, List.not_mem_nil, or_false]
    rintro (hk | hk)
    · exact hwhen (hk ▸ hkey)
    · exact hdata members hmembers (hk ▸ hkey)

theorem lookup_eq_none_of_not_mem {members : List (String × Value)} {key : String}
    (h : key ∉ members.map Prod.fst) : members.lookup key = none := by
  refine List.lookup_eq_none_iff.mpr fun entry hentry => ?_
  have hne : key ≠ entry.1 := fun heq => h (heq ▸ List.mem_map_of_mem hentry)
  simpa using hne

variable {n : Type → Type} [Monad n] [LawfulMonad n] {ε : Type}

section Objects

variable {members : List (String × Value)}
  {expanded : ExceptT TemplateError n (List (String × Value))}

/-- An object without a condition is there. -/
theorem object_eq_pure (evaluate : String → n (Except ε Value))
    (hwhen : whenKey ∉ members.map Prod.fst) (hexpanded : expanded = pure members) :
    object evaluate members expanded = pure (.object members) := by
  have hpresent : isPresent evaluate members = pure true := by
    rw [isPresent, lookup_eq_none_of_not_mem hwhen]
  apply ExceptT.ext
  rw [object, hpresent, hexpanded, ExceptT.run_bind, ExceptT.run_monadLift]
  simp

/-- An element without directives that is not empty contributes itself. -/
theorem element_eq_pure (evaluate : Scope → String → n (Except ε Value)) (scope : Scope)
    (data : ExceptT TemplateError n Value)
    {expanded : Scope → ExceptT TemplateError n (List (String × Value))} (hne : members ≠ [])
    (hkeys : ∀ entry ∈ members, entry.1 ∉ directives true)
    (hexpanded : expanded scope = pure members) :
    element evaluate scope members data expanded = pure [.object members] := by
  have hnot {key : String} (hkey : key ∈ directives true) : key ∉ members.map Prod.fst := by
    intro hmem
    obtain ⟨entry, hentry, rfl⟩ := List.mem_map.mp hmem
    exact hkeys entry hentry hkey
  have hdata : (members.lookup dataKey).isSome = false := by
    rw [lookup_eq_none_of_not_mem (hnot dataKey_mem_directives), Option.isSome_none]
  have hobject := object_eq_pure (evaluate scope) (hnot (whenKey_mem_directives true)) hexpanded
  have hkept : kept (.object members) = [.object members] := by
    cases members with
    | nil => exact absurd rfl hne
    | cons entry rest => rfl
  simp [element, hdata, hobject, hkept]

end Objects

variable (evaluate : Scope → String → n (Except ε Value)) (policy : BindingErrors) (scope : Scope)

theorem interpolate_eq_pure {text : String} (h : Binding.Plain text.toList) :
    Binding.interpolate (evaluate scope) policy text = pure text := by
  have hfill : (Binding.fill (evaluate scope) policy 0 text.toList).run = pure (.ok text.toList) :=
    Binding.run_fill_plain (Binding.cut?_opening_eq_none_iff.mpr h)
  apply ExceptT.ext
  rw [Binding.interpolate, ExceptT.run_bind, hfill]
  simp

mutual

/-- A finished document with plain texts expands to itself. -/
theorem expand_eq_pure (v : Value) (hfinished : Finished v) (hplain : HasPlainTexts v) :
    expand evaluate policy scope v = pure v := by
  cases v with
  | null | boolean | number => rfl
  | string text =>
    have htext := interpolate_eq_pure evaluate policy scope (hasPlainTexts_string.mp hplain)
    rw [expand, htext, pure_bind]
  | array items =>
    have hvalues : ∀ v ∈ items, Finished v ∧ HasPlainTexts v :=
      fun v hv => ⟨hfinished.element hv, hasPlainTexts_array.mp hplain v hv⟩
    rw [expand, expandItems_eq_pure items hvalues fun _ => hfinished.element_object, pure_bind]
  | object members =>
    have hkeys : ∀ entry ∈ members, entry.1 ∉ [whenKey] := by
      intro entry hentry hkey
      rw [List.mem_singleton] at hkey
      exact hfinished.not_mem_keys (hkey ▸ List.mem_map_of_mem hentry)
    rw [expand]
    exact object_eq_pure (evaluate scope) hfinished.not_mem_keys <|
      expandMembers_eq_pure members hkeys fun entry hentry =>
        ⟨hfinished.member hentry, hasPlainTexts_object.mp hplain entry hentry⟩

theorem expandMembers_eq_pure {directives : List String} (members : List (String × Value))
    (hkeys : ∀ entry ∈ members, entry.1 ∉ directives)
    (hvalues : ∀ entry ∈ members, Finished entry.2 ∧ HasPlainTexts entry.2) :
    expandMembers evaluate policy scope directives members = pure members := by
  cases members with
  | nil => rfl
  | cons entry rest =>
    obtain ⟨key, v⟩ := entry
    obtain ⟨hkey, hkeys⟩ := List.forall_mem_cons.mp hkeys
    obtain ⟨⟨hfinished, hplain⟩, hvalues⟩ := List.forall_mem_cons.mp hvalues
    have hv := expand_eq_pure v hfinished hplain
    have hrest := expandMembers_eq_pure rest hkeys hvalues
    simp only [expandMembers, List.contains_iff_mem, hkey, if_false, hv, hrest, pure_bind]

theorem expandItems_eq_pure (items : List Value)
    (hvalues : ∀ v ∈ items, Finished v ∧ HasPlainTexts v)
    (hobjects : ∀ members, .object members ∈ items →
      members ≠ [] ∧ ∀ entry ∈ members, entry.1 ∉ directives true) :
    expandItems evaluate policy scope items = pure items := by
  cases items with
  | nil => rfl
  | cons item items =>
    obtain ⟨⟨hfinished, hplain⟩, hvalues⟩ := List.forall_mem_cons.mp hvalues
    have hrest := expandItems_eq_pure items hvalues fun members hmembers =>
      hobjects members (List.mem_cons_of_mem _ hmembers)
    cases item with
    | object members =>
      obtain ⟨hne, hkeys⟩ := hobjects members List.mem_cons_self
      have hmembers := expandMembers_eq_pure members hkeys fun entry hentry =>
        ⟨hfinished.member hentry, hasPlainTexts_object.mp hplain entry hentry⟩
      rw [expandItems_object, element_eq_pure evaluate scope _ hne hkeys hmembers, hrest]
      simp
    | _ =>
      have hitem := expand_eq_pure _ hfinished hplain
      rw [expandItems_of_kindName_ne (by simp [Value.kindName]), hitem, hrest]
      simp

end

end DocTemplate.Document

import DocTemplate.Proofs.Binding.Outcome
import DocTemplate.Proofs.Document.Parts

/-!
# How an expansion can end

One description of all that an expansion can come to, whatever the expressions in the template do:
a finished document of the same kind as the template, or the error that the first opening of a
scanned text is not closed.

## Main definitions

* `Document.FailsIn` — the error is that an opening of one of some texts is not closed.

## Main statements

* `Document.ends_object`, `Document.ends_element` — how the objects and the elements of an array end
  if their members do.
* `Document.ends_expand` — how an expansion ends.
-/

namespace DocTemplate.Document

variable {n : Type → Type} [Monad n] [LawfulMonad n] {ε δ : Type}

/-- The error is that the first opening of one of some texts is not closed. -/
def FailsIn (texts : List String) (error : TemplateError) : Prop :=
  ∃ text ∈ texts, ∃ position, Binding.UnclosedAt text position ∧ error = .unmatchedBrace position

theorem ends_of_subset {α : Type} {done : α → Prop} {x : ExceptT TemplateError n α}
    {texts more : List String} (hx : Ends done (FailsIn texts) x) (h : texts ⊆ more) :
    Ends done (FailsIn more) x := by
  refine hx.imp (fun _ hdone => hdone) fun error hfails => ?_
  obtain ⟨text, htext, hunclosed⟩ := hfails
  exact ⟨text, h htext, hunclosed⟩

section Elements

variable {failed : TemplateError → Prop}

theorem eq_of_mem_kept {v w : Value} (h : w ∈ kept v) : w = v ∧ isEmptyObject w = false := by
  unfold kept at h
  split at h
  · cases h
  · rename_i hv
    obtain rfl := List.mem_singleton.mp h
    exact ⟨rfl, by simpa using hv⟩

/-- An object is empty or has the expanded members. -/
theorem ends_object {P : List (String × Value) → Prop}
    (evaluate : String → n (Except ε Value)) (members : List (String × Value))
    {expanded : ExceptT TemplateError n (List (String × Value))} (hempty : P [])
    (h : Ends P failed expanded) :
    Ends (fun v => ∃ ms, v = .object ms ∧ P ms) failed (object evaluate members expanded) := by
  unfold object
  refine (ends_lift _).bind fun present _ => ?_
  cases present with
  | true => exact h.bind fun ms hms => ends_pure ⟨ms, rfl, hms⟩
  | false => exact ends_pure ⟨[], rfl, hempty⟩

/-- What is left of an object that is dropped if it is empty. -/
def IsElementOf (P : List (String × Value) → Prop) (v : Value) : Prop :=
  ∃ ms, v = .object ms ∧ ms ≠ [] ∧ P ms

theorem isElementOf_of_mem_kept {P : List (String × Value) → Prop} {v w : Value}
    (hv : ∃ ms, v = .object ms ∧ P ms) (hw : w ∈ kept v) : IsElementOf P w := by
  obtain ⟨rfl, hnonempty⟩ := eq_of_mem_kept hw
  obtain ⟨ms, rfl, hms⟩ := hv
  exact ⟨ms, rfl, by rintro rfl; simp [isEmptyObject] at hnonempty, hms⟩

theorem ends_forRows {P : List (String × Value) → Prop}
    {element : Value → Nat → ExceptT TemplateError n Value}
    (h : ∀ row i, Ends (fun v => ∃ ms, v = .object ms ∧ P ms) failed (element row i))
    (first : Nat) (rows : List Value) :
    Ends (fun vs => ∀ v ∈ vs, IsElementOf P v) failed (forRows element first rows) := by
  induction rows generalizing first with
  | nil => exact ends_pure (by simp)
  | cons row rows ih =>
    refine (h row first).bind fun v hv => (ih (first + 1)).bind fun vs hvs => ends_pure ?_
    intro w hw
    obtain hw | hw := List.mem_append.mp hw
    · exact isElementOf_of_mem_kept hv hw
    · exact hvs w hw

/-- Whatever its data is, an element contributes objects that are not empty. -/
theorem ends_element {P : List (String × Value) → Prop}
    (evaluate : Scope → String → n (Except ε Value)) (scope : Scope)
    (members : List (String × Value)) {data : ExceptT TemplateError n Value}
    {expanded : Scope → ExceptT TemplateError n (List (String × Value))} (hempty : P [])
    (hdata : Ends (fun _ => True) failed data) (h : ∀ scope, Ends P failed (expanded scope)) :
    Ends (fun vs => ∀ v ∈ vs, IsElementOf P v) failed
      (element evaluate scope members data expanded) := by
  have hobject (scope : Scope) := ends_object (evaluate scope) members hempty (h scope)
  have honce (scope : Scope) : Ends (fun vs => ∀ v ∈ vs, IsElementOf P v) failed (do
      let result ← object (evaluate scope) members (expanded scope)
      pure (kept result)) :=
    (hobject scope).bind fun v hv => ends_pure fun w hw => isElementOf_of_mem_kept hv hw
  unfold element
  split
  · refine hdata.bind fun v _ => ?_
    cases v with
    | array rows => exact ends_forRows (fun row i => hobject (scope.row row i)) 0 rows
    | null => exact ends_pure (by simp)
    | _ => exact honce _
  · exact honce scope

end Elements

variable (evaluate : Scope → String → n (Except ε Value)) (policy : BindingErrors)

/-- The members of an expanded object are finished and are no directives. -/
def FinishedMembers (inArray : Bool) (members : List (String × Value)) : Prop :=
  ∀ entry ∈ members, entry.1 ∉ directives inArray ∧ Finished entry.2

theorem finished_of_finishedMembers {inArray : Bool} {members : List (String × Value)}
    (h : FinishedMembers inArray members) : Finished (.object members) := by
  refine finished_object.mpr ⟨?_, fun entry hentry => (h entry hentry).2⟩
  intro hkey
  obtain ⟨entry, hentry, hwhen⟩ := List.mem_map.mp hkey
  exact (h entry hentry).1 (hwhen ▸ whenKey_mem_directives inArray)

/-- What an expanded array may hold: something finished that is not dropped and has no data. -/
def FinishedElement (v : Value) : Prop :=
  Finished v ∧ ∀ members, v = .object members → members ≠ [] ∧ dataKey ∉ members.map Prod.fst

theorem finished_of_finishedElements {items : List Value} (h : ∀ v ∈ items, FinishedElement v) :
    Finished (.array items) := by
  refine finished_array.mpr ⟨⟨fun hmem => ?_, fun members hmem => ?_⟩, fun v hv => (h v hv).1⟩
  · exact ((h _ hmem).2 [] rfl).1 rfl
  · exact ((h _ hmem).2 members rfl).2

theorem finishedElement_of_isElementOf {v : Value} (h : IsElementOf (FinishedMembers true) v) :
    FinishedElement v := by
  obtain ⟨ms, rfl, hne, hms⟩ := h
  refine ⟨finished_of_finishedMembers hms, ?_⟩
  rintro _ ⟨⟩
  refine ⟨hne, fun hkey => ?_⟩
  obtain ⟨entry, hentry, hdata⟩ := List.mem_map.mp hkey
  exact (hms entry hentry).1 (hdata ▸ dataKey_mem_directives)

theorem finishedElement_of_kindName {v w : Value} (hw : Finished w)
    (hkind : w.kindName = v.kindName) (hv : v.kindName ≠ "object") : FinishedElement w := by
  refine ⟨hw, ?_⟩
  rintro members rfl
  exact absurd hkind.symm hv

mutual

/-- An expansion ends with a finished document of the same kind, or with the error that an opening
of a scanned text is not closed. -/
theorem ends_expand (scope : Scope) (v : Value) :
    Ends (fun w => Finished w ∧ w.kindName = v.kindName) (FailsIn (scanned v))
      (expand evaluate policy scope v) := by
  cases v with
  | string s =>
    refine Ends.bind ((Binding.ends_interpolate (evaluate scope) policy s).imp (fun _ h => h) ?_)
      fun text _ => ends_pure ⟨finished_scalar (by simp [Value.kindName])
        (by simp [Value.kindName]), rfl⟩
    exact fun error ⟨position, hunclosed, herror⟩ =>
      ⟨s, by simp [scanned], position, hunclosed, herror⟩
  | array items =>
    exact (ends_expandItems scope items).bind fun vs hvs =>
      ends_pure ⟨finished_of_finishedElements hvs, rfl⟩
  | object members =>
    refine (ends_object (evaluate scope) members (by simp [FinishedMembers])
      (ends_expandMembers scope false members)).imp ?_ fun _ h => h
    rintro w ⟨ms, rfl, hms⟩
    exact ⟨finished_of_finishedMembers hms, rfl⟩
  | null | boolean | number =>
    exact ends_pure ⟨finished_scalar (by simp [Value.kindName]) (by simp [Value.kindName]), rfl⟩

theorem ends_expandMembers (scope : Scope) (inArray : Bool) (members : List (String × Value)) :
    Ends (FinishedMembers inArray) (FailsIn (scannedOfMembers inArray members))
      (expandMembers evaluate policy scope (directives inArray) members) := by
  cases members with
  | nil => exact ends_pure (by simp [FinishedMembers])
  | cons entry rest =>
    obtain ⟨key, v⟩ := entry
    have hrest : Ends (FinishedMembers inArray)
        (FailsIn (scannedOfMembers inArray ((key, v) :: rest)))
        (expandMembers evaluate policy scope (directives inArray) rest) :=
      ends_of_subset (ends_expandMembers scope inArray rest) (by simp [scannedOfMembers])
    by_cases hkey : key ∈ directives inArray
    · simpa [expandMembers, hkey] using hrest
    · have hv : Ends (fun w => Finished w ∧ w.kindName = v.kindName)
          (FailsIn (scannedOfMembers inArray ((key, v) :: rest)))
          (expand evaluate policy scope v) :=
        ends_of_subset (ends_expand scope v)
          (by simp [scannedOfMembers, mt mem_directives_of_isDirective hkey])
      simp only [expandMembers, List.contains_iff_mem, hkey, if_false]
      refine hv.bind fun w hw => hrest.bind fun ms hms => ends_pure ?_
      exact List.forall_mem_cons.mpr ⟨⟨hkey, hw.1⟩, hms⟩

theorem ends_expandItems (scope : Scope) (items : List Value) :
    Ends (fun vs => ∀ v ∈ vs, FinishedElement v) (FailsIn (scannedOfItems items))
      (expandItems evaluate policy scope items) := by
  cases items with
  | nil => exact ends_pure (by simp)
  | cons item items =>
    have hrest := ends_expandItems scope items
    cases item with
    | object members =>
      have helement := ends_element evaluate scope members
        (by simp [FinishedMembers]) (ends_expandData scope members)
        fun scope => ends_expandMembers scope true members
      refine (ends_of_subset helement (by simp [scannedOfItems])).bind fun vs hvs =>
        (ends_of_subset hrest (by simp [scannedOfItems])).bind fun rest hrest => ends_pure ?_
      intro w hw
      obtain hw | hw := List.mem_append.mp hw
      · exact finishedElement_of_isElementOf (hvs w hw)
      · exact hrest w hw
    | _ =>
      refine (ends_of_subset (ends_expand scope _) (by simp [scannedOfItems])).bind fun w hw =>
        (ends_of_subset hrest (by simp [scannedOfItems])).bind fun rest hrest =>
          ends_pure (List.forall_mem_cons.mpr ⟨?_, hrest⟩)
      exact finishedElement_of_kindName hw.1 hw.2 (by simp [Value.kindName])

theorem ends_expandData (scope : Scope) (members : List (String × Value)) :
    Ends (fun _ => True) (FailsIn (scannedOfMembers true members))
      (expandData evaluate policy scope members) := by
  cases members with
  | nil => exact ends_pure trivial
  | cons entry rest =>
    obtain ⟨key, v⟩ := entry
    by_cases hkey : key = dataKey
    · subst hkey
      obtain ⟨source, rfl⟩ | hstring : (∃ source, v = .string source) ∨ v.isString = false := by
        cases v <;> simp [Value.isString]
      · rw [expandData_string]
        refine (ends_lift _).bind fun result _ => ?_
        cases result <;> exact ends_pure trivial
      · rw [expandData_of_not_isString hstring]
        have hdirective : isDirective true dataKey v = false := by
          simp [isDirective, hstring, whenKey, dataKey]
        refine (ends_of_subset (ends_expand scope v) ?_).imp (fun _ _ => trivial) fun _ h => h
        simp [scannedOfMembers, hdirective]
    · rw [expandData_of_ne hkey]
      exact ends_of_subset (ends_expandData scope rest) (by simp [scannedOfMembers])

end

end DocTemplate.Document

import DocTemplate.Proofs.Document.Parts

/-!
# Templates that differ in their texts

Two templates of the same shape whose texts and directives may be written differently expand to the
same document, if the texts that stand in the same place come to the same.

## Main definitions

* `Coupling` — a relation between computations that is kept by doing one thing after another.
* `Document.Corresponds` — templates of the same shape, with texts that are related.
* `Document.Comparison` — what has to be known of the texts.

## Main statements

* `Document.Comparison.relRun_expand` — corresponding templates have related expansions.
-/

namespace DocTemplate

/-- A relation between computations that is kept by doing one thing after another. -/
structure Coupling (n n' : Type → Type) [Monad n] [Monad n'] where
  Rel : {α : Type} → n α → n' α → Prop
  pure_rel : ∀ {α : Type} (a : α), Rel (pure a) (pure a)
  map_rel : ∀ {α β : Type} {x : n α} {y : n' α} (f : α → β), Rel x y → Rel (f <$> x) (f <$> y)
  bind_rel : ∀ {α β : Type} {x : n α} {y : n' α} {f : α → n β} {g : α → n' β},
    Rel x y → (∀ a, Rel (f a) (g a)) → Rel (x >>= f) (y >>= g)

namespace Coupling

variable {n n' : Type → Type} [Monad n] [Monad n'] (c : Coupling n n') {α β δ : Type}

/-- Computations that may fail are related as what they come to, failures included. -/
def RelRun (x : ExceptT δ n α) (y : ExceptT δ n' α) : Prop :=
  c.Rel x.run y.run

theorem relRun_pure (a : α) : c.RelRun (pure a : ExceptT δ n α) (pure a) := by
  rw [RelRun, ExceptT.run_pure, ExceptT.run_pure]
  exact c.pure_rel _

variable {c}

theorem RelRun.bind {x : ExceptT δ n α} {y : ExceptT δ n' α} {f : α → ExceptT δ n β}
    {g : α → ExceptT δ n' β} (h : c.RelRun x y) (hf : ∀ a, c.RelRun (f a) (g a)) :
    c.RelRun (x >>= f) (y >>= g) := by
  rw [RelRun, ExceptT.run_bind, ExceptT.run_bind]
  refine c.bind_rel h fun r => ?_
  cases r with
  | ok a => exact hf a
  | error error => exact c.pure_rel _

theorem relRun_lift {x : n α} {y : n' α} (h : c.Rel x y) :
    c.RelRun (ExceptT.lift x : ExceptT δ n α) (ExceptT.lift y) := by
  rw [RelRun, ExceptT.run_lift, ExceptT.run_lift]
  exact c.map_rel Except.ok h

end Coupling

namespace Document

section Shapes

variable (T D : String → String → Prop)

mutual
/-- Two templates are the same but for texts, which are related by `T`, and for texts of directives,
which are related by `D`. -/
inductive Corresponds : Value → Value → Prop
  | null : Corresponds .null .null
  | boolean (b : Bool) : Corresponds (.boolean b) (.boolean b)
  | number (x : Double) : Corresponds (.number x) (.number x)
  | string {s t : String} (h : T s t) : Corresponds (.string s) (.string t)
  | array {items items' : List Value} (h : CorrespondingItems items items') :
      Corresponds (.array items) (.array items')
  | object {members members' : List (String × Value)}
      (h : CorrespondingMembers false members members') :
      Corresponds (.object members) (.object members')

/-- The elements of two arrays correspond. -/
inductive CorrespondingItems : List Value → List Value → Prop
  | nil : CorrespondingItems [] []
  | element {members members' : List (String × Value)} {items items' : List Value}
      (h : CorrespondingMembers true members members') (hrest : CorrespondingItems items items') :
      CorrespondingItems (.object members :: items) (.object members' :: items')
  | item {v v' : Value} {items items' : List Value} (hobject : v.kindName ≠ "object")
      (hv : Corresponds v v') (hrest : CorrespondingItems items items') :
      CorrespondingItems (v :: items) (v' :: items')

/-- The members of two objects, which may be elements of arrays, correspond. -/
inductive CorrespondingMembers : Bool → List (String × Value) → List (String × Value) → Prop
  | nil {inArray : Bool} : CorrespondingMembers inArray [] []
  | member {inArray : Bool} {key : String} {v v' : Value} {rest rest' : List (String × Value)}
      (hkey : key ∉ directives inArray) (hv : Corresponds v v')
      (hrest : CorrespondingMembers inArray rest rest') :
      CorrespondingMembers inArray ((key, v) :: rest) ((key, v') :: rest')
  | directive {inArray : Bool} {key : String} {s t : String} {rest rest' : List (String × Value)}
      (hkey : key ∈ directives inArray) (h : D s t)
      (hrest : CorrespondingMembers inArray rest rest') :
      CorrespondingMembers inArray ((key, .string s) :: rest) ((key, .string t) :: rest')
  | inline {inArray : Bool} {key : String} {v v' : Value} {rest rest' : List (String × Value)}
      (hkey : key ∈ directives inArray) (hstring : v.isString = false) (hv : Corresponds v v')
      (hrest : CorrespondingMembers inArray rest rest') :
      CorrespondingMembers inArray ((key, v) :: rest) ((key, v') :: rest')
end

end Shapes

variable {n n' : Type → Type} [Monad n] [Monad n'] {ε : Type}

/-- What has to be known of the ways in which the texts of two templates are evaluated, in scopes
that are related by `S`, to compare the templates. -/
structure Comparison (c : Coupling n n') (S : Scope → Scope → Prop) (T D : String → String → Prop)
    (evaluate : Scope → String → n (Except ε Value))
    (evaluate' : Scope → String → n' (Except ε Value)) (policy : BindingErrors) : Prop where
  row : ∀ {scope scope'}, S scope scope' → ∀ v i, S (scope.row v i) (scope'.row v i)
  enter : ∀ {scope scope'}, S scope scope' → ∀ v, S (scope.enter v) (scope'.enter v)
  text : ∀ {scope scope'}, S scope scope' → ∀ {s t}, T s t →
    c.Rel (Binding.interpolate (evaluate scope) policy s).run
      (Binding.interpolate (evaluate' scope') policy t).run
  directive : ∀ {scope scope'}, S scope scope' → ∀ {s t}, D s t →
    c.Rel (evaluate scope (Binding.unwrap s)) (evaluate' scope' (Binding.unwrap t))

variable {c : Coupling n n'} {S : Scope → Scope → Prop} {T D : String → String → Prop}
  {evaluate : Scope → String → n (Except ε Value)}
  {evaluate' : Scope → String → n' (Except ε Value)} {policy : BindingErrors}

theorem Corresponds.toBool_eq {v v' : Value} (h : Corresponds T D v v')
    (hstring : v.isString = false) : v.toBool = v'.toBool := by
  cases h with
  | null | boolean | number => rfl
  | string h => cases hstring
  | array h => cases h <;> rfl
  | object h => cases h <;> rfl

/-- What corresponding members have under the key of a directive. -/
theorem CorrespondingMembers.lookup {inArray : Bool} {key : String}
    {members members' : List (String × Value)}
    (h : CorrespondingMembers T D inArray members members')
    (hkey : key ∈ directives inArray) :
    (members.lookup key = none ∧ members'.lookup key = none) ∨
    (∃ s t, D s t ∧ members.lookup key = some (.string s) ∧
      members'.lookup key = some (.string t)) ∨
    ∃ v v', v.isString = false ∧ Corresponds T D v v' ∧ members.lookup key = some v ∧
      members'.lookup key = some v' := by
  induction members generalizing members' with
  | nil =>
    cases h
    exact .inl ⟨rfl, rfl⟩
  | cons entry members ih =>
    obtain ⟨k, v⟩ := entry
    cases h with
    | member hmember hv hrest =>
      have hne : key ≠ k := fun heq => hmember (heq ▸ hkey)
      simpa only [List.lookup_cons, beq_eq_false_iff_ne.mpr hne] using ih hrest
    | directive hdirective hst hrest =>
      by_cases hk : key = k
      · subst hk
        exact .inr (.inl ⟨_, _, hst, List.lookup_cons_self, List.lookup_cons_self⟩)
      · simpa only [List.lookup_cons, beq_eq_false_iff_ne.mpr hk] using ih hrest
    | inline hinline hstring hv hrest =>
      by_cases hk : key = k
      · subst hk
        exact .inr (.inr ⟨_, _, hstring, hv, List.lookup_cons_self, List.lookup_cons_self⟩)
      · simpa only [List.lookup_cons, beq_eq_false_iff_ne.mpr hk] using ih hrest

theorem holds_of_not_isString {v : Value} (hv : v.isString = false)
    (evaluate : String → n (Except ε Value)) : holds evaluate v = pure v.toBool := by
  cases v with
  | string s => cases hv
  | _ => rfl

theorem Corresponds.isString_eq {v v' : Value} (h : Corresponds T D v v') :
    v.isString = v'.isString := by
  cases h <;> rfl

theorem Corresponds.kindName_eq {v v' : Value} (h : Corresponds T D v v') :
    v.kindName = v'.kindName := by
  cases h <;> rfl

namespace Comparison

theorem rel_isPresent (h : Comparison c S T D evaluate evaluate' policy) {scope scope' : Scope}
    (hs : S scope scope') {inArray : Bool} {members members' : List (String × Value)}
    (hmembers : CorrespondingMembers T D inArray members members') :
    c.Rel (isPresent (evaluate scope) members) (isPresent (evaluate' scope') members') := by
  unfold isPresent
  obtain ⟨hl, hl'⟩ | ⟨s, t, hst, hl, hl'⟩ | ⟨v, v', hstring, hv, hl, hl'⟩ :=
    hmembers.lookup (whenKey_mem_directives inArray)
  · rw [hl, hl']
    exact c.pure_rel true
  · rw [hl, hl']
    refine c.bind_rel (h.directive hs hst) fun r => ?_
    cases r <;> exact c.pure_rel _
  · simp only [hl, hl', holds_of_not_isString hstring,
      holds_of_not_isString (hv.isString_eq ▸ hstring), hv.toBool_eq hstring]
    exact c.pure_rel _

theorem relRun_forRows {element : Value → Nat → ExceptT TemplateError n Value}
    {element' : Value → Nat → ExceptT TemplateError n' Value}
    (h : ∀ row i, c.RelRun (element row i) (element' row i)) (first : Nat) (rows : List Value) :
    c.RelRun (forRows element first rows) (forRows element' first rows) := by
  induction rows generalizing first with
  | nil => exact c.relRun_pure _
  | cons row rows ih =>
    exact (h row first).bind fun v => (ih (first + 1)).bind fun vs => c.relRun_pure _

theorem relRun_object (h : Comparison c S T D evaluate evaluate' policy) {scope scope' : Scope}
    (hs : S scope scope') {inArray : Bool} {members members' : List (String × Value)}
    (hmembers : CorrespondingMembers T D inArray members members')
    {expanded : ExceptT TemplateError n (List (String × Value))}
    {expanded' : ExceptT TemplateError n' (List (String × Value))}
    (hexpanded : c.RelRun expanded expanded') :
    c.RelRun (object (evaluate scope) members expanded)
      (object (evaluate' scope') members' expanded') := by
  refine Coupling.RelRun.bind (Coupling.relRun_lift (h.rel_isPresent hs hmembers)) fun present => ?_
  cases present with
  | true => exact hexpanded.bind fun ms => c.relRun_pure _
  | false => exact c.relRun_pure _

theorem relRun_element (h : Comparison c S T D evaluate evaluate' policy) {scope scope' : Scope}
    (hs : S scope scope') {members members' : List (String × Value)}
    (hmembers : CorrespondingMembers T D true members members')
    {data : ExceptT TemplateError n Value} {data' : ExceptT TemplateError n' Value}
    (hdata : c.RelRun data data')
    {expanded : Scope → ExceptT TemplateError n (List (String × Value))}
    {expanded' : Scope → ExceptT TemplateError n' (List (String × Value))}
    (hexpanded : ∀ {s s'}, S s s' → c.RelRun (expanded s) (expanded' s')) :
    c.RelRun (element evaluate scope members data expanded)
      (element evaluate' scope' members' data' expanded') := by
  have hobject {s s' : Scope} (hss : S s s') := h.relRun_object hss hmembers (hexpanded hss)
  have honce {s s' : Scope} (hss : S s s') :=
    (hobject hss).bind fun v => c.relRun_pure (kept v)
  have hsome : (members.lookup dataKey).isSome = (members'.lookup dataKey).isSome := by
    obtain ⟨hl, hl'⟩ | ⟨s, t, -, hl, hl'⟩ | ⟨v, v', -, -, hl, hl'⟩ :=
      hmembers.lookup dataKey_mem_directives
    all_goals simp [hl, hl']
  unfold element
  rw [hsome]
  split
  · refine hdata.bind fun v => ?_
    cases v with
    | array rows => exact relRun_forRows (fun row i => hobject (h.row hs row i)) 0 rows
    | null => exact c.relRun_pure _
    | _ => exact honce (h.enter hs _)
  · exact honce hs

-- The members of an element are read twice, for its data and for what is expanded, so that the
-- recursion goes by the size of the template and not by the derivation.
mutual

/-- Corresponding templates have related expansions. -/
theorem relRun_expand (h : Comparison c S T D evaluate evaluate' policy) {scope scope' : Scope}
    (hs : S scope scope') {v v' : Value} (hv : Corresponds T D v v') :
    c.RelRun (expand evaluate policy scope v) (expand evaluate' policy scope' v') := by
  cases hv with
  | null | boolean | number => exact c.relRun_pure _
  | string hst => exact Coupling.RelRun.bind (h.text hs hst) fun text => c.relRun_pure _
  | array hitems => exact (relRun_expandItems h hs hitems).bind fun vs => c.relRun_pure _
  | object hmembers => exact h.relRun_object hs hmembers (relRun_expandMembers h hs hmembers)
termination_by sizeOf v

theorem relRun_expandItems (h : Comparison c S T D evaluate evaluate' policy)
    {scope scope' : Scope} (hs : S scope scope') {items items' : List Value}
    (hitems : CorrespondingItems T D items items') :
    c.RelRun (expandItems evaluate policy scope items)
      (expandItems evaluate' policy scope' items') := by
  cases hitems with
  | nil => exact c.relRun_pure _
  | element hmembers hrest =>
    have hdata := relRun_expandData h hs hmembers dataKey_mem_directives
    have helement := h.relRun_element hs hmembers hdata
      fun hss => relRun_expandMembers h hss hmembers
    exact helement.bind fun vs => (relRun_expandItems h hs hrest).bind fun rest => c.relRun_pure _
  | item hobject hv hrest =>
    rw [expandItems_of_kindName_ne hobject, expandItems_of_kindName_ne (hv.kindName_eq ▸ hobject)]
    exact (relRun_expand h hs hv).bind fun w =>
      (relRun_expandItems h hs hrest).bind fun rest => c.relRun_pure _
termination_by sizeOf items

theorem relRun_expandMembers (h : Comparison c S T D evaluate evaluate' policy)
    {scope scope' : Scope} (hs : S scope scope') {inArray : Bool}
    {members members' : List (String × Value)}
    (hmembers : CorrespondingMembers T D inArray members members') :
    c.RelRun (expandMembers evaluate policy scope (directives inArray) members)
      (expandMembers evaluate' policy scope' (directives inArray) members') := by
  cases hmembers with
  | nil => exact c.relRun_pure _
  | member hkey hv hrest =>
    simp only [expandMembers, List.contains_iff_mem, hkey, if_false]
    exact (relRun_expand h hs hv).bind fun w =>
      (relRun_expandMembers h hs hrest).bind fun ms => c.relRun_pure _
  | directive hkey _ hrest | inline hkey _ _ hrest =>
    simp only [expandMembers, List.contains_iff_mem, hkey, if_true]
    exact relRun_expandMembers h hs hrest
termination_by sizeOf members

theorem relRun_expandData (h : Comparison c S T D evaluate evaluate' policy)
    {scope scope' : Scope} (hs : S scope scope') {inArray : Bool}
    {members members' : List (String × Value)}
    (hmembers : CorrespondingMembers T D inArray members members')
    (hdata : dataKey ∈ directives inArray) :
    c.RelRun (expandData evaluate policy scope members)
      (expandData evaluate' policy scope' members') := by
  cases hmembers with
  | nil => exact c.relRun_pure _
  | @member _ key v v' rest rest' hkey hv hrest =>
    have hne : key ≠ dataKey := fun heq => hkey (heq ▸ hdata)
    rw [expandData_of_ne hne, expandData_of_ne hne]
    exact relRun_expandData h hs hrest hdata
  | @directive _ key s t rest rest' hkey hst hrest =>
    by_cases hk : key = dataKey
    · rw [hk, expandData_string, expandData_string]
      refine Coupling.RelRun.bind (Coupling.relRun_lift (h.directive hs hst)) fun r => ?_
      cases r <;> exact c.relRun_pure _
    · rw [expandData_of_ne hk, expandData_of_ne hk]
      exact relRun_expandData h hs hrest hdata
  | @inline _ key v v' rest rest' hkey hstring hv hrest =>
    by_cases hk : key = dataKey
    · rw [hk, expandData_of_not_isString hstring,
        expandData_of_not_isString (hv.isString_eq ▸ hstring)]
      exact relRun_expand h hs hv
    · rw [expandData_of_ne hk, expandData_of_ne hk]
      exact relRun_expandData h hs hrest hdata
termination_by sizeOf members

end

end Comparison

end Document

end DocTemplate

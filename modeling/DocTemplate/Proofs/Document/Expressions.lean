import DocTemplate.Proofs.Binding.Interpolation
import DocTemplate.Proofs.Document.Correspondence

/-!
# The expressions of a template

Expressions stand in two places of a template: in the bindings of its texts, and in its directives,
where they may be wrapped as a binding. An expansion evaluates no other text.

## Main definitions

* `Binding.HasBody` — a text has a binding with a body.
* `Document.HasExpression` — an expression stands in a template.
* `Document.SameText`, `Document.SameDirective` — texts that are the same, with a property of their
  expressions.

## Main statements

* `Binding.rel_interpolate` — interpolations are related if the bodies of the text are.
* `Document.corresponds_self` — what holds for the expressions of a template holds in each of its
  texts and directives.
-/

namespace DocTemplate

theorem Coupling.rel_mapM {n n' : Type → Type} [Monad n] [Monad n'] [LawfulMonad n]
    [LawfulMonad n'] (c : Coupling n n') {α β : Type} {f : α → n β} {g : α → n' β} {l : List α}
    (h : ∀ a ∈ l, c.Rel (f a) (g a)) : c.Rel (l.mapM f) (l.mapM g) := by
  induction l with
  | nil =>
    rw [List.mapM_nil, List.mapM_nil]
    exact c.pure_rel []
  | cons a l ih =>
    obtain ⟨ha, hl⟩ := List.forall_mem_cons.mp h
    rw [List.mapM_cons, List.mapM_cons]
    refine c.bind_rel ha fun b => c.bind_rel (ih hl) fun bs => ?_
    exact c.pure_rel (b :: bs)

namespace Binding

/-- A text has a binding with a body. -/
def HasBody (text body : String) : Prop :=
  ∃ d : Decomposition, d.text = text.toList ∧ ∃ s ∈ d.spans, String.ofList s.body = body

theorem hasBody_iff {text body : String} {d : Decomposition} (h : d.text = text.toList) :
    HasBody text body ↔ ∃ s ∈ d.spans, String.ofList s.body = body := by
  constructor
  · rintro ⟨d', h', hbody⟩
    obtain rfl := Decomposition.text_injective (h'.trans h.symm)
    exact hbody
  · exact fun hbody => ⟨d, h, hbody⟩

variable {n n' : Type → Type} [Monad n] [Monad n'] [LawfulMonad n] [LawfulMonad n'] {ε : Type}

/-- Interpolations are related if the values of the bodies of the text are. -/
theorem rel_interpolate (c : Coupling n n') {evaluate : String → n (Except ε Value)}
    {evaluate' : String → n' (Except ε Value)} (policy : BindingErrors) {text : String}
    (h : ∀ body, HasBody text body → c.Rel (evaluate body) (evaluate' body)) :
    c.Rel (interpolate evaluate policy text).run (interpolate evaluate' policy text).run := by
  obtain ⟨d, hd⟩ := Decomposition.exists_text_eq text.toList
  have hspans : ∀ s ∈ d.spans, c.Rel (s.filled policy <$> evaluate (String.ofList s.body))
      (s.filled policy <$> evaluate' (String.ofList s.body)) :=
    fun s hs => c.map_rel _ (h _ ((hasBody_iff hd).mpr ⟨s, hs, rfl⟩))
  rw [interpolate_eq_interpolated hd, interpolate_eq_interpolated hd]
  refine Coupling.RelRun.bind (Coupling.relRun_lift (c.rel_mapM hspans)) fun pieces => ?_
  cases d.unclosed with
  | none => exact c.relRun_pure _
  | some tail => exact c.pure_rel _

end Binding

namespace Document

/-- An expression stands in a template, which may be an element of an array: it is the body of a
binding or a directive. -/
inductive HasExpression : (inArray : Bool) → Value → String → Prop
  | body {inArray : Bool} {text body : String} (h : Binding.HasBody text body) :
      HasExpression inArray (.string text) body
  | directive {inArray : Bool} {key text : String} {members : List (String × Value)}
      (hkey : key ∈ directives inArray) (hmember : (key, .string text) ∈ members) :
      HasExpression inArray (.object members) (Binding.unwrap text)
  | member {inArray : Bool} {key : String} {v : Value} {members : List (String × Value)}
      {source : String} (hmember : (key, v) ∈ members)
      (hdirective : key ∉ directives inArray ∨ v.isString = false)
      (h : HasExpression false v source) : HasExpression inArray (.object members) source
  | element {inArray : Bool} {v : Value} {items : List Value} {source : String}
      (hv : v ∈ items) (h : HasExpression true v source) :
      HasExpression inArray (.array items) source

/-- Only for an object it matters whether it is an element of an array. -/
theorem HasExpression.of_kindName_ne {inArray inArray' : Bool} {v : Value} {source : String}
    (h : HasExpression inArray v source) (hobject : v.kindName ≠ "object") :
    HasExpression inArray' v source := by
  cases h with
  | body hbody => exact .body hbody
  | element hv h => exact .element hv h
  | directive | member => exact absurd rfl hobject

/-- Two texts are the same, and the bodies of their bindings have a property. -/
def SameText (P : String → Prop) (s t : String) : Prop :=
  s = t ∧ ∀ body, Binding.HasBody s body → P body

/-- Two directives are the same, and their expression has a property. -/
def SameDirective (P : String → Prop) (s t : String) : Prop :=
  s = t ∧ P (Binding.unwrap s)

variable {P : String → Prop}

mutual

/-- What holds for the expressions of a template holds for the expressions in each of its texts and
directives. -/
theorem corresponds_self (v : Value) (h : ∀ source, HasExpression false v source → P source) :
    Corresponds (SameText P) (SameDirective P) v v := by
  cases v with
  | null => exact .null
  | boolean b => exact .boolean b
  | number x => exact .number x
  | string text => exact .string ⟨rfl, fun body hbody => h body (.body hbody)⟩
  | array items =>
    exact .array (correspondingItems_self items fun item hitem source hsource =>
      h source (.element hitem hsource))
  | object members => exact .object (correspondingMembers_self false members h)

theorem correspondingItems_self (items : List Value)
    (h : ∀ item ∈ items, ∀ source, HasExpression true item source → P source) :
    CorrespondingItems (SameText P) (SameDirective P) items items := by
  cases items with
  | nil => exact .nil
  | cons item items =>
    obtain ⟨hitem, hrest⟩ := List.forall_mem_cons.mp h
    have hitems := correspondingItems_self items hrest
    cases item with
    | object members => exact .element (correspondingMembers_self true members hitem) hitems
    | _ =>
      refine .item (by simp [Value.kindName]) (corresponds_self _ fun source hsource => ?_) hitems
      exact hitem source (hsource.of_kindName_ne (by simp [Value.kindName]))

theorem correspondingMembers_self (inArray : Bool) (members : List (String × Value))
    (h : ∀ source, HasExpression inArray (.object members) source → P source) :
    CorrespondingMembers (SameText P) (SameDirective P) inArray members members := by
  cases members with
  | nil => exact .nil
  | cons entry rest =>
    obtain ⟨key, v⟩ := entry
    have hrest : CorrespondingMembers (SameText P) (SameDirective P) inArray rest rest := by
      refine correspondingMembers_self inArray rest fun source hsource => h source ?_
      cases hsource with
      | directive hkey hmember => exact .directive hkey (.tail _ hmember)
      | member hmember hplain hsource => exact .member (.tail _ hmember) hplain hsource
    have hv (hplain : key ∉ directives inArray ∨ v.isString = false) :
        Corresponds (SameText P) (SameDirective P) v v :=
      corresponds_self v fun source hsource => h source (.member (.head _) hplain hsource)
    by_cases hkey : key ∈ directives inArray
    · cases v with
      | string text =>
        have hsource := h (Binding.unwrap text) (.directive hkey (.head _))
        exact .directive hkey ⟨rfl, hsource⟩ hrest
      | _ => exact .inline hkey rfl (hv (.inr rfl)) hrest
    · exact .member hkey (hv (.inl hkey)) hrest

end

end Document

end DocTemplate

import DocTemplate.Engine
import DocTemplate.Proofs.Document.FixedPoint

/-!
# What engines make of templates

What can be said of an expansion whatever the functions of the host do: which errors it can end
with, what the documents look like that it ends with, and what becomes of them as templates.

## Main statements

* `Engine.expand_fails_only_unclosed` — an expansion fails only if an opening is not closed in a
  text that is scanned.
* `Engine.expand_leaves_no_trace` — an expanded document holds no directives and no empty elements.
* `Engine.expand_idempotent` — an expanded document expands to itself unless bindings start in it.
-/

namespace DocTemplate.Engine

variable {m : Type → Type} [Monad m] [LawfulMonad m]

theorem satisfies_expand (policy : BindingErrors) (scope : Scope) (template : Value)
    (engine : Engine m) :
    SatisfiesM (fun r => (∀ v, r.1 = .ok v → Document.Finished v ∧ v.kindName = template.kindName) ∧
        ∀ error, r.1 = .error error → Document.FailsIn (Document.scanned template) error)
      ((expand policy scope template).run.run engine) := by
  have hends := Document.ends_expand (n := StateT (Engine m) m) evaluate policy scope template
  refine (SatisfiesM_StateT_eq.mp hends engine).imp fun {r} hr => ?_
  obtain ⟨result, engine'⟩ := r
  cases result with
  | ok v => exact ⟨fun w hw => Except.ok.inj hw ▸ hr, nofun⟩
  | error error => exact ⟨nofun, fun error' herror => Except.error.inj herror ▸ hr⟩

/-- No binding and no directive aborts an expansion: it succeeds if every opening is closed in the
texts that are scanned, and if it fails then because the first opening of one of them that is not
closed stands at the position of the error. -/
theorem expand_fails_only_unclosed (policy : BindingErrors) (scope : Scope) (template : Value)
    (engine : Engine m) :
    ((∀ text ∈ Document.scanned template, ∀ position, ¬Binding.UnclosedAt text position) →
      SatisfiesM (fun r => ∃ v, r.1 = .ok v) ((expand policy scope template).run.run engine)) ∧
    SatisfiesM (fun r => ∀ error, r.1 = .error error →
        ∃ text ∈ Document.scanned template, ∃ position,
          Binding.UnclosedAt text position ∧ error = .unmatchedBrace position)
      ((expand policy scope template).run.run engine) := by
  have hexpand := satisfies_expand policy scope template engine
  refine ⟨fun hclosed => hexpand.imp fun {r} hr => ?_, hexpand.imp fun hr => hr.2⟩
  cases hresult : r.1 with
  | ok v => exact ⟨v, rfl⟩
  | error error =>
    obtain ⟨text, htext, position, hunclosed, -⟩ := hr.2 error hresult
    exact absurd hunclosed (hclosed text htext position)

/-- Two directives with openings that are not closed and a text with two bindings that fail. -/
theorem expand_succeeds_with_failing_bindings :
    let text := "a$\x7b(\x7d$\x7b\x7d"
    let template : Value := .array
      [.object [("$when", .string "$\x7b"), ("$data", .string "$\x7b"), ("b", .string text)],
        .string text]
    let engine : Engine Id := ofFunctions .empty {}
    ∃ v, (Id.run ((expand .empty (Scope.ofData .null) template).run.run engine)).1 = .ok v := by
  intro text template engine
  have hplain : Binding.Plain [] := Binding.cut?_opening_eq_none_iff.mp rfl
  let d : Binding.Decomposition :=
    .cons ⟨['a'], ['('], Binding.cut?_opening_eq_none_iff.mp rfl,
        Binding.closes_cons.mpr ⟨by decide, Binding.closes_nil.mpr rfl⟩⟩
      (.cons ⟨[], [], hplain, Binding.closes_nil.mpr rfl⟩ ⟨[], [], hplain, none⟩)
  have hd : d.text = text.toList := by
    simp [d, text, Binding.opening]
  have hclosed (position : Nat) : ¬Binding.UnclosedAt text position := by
    simp [Binding.unclosedAt_iff hd, d, Binding.Decomposition.cons]
  have hscanned : Document.scanned template = [text, text] := rfl
  have hsucceeds := SatisfiesM_Id_eq.mp
    ((expand_fails_only_unclosed .empty (Scope.ofData .null) template engine).1
      (by simpa [hscanned] using hclosed))
  exact hsucceeds

/-- An expanded document has no object with a condition, no array with an empty object and no array
with an object that has data, at any depth, and it is of the same kind as its template. -/
theorem expand_leaves_no_trace (policy : BindingErrors) (scope : Scope) (template : Value)
    (engine : Engine m) :
    SatisfiesM (fun r => ∀ v, r.1 = .ok v → Document.Finished v ∧ v.kindName = template.kindName)
      ((expand policy scope template).run.run engine) :=
  (satisfies_expand policy scope template engine).imp fun hr => hr.1

/-- An element that is repeated for two rows and an element whose condition does not hold. -/
theorem expand_repeated_leaves_no_trace :
    let template : Value := .array
      [.object [("$when", .boolean true), ("$data", .array [.null, .null]), ("a", .null)],
        .object [("$when", .string "("), ("a", .null)]]
    let document : Value := .array [.object [("a", .null)], .object [("a", .null)]]
    let engine : Engine Id := ofFunctions .empty {}
    (Id.run ((expand .empty (Scope.ofData .null) template).run.run engine)).1 = .ok document ∧
      Document.Finished document := by
  intro template document engine
  have hdocument :
      (Id.run ((expand .empty (Scope.ofData .null) template).run.run engine)).1 = .ok document := by
    cbv
  have hfinished := SatisfiesM_Id_eq.mp
    (expand_leaves_no_trace .empty (Scope.ofData .null) template engine)
  exact ⟨hdocument, (hfinished document hdocument).1⟩

/-- An expanded document in which no binding starts expands to itself, with whatever data, policy
and engine. -/
theorem expand_idempotent (policy : BindingErrors) (scope : Scope) (template : Value)
    (engine : Engine m) :
    SatisfiesM (fun r => ∀ document, r.1 = .ok document → Document.HasPlainTexts document →
        ∀ (policy' : BindingErrors) (scope' : Scope) (engine' : Engine m),
          (expand policy' scope' document).run.run engine' = pure (.ok document, engine'))
      ((expand policy scope template).run.run engine) := by
  refine (satisfies_expand policy scope template engine).imp fun {r} hr => ?_
  intro document hdocument hplain policy' scope' engine'
  have hfinished : Document.Finished document := (hr.1 document hdocument).1
  rw [expand, Document.expand_eq_pure evaluate policy' scope' document hfinished hplain,
    ExceptT.run_pure, StateT.run_pure]

/-- Data of an object that is no element stays as a member, and so does an empty object that is
none. -/
theorem expand_idempotent_data_member :
    let template : Value := .object
      [("$data", .string "x"), ("none", .object [("$when", .boolean false), ("a", .null)]),
        ("list", .array [.object [("$data", .array [.null]), ("a", .string "$\x7b'b'\x7d")]])]
    let document : Value := .object
      [("$data", .string "x"), ("none", .object []),
        ("list", .array [.object [("a", .string "b")]])]
    let engine : Engine Id := ofFunctions .empty {}
    let scope := Scope.ofData (.object [("x", .boolean true)])
    (Id.run ((expand .empty (Scope.ofData .null) template).run.run engine)).1 = .ok document ∧
      (Id.run ((expand .keepOriginal scope document).run.run engine)).1 = .ok document := by
  intro template document engine scope
  have hdocument :
      (Id.run ((expand .empty (Scope.ofData .null) template).run.run engine)).1 = .ok document := by
    cbv
  have hplain : Document.HasPlainTexts document := by
    have hx : Binding.Plain ['x'] := Binding.cut?_opening_eq_none_iff.mp rfl
    have hb : Binding.Plain ['b'] := Binding.cut?_opening_eq_none_iff.mp rfl
    simp [document, Document.hasPlainTexts_object, Document.hasPlainTexts_array,
      Document.hasPlainTexts_string, hx, hb]
  have hagain := SatisfiesM_Id_eq.mp
    (expand_idempotent .empty (Scope.ofData .null) template engine)
    document hdocument hplain .keepOriginal scope engine
  exact ⟨hdocument, congrArg Prod.fst hagain⟩

end DocTemplate.Engine

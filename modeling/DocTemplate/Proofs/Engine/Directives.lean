import DocTemplate.Proofs.Binding.Wrapping
import DocTemplate.Proofs.Document.Correspondence
import DocTemplate.Proofs.Engine.Transparency
import Mathlib

/-!
# Expressions in bindings and directives

An expression can be put into a text as a binding, and a directive can be written as an expression
or as a binding. Both are the expression itself as long as its braces close. They need not, since
the braces that end a binding are counted in its strings as well.

## Main definitions

* `Engine.agreement` — computations of engines that cannot be told apart by what they answer.
* `Engine.displayed` — what a binding should be filled with.
* `Engine.Rewrapped` — templates that differ in directives which are wrapped as bindings.

## Main statements

* `Engine.wrapped_of_closes` — wrapping changes nothing exactly if the braces of the expression
  close.
-/

namespace DocTemplate.Engine

variable {m : Type → Type} [Monad m] [LawfulMonad m] {α : Type}

/-- Computations that answer the same, with the same effects, whatever expressions are cached. -/
def agreement (m : Type → Type) [Monad m] [LawfulMonad m] :
    Coupling (StateT (Engine m) m) (StateT (Engine m) m) where
  Rel x y := Transparent x ∧ Transparent y ∧
    ∀ plain : Engine m, Behind plain → x.run plain = y.run plain
  pure_rel a := ⟨transparent_pure a, transparent_pure a, fun _ _ => rfl⟩
  map_rel f h := ⟨h.1.map f, h.2.1.map f, fun plain e => by
    rw [StateT.run_map, StateT.run_map, h.2.2 plain e]⟩
  bind_rel {_ _ x y f g} hxy hfg := by
    obtain ⟨hx, hy, heq⟩ := hxy
    refine ⟨hx.bind fun a => (hfg a).1, hy.bind fun a => (hfg a).2.1, fun plain e => ?_⟩
    -- an engine without cache is left as it is, so that both continue from the same engine
    obtain ⟨z, -, hz⟩ := hx plain e
    rw [StateT.run_bind, StateT.run_bind, ← heq plain e, hz, bind_map_left, bind_map_left]
    exact bind_congr fun r => (hfg r.1).2.2 plain e

theorem agreement_self {x : StateT (Engine m) m α} (h : Transparent x) : (agreement m).Rel x x :=
  ⟨h, h, fun _ _ => rfl⟩

/-- What agrees on engines without cache agrees on all that have a coherent one. -/
theorem run'_eq_of_agreement {x y : StateT (Engine m) m α} (h : (agreement m).Rel x y)
    {e : Engine m} (he : e.Coherent) : x.run' e = y.run' e := by
  obtain ⟨hx, hy, heq⟩ := h
  rw [hx.run'_eq he, hy.run'_eq he, StateT.run'_eq, StateT.run'_eq, heq _ ⟨e, he, rfl⟩]

/-- Texts agree that have the same value, each in its scope, whatever the functions are. -/
theorem agreement_evaluate_of_value {scope scope' : Scope} {source text : String}
    (h : ∀ functions : Registry m, value functions scope source = value functions scope' text) :
    (agreement m).Rel (evaluate scope source) (evaluate scope' text) := by
  refine ⟨transparent_evaluate scope source, transparent_evaluate scope' text, fun plain e => ?_⟩
  rw [run_evaluate scope (parse_of_cache_eq e.cache_eq source),
    run_evaluate scope' (parse_of_cache_eq e.cache_eq text), h]

/-- Texts that spell the same expression have the same value. -/
theorem agreement_evaluate (scope : Scope) {source text : String}
    (h : Expr.parse source = Expr.parse text) :
    (agreement m).Rel (evaluate scope source) (evaluate scope text) :=
  agreement_evaluate_of_value fun functions => by simp only [value, h]

/-- A directive is the same, or an expression that is wrapped as a binding. -/
def SameOrWrapped (source s t : String) : Prop :=
  s = t ∨ s = source ∧ t = Binding.wrap source

/-- Two templates are the same but for directives that are an expression in the one template and the
same expression wrapped as a binding in the other. -/
def Rewrapped (source : String) : Value → Value → Prop :=
  Document.Corresponds Eq (SameOrWrapped source)

theorem comparison_rewrapped (policy : BindingErrors) {source : String} {expr : Expr}
    (h : Expr.parse source = .ok expr) (hcloses : Binding.Closes 1 source.toList) :
    Document.Comparison (agreement m) Eq Eq (SameOrWrapped source) evaluate evaluate policy where
  row hs v i := hs ▸ rfl
  enter hs v := hs ▸ rfl
  text := by
    rintro scope _ rfl s _ rfl
    exact agreement_self (transparent_interpolate policy scope s)
  directive := by
    rintro scope _ rfl s t (rfl | ⟨rfl, rfl⟩)
    · exact agreement_self (transparent_evaluate scope _)
    · refine agreement_evaluate scope ?_
      rw [Binding.parse_unwrap h, (Binding.parse_unwrap_wrap_iff h).mpr hcloses]

/-- The text of an expression has the value of the expression. -/
theorem run'_evaluate {source : String} {expr : Expr} (h : Expr.parse source = .ok expr)
    (scope : Scope) {e : Engine m} (he : e.Coherent) :
    (evaluate scope source).run' e =
      Except.mapError .evaluation <$> (expr.eval e.functions scope).run := by
  have hparse : e.withoutCache.parse source = (Expr.parse source, e.withoutCache) :=
    parse_of_cache_eq (cache_uncached _ _) source
  rw [(transparent_evaluate scope source).run'_eq he, StateT.run'_eq, run_evaluate scope hparse,
    Functor.map_map]
  simp [value, h, withoutCache]

/-- What the binding of an expression should be filled with: the display text of its value. If it
has none, nothing is left or the binding stays as it is written. -/
def displayed (policy : BindingErrors) (source : String) : Except EvalError Value → String
  | .ok v => v.display
  | .error _ =>
    match policy with
    | .empty => ""
    | .keepOriginal => Binding.wrap source

/-- The binding of an expression whose braces close is filled with the display text of its value. -/
theorem run'_interpolate_wrap (policy : BindingErrors) {source : String} {expr : Expr}
    (h : Expr.parse source = .ok expr) (hcloses : Binding.Closes 1 source.toList) (scope : Scope)
    {e : Engine m} (he : e.Coherent) :
    (interpolate policy scope (Binding.wrap source)).run.run' e =
      (fun result => .ok (displayed policy source result)) <$>
        (expr.eval e.functions scope).run := by
  calc (interpolate policy scope (Binding.wrap source)).run.run' e
    _ = (fun result => .ok (String.ofList (Binding.shown policy source.toList result))) <$>
          (evaluate scope source).run' e := by
        rw [interpolate, Binding.interpolate_wrap _ policy hcloses]
        simp [StateT.run'_eq]
    _ = (fun result => .ok (String.ofList (Binding.shown policy source.toList
          (Except.mapError EngineError.evaluation result)))) <$>
            (expr.eval e.functions scope).run := by
        rw [run'_evaluate h scope he, Functor.map_map]
    _ = _ := by
        refine congrArg (· <$> _) (funext fun result => ?_)
        cases result with
        | ok v => simp [Except.mapError, Binding.shown, displayed]
        | error error =>
          cases policy <;> simp [Except.mapError, Binding.shown, displayed, Binding.wrap]

/-- An expression is found again in its binding exactly if its braces close. Then the binding is
filled with the display text of its value, and directives can be wrapped without changing what a
template expands to. -/
theorem wrapped_of_closes (policy : BindingErrors) {source : String} {expr : Expr}
    (h : Expr.parse source = .ok expr) :
    (Expr.parse (Binding.unwrap (Binding.wrap source)) = .ok expr ↔
      Binding.Closes 1 source.toList) ∧
    (Binding.Closes 1 source.toList → ∀ (scope : Scope) (e : Engine m), e.Coherent →
      (interpolate policy scope (Binding.wrap source)).run.run' e =
          (fun result => .ok (displayed policy source result)) <$>
            (expr.eval e.functions scope).run ∧
      ∀ template template', Rewrapped source template template' →
        (expand policy scope template).run.run' e =
          (expand policy scope template').run.run' e) := by
  refine ⟨Binding.parse_unwrap_wrap_iff h, fun hcloses scope e he => ⟨?_, fun t t' ht => ?_⟩⟩
  · exact run'_interpolate_wrap policy h hcloses scope he
  · exact run'_eq_of_agreement ((comparison_rewrapped policy h hcloses).relRun_expand rfl ht) he

/-- The braces of a string may close as well. -/
theorem wrapped_string_with_braces :
    let source := "'\x7b\x7d'"
    let scope := Scope.ofData .null
    let e : Engine Id := ofFunctions .empty {}
    let template (directive : String) : Value := .array
      [.object [("$when", .string directive), ("$data", .string directive), ("a", .null)]]
    Binding.Closes 1 source.toList ∧
    (Id.run ((interpolate .empty scope (Binding.wrap source)).run.run e)).1 = .ok "\x7b\x7d" ∧
    (Id.run ((expand .empty scope (template source)).run.run e)).1 =
      (Id.run ((expand .empty scope (template (Binding.wrap source))).run.run e)).1 := by
  intro source scope e template
  have hparse : Expr.parse source = .ok (.literal (.string "\x7b\x7d")) := by cbv
  have hcloses : Binding.Closes 1 source.toList := (Binding.closing_eq_some_iff.mp
    (show Binding.closing 0 "'\x7b\x7d'\x7d".toList = some (source.toList, []) by decide)).2
  obtain ⟨htext, hexpand⟩ :=
    (wrapped_of_closes .empty hparse).2 hcloses scope e (coherent_ofFunctions _ _)
  have hrewrapped : Rewrapped source (template source) (template (Binding.wrap source)) :=
    .array (.element (.directive (by decide) (.inr ⟨rfl, rfl⟩)
      (.directive (by decide) (.inr ⟨rfl, rfl⟩) (.member (by decide) .null .nil))) .nil)
  exact ⟨hcloses, htext, hexpand _ _ hrewrapped⟩

/-- A string with a single brace is an expression, but its binding ends at the brace in the string,
and wrapped as a condition it does not hold. -/
theorem wrapped_string_with_brace :
    let source := "'\x7d'"
    let scope := Scope.ofData .null
    let e : Engine Id := ofFunctions .empty {}
    let template (condition : String) : Value :=
      .object [("$when", .string condition), ("a", .null)]
    Expr.parse source = .ok (.literal (.string "\x7d")) ∧
    (Id.run ((evaluate scope source).run e)).1 = .ok (.string "\x7d") ∧
    (Id.run ((interpolate .empty scope (Binding.wrap source)).run.run e)).1 = .ok "'\x7d" ∧
    (Id.run ((expand .empty scope (template source)).run.run e)).1 =
      .ok (.object [("a", .null)]) ∧
    (Id.run ((expand .empty scope (template (Binding.wrap source))).run.run e)).1 =
      .ok (.object []) := by
  refine ⟨?_, ?_, ?_, ?_, ?_⟩ <;> cbv

end DocTemplate.Engine

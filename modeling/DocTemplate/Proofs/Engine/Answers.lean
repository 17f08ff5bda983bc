import DocTemplate.Proofs.Document.Expressions
import DocTemplate.Proofs.Engine.Transparency
import Mathlib

/-!
# What engines answer

The cache of an engine cannot be seen from the outside. What an engine answers is what its functions
make of the texts of expressions in the monad of the host, without an engine in between.

## Main definitions

* `Engine.answering` — computations of engines that answer as computations of the host.

## Main statements

* `Engine.run'_interpolate`, `Engine.run'_expand` — what engines make of texts and of templates.
-/

namespace DocTemplate.Engine

variable {m : Type → Type} [Monad m] [LawfulMonad m] {α : Type} {e : Engine m}

/-- Computations of engines with the given functions that answer as computations of the host,
whatever expressions are cached. -/
def answering (functions : Registry m) : Coupling (StateT (Engine m) m) m where
  Rel x y := Transparent x ∧
    ∀ plain : Engine m, Behind plain → plain.functions = functions →
      x.run plain = (fun a => (a, plain)) <$> y
  pure_rel a := ⟨transparent_pure a, fun _ _ _ => by rw [StateT.run_pure, map_pure]⟩
  map_rel f h := ⟨h.1.map f, fun plain e hplain => by
    rw [StateT.run_map, h.2 plain e hplain, Functor.map_map, Functor.map_map]⟩
  bind_rel hxy hfg := ⟨hxy.1.bind fun a => (hfg a).1, fun plain e hplain => by
    rw [StateT.run_bind, hxy.2 plain e hplain, bind_map_left, map_bind]
    exact bind_congr fun a => (hfg a).2 plain e hplain⟩

/-- What answers as a computation of the host does so on all engines with a coherent cache. -/
theorem run'_eq_of_answering {x : StateT (Engine m) m α} {y : m α}
    (h : (answering e.functions).Rel x y) (he : e.Coherent) : x.run' e = y := by
  have hplain : x.run e.withoutCache = (fun a => (a, e.withoutCache)) <$> y :=
    h.2 _ ⟨e, he, rfl⟩ rfl
  rw [h.1.run'_eq he, StateT.run'_eq, hplain, Functor.map_map, id_map']

theorem answering_evaluate (functions : Registry m) (scope : Scope) (source : String) :
    (answering functions).Rel (evaluate scope source) (value functions scope source) := by
  refine ⟨transparent_evaluate scope source, fun plain e hplain => ?_⟩
  rw [run_evaluate scope (parse_of_cache_eq e.cache_eq source), hplain]

theorem answering_interpolate (functions : Registry m) (policy : BindingErrors) (scope : Scope)
    (text : String) :
    (answering functions).Rel (interpolate policy scope text).run
      (Binding.interpolate (value functions scope) policy text).run :=
  Binding.rel_interpolate _ policy fun body _ => answering_evaluate functions scope body

/-- An engine interpolates a text as its functions do. -/
theorem run'_interpolate (policy : BindingErrors) (scope : Scope) (text : String)
    (he : e.Coherent) :
    (interpolate policy scope text).run.run' e =
      (Binding.interpolate (value e.functions scope) policy text).run :=
  run'_eq_of_answering (answering_interpolate e.functions policy scope text) he

theorem comparison_answering (functions : Registry m) (policy : BindingErrors) :
    Document.Comparison (answering functions) Eq (Document.SameText fun _ => True)
      (Document.SameDirective fun _ => True) evaluate (value functions) policy where
  row hs _ _ := hs ▸ rfl
  enter hs _ := hs ▸ rfl
  text := by
    rintro scope _ rfl s _ ⟨rfl, -⟩
    exact answering_interpolate functions policy scope s
  directive := by
    rintro scope _ rfl s _ ⟨rfl, -⟩
    exact answering_evaluate functions scope _

/-- An engine expands a template as its functions do. -/
theorem run'_expand (policy : BindingErrors) (scope : Scope) (template : Value)
    (he : e.Coherent) :
    (expand policy scope template).run.run' e =
      (Document.expand (value e.functions) policy scope template).run := by
  have hself := Document.corresponds_self template fun _ _ => trivial
  exact run'_eq_of_answering ((comparison_answering e.functions policy).relRun_expand rfl hself) he

end DocTemplate.Engine

import DocTemplate.Evaluation
import Mathlib

/-!
# What the value of an expression depends on

The value of an expression is made from the values of the paths that it names and from the functions
that it calls. Nothing else of the scope and of the registry can be seen in it, neither in the value
nor in the failure nor in the effects.

## Main definitions

* `Expr.paths` — the paths that an expression names.
* `Expr.calls` — the functions that an expression calls.

## Main statements

* `Expr.eval_congr` — scopes and registries that agree on these names give the same value.
* `Expr.isClosed_iff` — a closed expression is one that names no path.
-/

namespace DocTemplate.Expr

mutual
/-- The paths that an expression names. -/
def paths : Expr → List String
  | .literal _ => []
  | .path text => [text]
  | .call _ args => pathsOfAll args
  | .binary _ lhs rhs => lhs.paths ++ rhs.paths
  | .unary _ operand => operand.paths
  | .ternary condition whenTrue whenFalse => condition.paths ++ whenTrue.paths ++ whenFalse.paths

/-- The paths that several expressions name. -/
def pathsOfAll : List Expr → List String
  | [] => []
  | e :: es => e.paths ++ pathsOfAll es
end

mutual
/-- The names of the functions that an expression calls. -/
def calls : Expr → List String
  | .literal _ => []
  | .path _ => []
  | .call name args => name :: callsOfAll args
  | .binary _ lhs rhs => lhs.calls ++ rhs.calls
  | .unary _ operand => operand.calls
  | .ternary condition whenTrue whenFalse => condition.calls ++ whenTrue.calls ++ whenFalse.calls

/-- The names of the functions that several expressions call. -/
def callsOfAll : List Expr → List String
  | [] => []
  | e :: es => e.calls ++ callsOfAll es
end

mutual

/-- A closed expression is one that names no path. -/
theorem isClosed_iff (e : Expr) : e.isClosed ↔ e.paths = [] := by
  cases e with
  | literal v => simp [isClosed, paths]
  | path text => simp [isClosed, paths]
  | call name args => simpa [isClosed, paths] using areClosed_iff args
  | binary op lhs rhs => simp [isClosed, paths, isClosed_iff lhs, isClosed_iff rhs]
  | unary op operand => simpa [isClosed, paths] using isClosed_iff operand
  | ternary condition whenTrue whenFalse =>
    simp [isClosed, paths, isClosed_iff condition, isClosed_iff whenTrue, isClosed_iff whenFalse,
      and_assoc]

theorem areClosed_iff (es : List Expr) : areClosed es ↔ pathsOfAll es = [] := by
  cases es with
  | nil => simp [areClosed, pathsOfAll]
  | cons e es => simp [areClosed, pathsOfAll, isClosed_iff e, areClosed_iff es]

end

variable {m : Type → Type} [Monad m] {functions functions' : Registry m} {scope scope' : Scope}

mutual

/-- Scopes and registries that agree on what an expression names give it the same value, the same
failure and the same effects. -/
theorem eval_congr (e : Expr) (hpaths : ∀ path ∈ e.paths, scope.resolve path = scope'.resolve path)
    (hcalls : ∀ name ∈ e.calls, functions.get? name = functions'.get? name) :
    e.eval functions scope = e.eval functions' scope' := by
  cases e with
  | literal v => rfl
  | path text =>
    have h := hpaths text (by simp [paths])
    simp only [eval, h]
  | call name args =>
    simp only [calls, List.forall_mem_cons] at hcalls
    have hargs := evalAll_congr args hpaths hcalls.2
    simp only [eval, hcalls.1, hargs]
  | binary op lhs rhs =>
    simp only [paths, calls, List.forall_mem_append] at hpaths hcalls
    have hlhs := eval_congr lhs hpaths.1 hcalls.1
    have hrhs := eval_congr rhs hpaths.2 hcalls.2
    simp only [eval, hlhs, hrhs]
  | unary op operand =>
    have hoperand := eval_congr operand hpaths hcalls
    simp only [eval, hoperand]
  | ternary condition whenTrue whenFalse =>
    simp only [paths, calls, List.forall_mem_append] at hpaths hcalls
    have hcondition := eval_congr condition hpaths.1.1 hcalls.1.1
    have htrue := eval_congr whenTrue hpaths.1.2 hcalls.1.2
    have hfalse := eval_congr whenFalse hpaths.2 hcalls.2
    simp only [eval, hcondition, htrue, hfalse]

theorem evalAll_congr (es : List Expr)
    (hpaths : ∀ path ∈ pathsOfAll es, scope.resolve path = scope'.resolve path)
    (hcalls : ∀ name ∈ callsOfAll es, functions.get? name = functions'.get? name) :
    evalAll functions scope es = evalAll functions' scope' es := by
  cases es with
  | nil => rfl
  | cons e es =>
    simp only [pathsOfAll, callsOfAll, List.forall_mem_append] at hpaths hcalls
    have he := eval_congr e hpaths.1 hcalls.1
    have hes := evalAll_congr es hpaths.2 hcalls.2
    simp only [evalAll, he, hes]

end

/-- The value of an expression depends only on the values of the paths that it names and on the
functions that it calls. If it names no path it does not depend on the scope at all. -/
theorem eval_depends_on_names (e : Expr) :
    (∀ (functions functions' : Registry m) (scope scope' : Scope),
      (∀ path ∈ e.paths, scope.resolve path = scope'.resolve path) →
      (∀ name ∈ e.calls, functions.get? name = functions'.get? name) →
      e.eval functions scope = e.eval functions' scope') ∧
    (e.isClosed → ∀ (functions : Registry m) (scope scope' : Scope),
      e.eval functions scope = e.eval functions scope') := by
  refine ⟨fun _ _ _ _ hpaths hcalls => eval_congr e hpaths hcalls, fun hclosed _ _ _ => ?_⟩
  refine eval_congr e (fun path hpath => ?_) fun _ _ => rfl
  rw [(isClosed_iff e).mp hclosed] at hpath
  cases hpath

/-- The scope of a row and the scope of a value differ in the index and in members that are not
named, and one of the registries has a function more. -/
theorem eval_row_eq_eval_value :
    let list : Function Id := fun values => pure (.ok (.array values))
    let functions : Registry Id := Registry.empty.insert "list" list
    let more : Registry Id := functions.insert "size" fun _ => pure (.error .divisionByZero)
    let document := Scope.ofData (.object [("a", .boolean true)])
    let row := document.row (.object [("a", .string "x"), ("b", .null)]) 3
    let value := document.enter (.object [("a", .string "x")])
    let named : Expr := .ternary (.path "a") (.call "list" [.path "$root.a"]) (.path "a")
    let closed : Expr := .call "list" [.literal (.boolean false)]
    named.eval functions row = named.eval more value ∧
      closed.eval functions row = closed.eval functions value := by
  intro list functions more document row value named closed
  have hpaths : ∀ path ∈ named.paths, row.resolve path = value.resolve path := by
    have ha : row.resolve "a" = value.resolve "a" := by cbv
    have hroot : row.resolve "$root.a" = value.resolve "$root.a" := by cbv
    simp [named, paths, pathsOfAll, ha, hroot]
  have hcalls : ∀ name ∈ named.calls, functions.get? name = more.get? name := by
    have hlist : functions.get? "list" = more.get? "list" := rfl
    simp [named, calls, callsOfAll, hlist]
  exact ⟨(eval_depends_on_names named).1 functions more row value hpaths hcalls,
    (eval_depends_on_names closed).2 rfl functions row value⟩

end DocTemplate.Expr

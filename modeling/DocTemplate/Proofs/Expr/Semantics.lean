import DocTemplate.Evaluation
import DocTemplate.Proofs.Binding.Outcome
import Mathlib

/-!
# What expressions can come to

The rules by which an expression comes to a value or to a failure, from the leaves upwards. The
functions of the host may have effects; all that is known of them is what they can answer. Then what
the evaluation ends with follows the rules, and without effects nothing else does.

## Main definitions

* `Registry.Answers` — what the functions of a registry can answer.
* `Expr.Evaluates` — what an expression can come to with such functions.

## Main statements

* `Expr.satisfies_eval` — the value or the failure of an expression is one that it can come to.
* `Expr.evaluates_iff` — without effects it is the only one.
-/

namespace DocTemplate

variable {m : Type → Type}

/-- Whatever the functions of a registry are called with, they answer as described. -/
def Registry.Answers [Monad m] (functions : Registry m)
    (answers : String → List Value → Except CallError Value → Prop) : Prop :=
  ∀ name f, functions.get? name = some f → ∀ values, SatisfiesM (answers name values) (f values)

/-- What the functions of a registry answer that have no effects. -/
def Registry.Returns [Monad m] (functions : Registry m) (name : String) (values : List Value)
    (answer : Except CallError Value) : Prop :=
  ∃ f, functions.get? name = some f ∧ f values = pure answer

theorem Registry.answers_returns (functions : Registry Id) :
    functions.Answers functions.Returns :=
  fun _ f hname _ => SatisfiesM_Id_eq.mpr ⟨f, hname, rfl⟩

namespace Expr

section Relations

variable (functions : Registry m) (answers : String → List Value → Except CallError Value → Prop)
  (scope : Scope)

mutual
/-- What an expression can come to if the functions can answer as described. -/
inductive Evaluates : Expr → Except EvalError Value → Prop
  | literal (v : Value) : Evaluates (.literal v) (.ok v)
  | path (text : String) : Evaluates (.path text) (.ok (scope.resolve text))
  | unknown {name : String} {args : List Expr} (h : functions.get? name = none) :
      Evaluates (.call name args) (.error (.unknownFunction name))
  | argument {name : String} {f : Function m} {args : List Expr} {error : EvalError}
      (h : functions.get? name = some f) (hargs : EvaluatesAll args (.error error)) :
      Evaluates (.call name args) (.error error)
  | call {name : String} {f : Function m} {args : List Expr} {values : List Value}
      {answer : Except CallError Value} (h : functions.get? name = some f)
      (hargs : EvaluatesAll args (.ok values)) (hanswer : answers name values answer) :
      Evaluates (.call name args) (answer.mapError (EvalError.ofCall name))
  | left {op : BinaryOp} {lhs rhs : Expr} {error : EvalError}
      (hlhs : Evaluates lhs (.error error)) : Evaluates (.binary op lhs rhs) (.error error)
  | right {op : BinaryOp} {lhs rhs : Expr} {a : Value} {error : EvalError}
      (hlhs : Evaluates lhs (.ok a)) (hrhs : Evaluates rhs (.error error)) :
      Evaluates (.binary op lhs rhs) (.error error)
  | binary {op : BinaryOp} {lhs rhs : Expr} {a b : Value} (hlhs : Evaluates lhs (.ok a))
      (hrhs : Evaluates rhs (.ok b)) : Evaluates (.binary op lhs rhs) (op.apply a b)
  | operand {op : UnaryOp} {operand : Expr} {error : EvalError}
      (h : Evaluates operand (.error error)) : Evaluates (.unary op operand) (.error error)
  | unary {op : UnaryOp} {operand : Expr} {v : Value} (h : Evaluates operand (.ok v)) :
      Evaluates (.unary op operand) (.ok (op.apply v))
  | condition {condition whenTrue whenFalse : Expr} {error : EvalError}
      (h : Evaluates condition (.error error)) :
      Evaluates (.ternary condition whenTrue whenFalse) (.error error)
  | whenTrue {condition whenTrue whenFalse : Expr} {c : Value} {r : Except EvalError Value}
      (hcondition : Evaluates condition (.ok c)) (hc : c.toBool = true)
      (h : Evaluates whenTrue r) : Evaluates (.ternary condition whenTrue whenFalse) r
  | whenFalse {condition whenTrue whenFalse : Expr} {c : Value} {r : Except EvalError Value}
      (hcondition : Evaluates condition (.ok c)) (hc : c.toBool = false)
      (h : Evaluates whenFalse r) : Evaluates (.ternary condition whenTrue whenFalse) r

/-- What several expressions can come to, evaluated from left to right. -/
inductive EvaluatesAll : List Expr → Except EvalError (List Value) → Prop
  | nil : EvaluatesAll [] (.ok [])
  | head {e : Expr} {es : List Expr} {error : EvalError} (he : Evaluates e (.error error)) :
      EvaluatesAll (e :: es) (.error error)
  | tail {e : Expr} {es : List Expr} {v : Value} {error : EvalError} (he : Evaluates e (.ok v))
      (hes : EvaluatesAll es (.error error)) : EvaluatesAll (e :: es) (.error error)
  | cons {e : Expr} {es : List Expr} {v : Value} {vs : List Value} (he : Evaluates e (.ok v))
      (hes : EvaluatesAll es (.ok vs)) : EvaluatesAll (e :: es) (.ok (v :: vs))
end

end Relations

variable [Monad m] [LawfulMonad m] {functions : Registry m}
  {answers : String → List Value → Except CallError Value → Prop} {scope : Scope}

mutual

theorem ends_eval (h : functions.Answers answers) (e : Expr) :
    Ends (fun v => Evaluates functions answers scope e (.ok v))
      (fun error => Evaluates functions answers scope e (.error error))
      (e.eval functions scope) := by
  cases e with
  | literal v => exact ends_pure (.literal v)
  | path text => exact ends_pure (.path text)
  | call name args =>
    rw [eval]
    cases hname : functions.get? name with
    | none => exact ends_throw (.unknown hname)
    | some f =>
      have hargs := (ends_evalAll h args).imp (fun _ hvalues => hvalues)
        fun _ herror => Evaluates.argument hname herror
      refine hargs.bind fun values hvalues => (ends_lift_of (h name f hname values)).bind ?_
      rintro (cause | v) hanswer
      · exact ends_throw (.call hname hvalues hanswer)
      · exact ends_pure (.call hname hvalues hanswer)
  | binary op lhs rhs =>
    rw [eval]
    refine ((ends_eval h lhs).imp (fun _ ha => ha) fun _ herror => .left herror).bind
      fun a ha => ?_
    refine ((ends_eval h rhs).imp (fun _ hb => hb) fun _ herror => .right ha herror).bind
      fun b hb => ?_
    have hbinary : Evaluates functions answers scope (.binary op lhs rhs) (op.apply a b) :=
      .binary ha hb
    cases happly : op.apply a b with
    | ok v => exact ends_pure (happly ▸ hbinary)
    | error error => exact ends_throw (happly ▸ hbinary)
  | unary op operand =>
    rw [eval]
    exact ((ends_eval h operand).imp (fun _ hv => hv) fun _ herror => .operand herror).bind
      fun v hv => ends_pure (.unary hv)
  | ternary condition whenTrue whenFalse =>
    rw [eval]
    refine ((ends_eval h condition).imp (fun _ hc => hc) fun _ herror => .condition herror).bind
      fun c hc => ?_
    cases hbool : c.toBool with
    | true =>
      exact (ends_eval h whenTrue).imp (fun _ => .whenTrue hc hbool) fun _ => .whenTrue hc hbool
    | false =>
      exact (ends_eval h whenFalse).imp (fun _ => .whenFalse hc hbool) fun _ => .whenFalse hc hbool

theorem ends_evalAll (h : functions.Answers answers) (es : List Expr) :
    Ends (fun vs => EvaluatesAll functions answers scope es (.ok vs))
      (fun error => EvaluatesAll functions answers scope es (.error error))
      (evalAll functions scope es) := by
  cases es with
  | nil => exact ends_pure .nil
  | cons e es =>
    rw [evalAll]
    refine ((ends_eval h e).imp (fun _ hv => hv) fun _ herror => .head herror).bind fun v hv => ?_
    exact ((ends_evalAll h es).imp (fun _ hvs => hvs) fun _ herror => .tail hv herror).bind
      fun vs hvs => ends_pure (.cons hv hvs)

end

/-- The value or the failure of an expression is one that it can come to. -/
theorem satisfies_eval (h : functions.Answers answers) (e : Expr) :
    SatisfiesM (Evaluates functions answers scope e) (e.eval functions scope).run := by
  refine SatisfiesM.imp (ends_eval h e) fun {r} hr => ?_
  cases r with
  | ok v => exact hr
  | error error => exact hr

section Returns

mutual

/-- With functions that return their answers an expression comes to one thing only. -/
theorem run_eval_of_evaluates {e : Expr} {r : Except EvalError Value} :
    Evaluates functions functions.Returns scope e r → (e.eval functions scope).run = pure r
  | .literal v => by simp [eval]
  | .path text => by simp [eval]
  | .unknown hname => by simp [eval, hname]
  | .argument hname hargs => by simp [eval, hname, run_evalAll_of_evaluatesAll hargs]
  | @Evaluates.call _ _ _ _ name f args values answer hname hargs ⟨g, hg, hanswer⟩ => by
    obtain rfl : g = f := Option.some_inj.mp (hg.symm.trans hname)
    cases answer <;> simp [eval, hname, run_evalAll_of_evaluatesAll hargs, hanswer, Except.mapError]
  | .left hlhs => by simp [eval, run_eval_of_evaluates hlhs]
  | .right hlhs hrhs => by simp [eval, run_eval_of_evaluates hlhs, run_eval_of_evaluates hrhs]
  | .binary hlhs hrhs => by simp [eval, run_eval_of_evaluates hlhs, run_eval_of_evaluates hrhs]
  | .operand h => by simp [eval, run_eval_of_evaluates h, Except.map]
  | .unary h => by simp [eval, run_eval_of_evaluates h, Except.map]
  | .condition h => by simp [eval, run_eval_of_evaluates h]
  | .whenTrue hcondition hc h => by
    simp [eval, run_eval_of_evaluates hcondition, hc, run_eval_of_evaluates h]
  | .whenFalse hcondition hc h => by
    simp [eval, run_eval_of_evaluates hcondition, hc, run_eval_of_evaluates h]

theorem run_evalAll_of_evaluatesAll {es : List Expr} {r : Except EvalError (List Value)} :
    EvaluatesAll functions functions.Returns scope es r → (evalAll functions scope es).run = pure r
  | .nil => by simp [evalAll]
  | .head he => by simp [evalAll, run_eval_of_evaluates he]
  | .tail he hes => by
    simp [evalAll, run_eval_of_evaluates he, run_evalAll_of_evaluatesAll hes, Except.map]
  | .cons he hes => by
    simp [evalAll, run_eval_of_evaluates he, run_evalAll_of_evaluatesAll hes, Except.map]

end

/-- Without effects the value or the failure of an expression is the only thing that it can come
to. -/
theorem evaluates_iff {functions : Registry Id} {e : Expr} {r : Except EvalError Value} :
    Evaluates functions functions.Returns scope e r ↔ (e.eval functions scope).run = r := by
  constructor
  · exact run_eval_of_evaluates
  · rintro rfl
    exact SatisfiesM_Id_eq.mp (satisfies_eval functions.answers_returns e)

end Returns

end Expr

end DocTemplate

import DocTemplate.Proofs.Expr.Dependence
import DocTemplate.Proofs.Expr.Semantics

/-!
# Why expressions have no value

The failure of an expression comes from one of its nodes: a call of a function that is not there, a
call of a function that fails, a division by zero or an operator without a value. Only nodes that
are evaluated count, so that nothing in the alternative that a condition does not take is ever the
reason.

## Main definitions

* `Expr.operators` — the operators between the operands of an expression.
* `Expr.Reaches` — a node is evaluated for an expression.
* `Expr.Raises` — a node itself is the reason of a failure.
* `Expr.Accounts` — what an expression shows of a failure.

## Main statements

* `Expr.exists_raises` — every failure is raised by a node that is evaluated.
* `Expr.eval_fails_only_raised` — how each failure is accounted for, and when there is none.
-/

namespace DocTemplate

/-- An operator has no value only if it divides by zero or is the one for membership. -/
theorem BinaryOp.apply_eq_error_iff {op : BinaryOp} {a b : Value} {error : EvalError} :
    op.apply a b = .error error ↔
      (op = .divide ∨ op = .modulo) ∧ (b.toNumber == 0) = true ∧ .divisionByZero = error ∨
        op = .isIn ∧ .unknownOperator .isIn = error := by
  have hdivisor (f : Double → Value) : (divisor b).map f = .error error ↔
      (b.toNumber == 0) = true ∧ .divisionByZero = error := by
    by_cases hb : (b.toNumber == 0) = true <;> simp [divisor, hb, Except.map]
  cases op <;> simp [apply, hdivisor]

namespace Expr

variable {m : Type → Type}

mutual
/-- The operators between the operands of an expression. -/
def operators : Expr → List BinaryOp
  | .literal _ => []
  | .path _ => []
  | .call _ args => operatorsOfAll args
  | .binary op lhs rhs => op :: lhs.operators ++ rhs.operators
  | .unary _ operand => operand.operators
  | .ternary condition whenTrue whenFalse =>
    condition.operators ++ whenTrue.operators ++ whenFalse.operators

/-- The operators between the operands of several expressions. -/
def operatorsOfAll : List Expr → List BinaryOp
  | [] => []
  | e :: es => e.operators ++ operatorsOfAll es
end

theorem callsOfAll_eq_flatMap (es : List Expr) : callsOfAll es = es.flatMap calls := by
  induction es with
  | nil => rfl
  | cons e es ih => rw [callsOfAll, ih, List.flatMap_cons]

theorem operatorsOfAll_eq_flatMap (es : List Expr) :
    operatorsOfAll es = es.flatMap operators := by
  induction es with
  | nil => rfl
  | cons e es ih => rw [operatorsOfAll, ih, List.flatMap_cons]

section Relations

variable (functions : Registry m) (answers : String → List Value → Except CallError Value → Prop)
  (scope : Scope)

/-- A node is evaluated for an expression: what stands before it has values, and the conditions
around it take its side. -/
inductive Reaches (node : Expr) : Expr → Prop
  | refl : Reaches node node
  | argument {name : String} {f : Function m} {before after : List Expr} {arg : Expr}
      {values : List Value} (h : functions.get? name = some f)
      (hbefore : EvaluatesAll functions answers scope before (.ok values))
      (harg : Reaches node arg) : Reaches node (.call name (before ++ arg :: after))
  | left {op : BinaryOp} {lhs rhs : Expr} (h : Reaches node lhs) :
      Reaches node (.binary op lhs rhs)
  | right {op : BinaryOp} {lhs rhs : Expr} {a : Value}
      (hlhs : Evaluates functions answers scope lhs (.ok a)) (h : Reaches node rhs) :
      Reaches node (.binary op lhs rhs)
  | operand {op : UnaryOp} {operand : Expr} (h : Reaches node operand) :
      Reaches node (.unary op operand)
  | condition {condition whenTrue whenFalse : Expr} (h : Reaches node condition) :
      Reaches node (.ternary condition whenTrue whenFalse)
  | whenTrue {condition whenTrue whenFalse : Expr} {c : Value}
      (hcondition : Evaluates functions answers scope condition (.ok c)) (hc : c.toBool = true)
      (h : Reaches node whenTrue) : Reaches node (.ternary condition whenTrue whenFalse)
  | whenFalse {condition whenTrue whenFalse : Expr} {c : Value}
      (hcondition : Evaluates functions answers scope condition (.ok c)) (hc : c.toBool = false)
      (h : Reaches node whenFalse) : Reaches node (.ternary condition whenTrue whenFalse)

/-- A node is itself the reason of a failure. -/
inductive Raises : Expr → EvalError → Prop
  | unknown {name : String} {args : List Expr} (h : functions.get? name = none) :
      Raises (.call name args) (.unknownFunction name)
  | answer {name : String} {f : Function m} {args : List Expr} {values : List Value}
      {cause : CallError} (h : functions.get? name = some f)
      (hargs : EvaluatesAll functions answers scope args (.ok values))
      (hanswer : answers name values (.error cause)) :
      Raises (.call name args) (.ofCall name cause)
  | divisor {op : BinaryOp} {lhs rhs : Expr} {b : Value} (hop : op = .divide ∨ op = .modulo)
      (hrhs : Evaluates functions answers scope rhs (.ok b)) (hb : (b.toNumber == 0) = true) :
      Raises (.binary op lhs rhs) .divisionByZero
  | isIn {lhs rhs : Expr} : Raises (.binary .isIn lhs rhs) (.unknownOperator .isIn)

/-- An expression accounts for a failure: it has a node that is evaluated and that fails so. -/
def Accounts (e : Expr) : EvalError → Prop
  | .unknownFunction name => name ∈ e.calls ∧ functions.get? name = none ∧
      ∃ args, Reaches functions answers scope (.call name args) e
  | .arityMismatch name expected actual => name ∈ e.calls ∧ (functions.get? name).isSome ∧
      ∃ args values, Reaches functions answers scope (.call name args) e ∧
        EvaluatesAll functions answers scope args (.ok values) ∧
        answers name values (.error (.arity expected actual))
  | .function name cause => name ∈ e.calls ∧ (functions.get? name).isSome ∧
      (∀ expected actual, cause ≠ .arity expected actual) ∧
      ∃ args values, Reaches functions answers scope (.call name args) e ∧
        EvaluatesAll functions answers scope args (.ok values) ∧
        answers name values (.error cause)
  | .unknownOperator op => op = .isIn ∧ .isIn ∈ e.operators ∧
      ∃ lhs rhs, Reaches functions answers scope (.binary .isIn lhs rhs) e
  | .divisionByZero => ∃ op lhs rhs b, (op = .divide ∨ op = .modulo) ∧ op ∈ e.operators ∧
      Reaches functions answers scope (.binary op lhs rhs) e ∧
      Evaluates functions answers scope rhs (.ok b) ∧ (b.toNumber == 0) = true

end Relations

section Reasons

variable {functions : Registry m}
  {answers : String → List Value → Except CallError Value → Prop} {scope : Scope} {node e : Expr}

theorem Reaches.calls_subset (h : Reaches functions answers scope node e) :
    node.calls ⊆ e.calls := by
  induction h with
  | refl => exact List.Subset.refl _
  | argument _ _ _ ih => simp only [calls, callsOfAll_eq_flatMap]; grind
  | left _ ih | right _ _ ih | operand _ ih | condition _ ih | whenTrue _ _ _ ih
  | whenFalse _ _ _ ih => simp only [calls]; grind

theorem Reaches.operators_subset (h : Reaches functions answers scope node e) :
    node.operators ⊆ e.operators := by
  induction h with
  | refl => exact List.Subset.refl _
  | argument _ _ _ ih => simp only [operators, operatorsOfAll_eq_flatMap]; grind
  | left _ ih | right _ _ ih | operand _ ih | condition _ ih | whenTrue _ _ _ ih
  | whenFalse _ _ _ ih => simp only [operators]; grind

mutual

/-- Every failure is raised by a node that is evaluated. -/
theorem exists_raises {e : Expr} {r : Except EvalError Value} :
    Evaluates functions answers scope e r → ∀ {error}, r = .error error →
      ∃ node, Reaches functions answers scope node e ∧ Raises functions answers scope node error
  | .literal _, _, hr => nomatch hr
  | .path _, _, hr => nomatch hr
  | .unknown hname, _, rfl => ⟨_, .refl, .unknown hname⟩
  | .argument hname hargs, _, rfl => by
    obtain ⟨before, arg, after, values, node, rfl, hbefore, hreaches, hraises⟩ :=
      exists_raises_of_all hargs rfl
    exact ⟨node, .argument hname hbefore hreaches, hraises⟩
  | @Evaluates.call _ _ _ _ name f args values answer hname hargs hanswer, _, hr => by
    cases answer with
    | ok v => cases hr
    | error cause =>
      cases hr
      exact ⟨_, .refl, .answer hname hargs hanswer⟩
  | .left hlhs, _, rfl => by
    obtain ⟨node, hreaches, hraises⟩ := exists_raises hlhs rfl
    exact ⟨node, .left hreaches, hraises⟩
  | .right hlhs hrhs, _, rfl => by
    obtain ⟨node, hreaches, hraises⟩ := exists_raises hrhs rfl
    exact ⟨node, .right hlhs hreaches, hraises⟩
  | .binary _ hrhs, _, hr => by
    obtain ⟨hop, hb, rfl⟩ | ⟨rfl, rfl⟩ := BinaryOp.apply_eq_error_iff.mp hr
    · exact ⟨_, .refl, .divisor hop hrhs hb⟩
    · exact ⟨_, .refl, .isIn⟩
  | .operand h, _, rfl => by
    obtain ⟨node, hreaches, hraises⟩ := exists_raises h rfl
    exact ⟨node, .operand hreaches, hraises⟩
  | .unary _, _, hr => nomatch hr
  | .condition h, _, rfl => by
    obtain ⟨node, hreaches, hraises⟩ := exists_raises h rfl
    exact ⟨node, .condition hreaches, hraises⟩
  | .whenTrue hcondition hc h, _, hr => by
    obtain ⟨node, hreaches, hraises⟩ := exists_raises h hr
    exact ⟨node, .whenTrue hcondition hc hreaches, hraises⟩
  | .whenFalse hcondition hc h, _, hr => by
    obtain ⟨node, hreaches, hraises⟩ := exists_raises h hr
    exact ⟨node, .whenFalse hcondition hc hreaches, hraises⟩

/-- Of several expressions it is a node of the first one that fails. -/
theorem exists_raises_of_all {es : List Expr} {r : Except EvalError (List Value)} :
    EvaluatesAll functions answers scope es r → ∀ {error}, r = .error error →
      ∃ before arg after values node, es = before ++ arg :: after ∧
        EvaluatesAll functions answers scope before (.ok values) ∧
        Reaches functions answers scope node arg ∧ Raises functions answers scope node error
  | .nil, _, hr => nomatch hr
  | @EvaluatesAll.head _ _ _ _ e es _ he, _, rfl => by
    obtain ⟨node, hreaches, hraises⟩ := exists_raises he rfl
    exact ⟨[], e, es, [], node, rfl, .nil, hreaches, hraises⟩
  | @EvaluatesAll.tail _ _ _ _ e _ v _ he hes, _, rfl => by
    obtain ⟨before, arg, after, values, node, rfl, hbefore, hreaches, hraises⟩ :=
      exists_raises_of_all hes rfl
    exact ⟨e :: before, arg, after, v :: values, node, rfl, .cons he hbefore, hreaches, hraises⟩
  | .cons _ _, _, hr => nomatch hr

end

/-- A node that is evaluated and raises a failure accounts for it. -/
theorem accounts_of_raises {error : EvalError} (hreaches : Reaches functions answers scope node e)
    (hraises : Raises functions answers scope node error) :
    Accounts functions answers scope e error := by
  cases hraises with
  | unknown hname => exact ⟨hreaches.calls_subset (by simp [calls]), hname, _, hreaches⟩
  | @answer name f args values cause hname hargs hanswer =>
    have hcalls : name ∈ e.calls := hreaches.calls_subset (by simp [calls])
    have hsome : (functions.get? name).isSome := by simp [hname]
    cases cause with
    | arity expected actual => exact ⟨hcalls, hsome, args, values, hreaches, hargs, hanswer⟩
    | divisionByZero | coercion _ | runtime _ =>
      exact ⟨hcalls, hsome, nofun, args, values, hreaches, hargs, hanswer⟩
  | divisor hop hrhs hb =>
    exact ⟨_, _, _, _, hop, hreaches.operators_subset (by simp [operators]), hreaches, hrhs, hb⟩
  | isIn => exact ⟨rfl, hreaches.operators_subset (by simp [operators]), _, _, hreaches⟩

end Reasons

variable [Monad m] [LawfulMonad m] {functions : Registry m} {scope : Scope}

/-- Without calls there is a value if no operator can be without one. -/
theorem exists_eval_eq_pure (e : Expr) (hcalls : e.calls = [])
    (hoperators : ∀ op ∈ e.operators, op ∉ [.divide, .modulo, .isIn]) :
    ∃ v, e.eval functions scope = pure v := by
  cases e with
  | literal v => exact ⟨v, by rw [eval]⟩
  | path text => exact ⟨scope.resolve text, by rw [eval]⟩
  | call name args => simp [calls] at hcalls
  | binary op lhs rhs =>
    simp only [calls, List.append_eq_nil_iff] at hcalls
    simp only [operators, List.cons_append, List.forall_mem_cons, List.forall_mem_append]
      at hoperators
    obtain ⟨hop, hlhs, hrhs⟩ := hoperators
    obtain ⟨a, ha⟩ := exists_eval_eq_pure lhs hcalls.1 hlhs
    obtain ⟨b, hb⟩ := exists_eval_eq_pure rhs hcalls.2 hrhs
    cases happly : op.apply a b with
    | ok v => exact ⟨v, by rw [eval, ha, hb, pure_bind, pure_bind, happly]; rfl⟩
    | error error =>
      have := BinaryOp.apply_eq_error_iff.mp happly
      grind
  | unary op operand =>
    obtain ⟨v, hv⟩ := exists_eval_eq_pure operand hcalls hoperators
    exact ⟨op.apply v, by rw [eval, hv, pure_bind]⟩
  | ternary condition whenTrue whenFalse =>
    simp only [calls, List.append_eq_nil_iff] at hcalls
    simp only [operators, List.forall_mem_append] at hoperators
    obtain ⟨c, hc⟩ := exists_eval_eq_pure condition hcalls.1.1 hoperators.1.1
    obtain ⟨v, hv⟩ := exists_eval_eq_pure whenTrue hcalls.1.2 hoperators.1.2
    obtain ⟨w, hw⟩ := exists_eval_eq_pure whenFalse hcalls.2 hoperators.2
    refine ⟨if c.toBool then v else w, ?_⟩
    rw [eval, hc, pure_bind, hv, hw]
    split <;> rfl

/-- Nothing in the alternative that a condition does not take can be told from the outside. -/
theorem eval_ternary_congr {verdict : Bool}
    {condition whenTrue whenFalse whenTrue' whenFalse' : Expr}
    (h : Ends (·.toBool = verdict) (fun _ => True) (condition.eval functions scope))
    (htrue : verdict = true → whenTrue = whenTrue')
    (hfalse : verdict = false → whenFalse = whenFalse') :
    (ternary condition whenTrue whenFalse).eval functions scope =
      (ternary condition whenTrue' whenFalse').eval functions scope := by
  rw [eval, eval]
  refine h.bind_eq_bind fun c hc => ?_
  cases verdict with
  | true => rw [if_pos hc, if_pos hc, htrue rfl]
  | false =>
    have hc : ¬c.toBool = true := by simp [hc]
    rw [if_neg hc, if_neg hc, hfalse rfl]

/-- Every failure of an expression is accounted for by one of its nodes that is evaluated. So there
is none without calls, divisions and membership, and never one from an alternative that a condition
does not take. -/
theorem eval_fails_only_raised (functions : Registry m)
    (answers : String → List Value → Except CallError Value → Prop)
    (h : functions.Answers answers) (scope : Scope) (e : Expr) :
    SatisfiesM (fun r => ∀ error, r = .error error → Accounts functions answers scope e error)
        (e.eval functions scope).run ∧
      (e.calls = [] → (∀ op ∈ e.operators, op ∉ [.divide, .modulo, .isIn]) →
        ∃ v, e.eval functions scope = pure v) ∧
      ∀ condition whenTrue whenFalse, e = .ternary condition whenTrue whenFalse →
        (Ends (·.toBool = true) (fun _ => True) (condition.eval functions scope) →
          ∀ other, e.eval functions scope =
            (ternary condition whenTrue other).eval functions scope) ∧
        (Ends (·.toBool = false) (fun _ => True) (condition.eval functions scope) →
          ∀ other, e.eval functions scope =
            (ternary condition other whenFalse).eval functions scope) := by
  refine ⟨SatisfiesM.imp (satisfies_eval h e) fun hr error herror => ?_,
    exists_eval_eq_pure e, ?_⟩
  · obtain ⟨node, hreaches, hraises⟩ := exists_raises hr herror
    exact accounts_of_raises hreaches hraises
  · rintro condition whenTrue whenFalse rfl
    exact ⟨fun hverdict _ => eval_ternary_congr hverdict (fun _ => rfl) nofun,
      fun hverdict _ => eval_ternary_congr hverdict nofun fun _ => rfl⟩

/-- Of a call that fails and one that is not there only the one that the condition takes is the
reason. -/
theorem eval_fails_only_raised_whenTrue :
    let size : Function Id := fun values => pure (.error (.arity (.exactly 1) values.length))
    let functions : Registry Id := Registry.empty.insert "size" size
    let scope := Scope.ofData (.object [("a", .boolean true)])
    let failing : Expr := .call "size" [.path "a", .literal .null]
    let e : Expr := .ternary (.path "a") failing (.call "length" [])
    functions.Answers functions.Returns ∧
      (e.eval functions scope).run = .error (.arityMismatch "size" (.exactly 1) 2) ∧
      Accounts functions functions.Returns scope e (.arityMismatch "size" (.exactly 1) 2) ∧
      e.eval functions scope = (ternary (.path "a") failing (.path "a")).eval functions scope := by
  intro size functions scope failing e
  have hrun : (e.eval functions scope).run = .error (.arityMismatch "size" (.exactly 1) 2) := by
    cbv
  have htaken : Ends (·.toBool = true) (fun _ => True) ((path "a").eval functions scope) :=
    ends_pure (by cbv)
  obtain ⟨haccounts, -, hternary⟩ :=
    eval_fails_only_raised functions functions.Returns functions.answers_returns scope e
  exact ⟨functions.answers_returns, hrun, SatisfiesM_Id_eq.mp haccounts _ hrun,
    (hternary _ _ _ rfl).1 htaken _⟩

end Expr

end DocTemplate

import DocTemplate.Proofs.Expr.Semantics
import DocTemplate.Proofs.Function.Failures

/-!
# Operators and functions of the same meaning

Many operators have a function that does the same. An expression with such an operator and a call of
the function come to the same value with the same effects, or they fail alike, as long as the name
still has the function of the library. A sum with a text in it is a concatenation, and a condition
is a call as well if its alternatives have values anyway.

## Main definitions

* `BinaryOp.twins` — the operators between two operands that have a function of the same meaning.
* `Expr.outcome` — the value of an expression, or the kind of its failure.

## Main statements

* `Expr.eval_call_standard` — what a call of a function of the library does.
* `Expr.outcome_twins` — operators and calls have the same outcome.
-/

namespace DocTemplate

/-- The operators between two operands that have a function of the same meaning, with its name. -/
def BinaryOp.twins : List (BinaryOp × String) :=
  [(.equal, "equals"), (.and, "and"), (.or, "or"), (.greaterThan, "greaterThan"),
    (.lessThan, "lessThan"), (.subtract, "sub"), (.divide, "div"), (.modulo, "mod")]

/-- The names of the functions that do what an operator does. -/
def Registry.twinNames : List String :=
  ["not", "concat", "if"] ++ BinaryOp.twins.map Prod.snd

variable {op : BinaryOp} {name : String}

/-- A division fails alike as an operator and as a function. -/
theorem BinaryOp.kind_dividing (f : Double → Double → Double) (x y : Value) :
    ((ArithmeticFunctions.dividing f x y).mapError (.ofCall name)).mapError EvalError.kind =
      ((BinaryOp.divisor y).map fun d => .number (f x.toNumber d)).mapError EvalError.kind := by
  unfold ArithmeticFunctions.dividing BinaryOp.divisor
  split <;> rfl

/-- A function answers two values like the operator that it stands for. -/
theorem BinaryOp.exists_twin (h : (op, name) ∈ twins) (now : Instant) :
    ∃ b, Builtin.standard? now name = some b ∧ ∀ x y,
      ((b.call [x, y]).mapError (EvalError.ofCall name)).mapError EvalError.kind =
        (op.apply x y).mapError EvalError.kind := by
  simp only [twins, List.mem_cons, Prod.mk.injEq, List.not_mem_nil, or_false] at h
  obtain ⟨rfl, rfl⟩ | ⟨rfl, rfl⟩ | ⟨rfl, rfl⟩ | ⟨rfl, rfl⟩ | ⟨rfl, rfl⟩ | ⟨rfl, rfl⟩ | ⟨rfl, rfl⟩ |
    ⟨rfl, rfl⟩ := h
  · exact ⟨_, rfl, fun x y => rfl⟩
  · refine ⟨_, rfl, fun x y => ?_⟩
    simp [Builtin.call, apply, Except.mapError]
  · refine ⟨_, rfl, fun x y => ?_⟩
    simp [Builtin.call, apply, Except.mapError]
  · exact ⟨_, rfl, fun x y => rfl⟩
  · exact ⟨_, rfl, fun x y => rfl⟩
  · exact ⟨_, rfl, fun x y => rfl⟩
  · exact ⟨_, rfl, kind_dividing _⟩
  · exact ⟨_, rfl, kind_dividing _⟩

namespace Expr

variable {m : Type → Type} [Monad m] [LawfulMonad m] {functions : Registry m} {scope : Scope}
  {now : Instant}

/-- The value of an expression, or the kind of its failure, with the effects of the functions it
calls. -/
def outcome (functions : Registry m) (scope : Scope) (e : Expr) :
    m (Except EvalError.Kind Value) :=
  (·.mapError EvalError.kind) <$> (e.eval functions scope).run

/-- Computations that go on alike from every value are seen alike. -/
theorem map_run_bind_congr {α β γ ε : Type} (view : Except ε β → γ) (x : ExceptT ε m α)
    {f g : α → ExceptT ε m β} (h : ∀ a, view <$> (f a).run = view <$> (g a).run) :
    view <$> (x >>= f).run = view <$> (x >>= g).run := by
  rw [ExceptT.run_bind, ExceptT.run_bind, map_bind, map_bind]
  refine bind_congr fun r => ?_
  cases r with
  | ok a => exact h a
  | error error => rfl

/-- A function of the library is called with the values of the arguments and has no effects. -/
theorem eval_call_standard {b : Builtin} (hb : Builtin.standard? now name = some b)
    (h : functions.get? name = (Registry.standard now).get? name) (args : List Expr) :
    (call name args).eval functions scope =
      evalAll functions scope args >>= fun values =>
        ExceptT.mk (pure ((b.call values).mapError (EvalError.ofCall name))) := by
  rw [Registry.standard_get?, hb, Option.map_some] at h
  rw [eval, h]
  refine bind_congr fun values => ExceptT.ext ?_
  cases hcall : b.call values <;> simp [hcall, Except.mapError]

theorem evalAll_one {α : Type} (a : Expr) (f : List Value → ExceptT EvalError m α) :
    evalAll functions scope [a] >>= f = a.eval functions scope >>= fun x => f [x] := by
  simp [evalAll]

theorem evalAll_two {α : Type} (a b : Expr) (f : List Value → ExceptT EvalError m α) :
    evalAll functions scope [a, b] >>= f =
      a.eval functions scope >>= fun x => b.eval functions scope >>= fun y => f [x, y] := by
  simp [evalAll]

/-- Two values that are gone on with one by one or as a list. -/
theorem evalAll_two_congr {α : Type} {a b : Expr} {P : List Value → Prop} {E : EvalError → Prop}
    (h : Ends P E (evalAll functions scope [a, b])) {f : Value → Value → ExceptT EvalError m α}
    {g : List Value → ExceptT EvalError m α} (hfg : ∀ x y, P [x, y] → f x y = g [x, y]) :
    (a.eval functions scope >>= fun x => b.eval functions scope >>= fun y => f x y) =
      evalAll functions scope [a, b] >>= g := by
  -- Only lists of two values occur, so what is done with the others is free.
  have htwo : (evalAll functions scope [a, b] >>= fun values =>
      if h : values.length = 2 then f values[0] values[1] else g values) = _ :=
    evalAll_two a b _
  refine htwo.symm.trans (h.bind_eq_bind fun values hvalues => ?_)
  by_cases hlength : values.length = 2
  · obtain ⟨x, y, rfl⟩ := List.length_eq_two.mp hlength
    exact hfg x y hvalues
  · exact dif_neg hlength

section Standard

variable (hstandard : ∀ name ∈ Registry.twinNames,
  functions.get? name = (Registry.standard now).get? name)

include hstandard

/-- An operator and the function of the same meaning have the same outcome. -/
theorem outcome_twins (h : (op, name) ∈ BinaryOp.twins) (a b : Expr) :
    outcome functions scope (.binary op a b) = outcome functions scope (.call name [a, b]) := by
  obtain ⟨f, hf, hcall⟩ := BinaryOp.exists_twin h now
  have hname : name ∈ Registry.twinNames :=
    List.mem_append_right _ (List.mem_map_of_mem h)
  rw [outcome, outcome, eval_call_standard hf (hstandard name hname), evalAll_two, eval]
  refine map_run_bind_congr _ _ fun x => map_run_bind_congr _ _ fun y => ?_
  simp [hcall]

/-- A negation is a call. -/
theorem eval_not (a : Expr) :
    (unary .not a).eval functions scope = (call "not" [a]).eval functions scope := by
  rw [eval_call_standard rfl (hstandard "not" (by decide)), evalAll_one, eval]
  rfl

/-- A sum in which one of the values is a text is a concatenation. -/
theorem eval_add_of_isString {a b : Expr}
    (h : Ends (fun values => ∃ v ∈ values, v.isString) (fun _ => True)
      (evalAll functions scope [a, b])) :
    (binary .add a b).eval functions scope = (call "concat" [a, b]).eval functions scope := by
  rw [eval_call_standard rfl (hstandard "concat" (by decide)), eval]
  refine evalAll_two_congr h fun x y hvalues => ?_
  have hstring : (x.isString || y.isString) = true := by simpa using hvalues
  have hplus : BinaryOp.plus x y = TextFunctions.concat [x, y] := by
    rw [BinaryOp.plus, if_pos hstring]
    simp [TextFunctions.concat]
  show ExceptT.mk (pure (.ok (BinaryOp.plus x y))) =
    ExceptT.mk (pure (.ok (TextFunctions.concat [x, y])))
  rw [hplus]

/-- A condition whose alternatives both have values is a call. -/
theorem eval_ternary_of_values {v w : Value} (c : Expr) {a b : Expr}
    (ha : a.eval functions scope = pure v) (hb : b.eval functions scope = pure w) :
    (ternary c a b).eval functions scope = (call "if" [c, a, b]).eval functions scope := by
  have hvalues : evalAll functions scope [c, a, b] =
      c.eval functions scope >>= fun x => pure [x, v, w] := by
    simp [evalAll, ha, hb]
  rw [eval_call_standard rfl (hstandard "if" (by decide)), eval, hvalues, bind_assoc, ha, hb]
  refine bind_congr fun x => ?_
  rw [pure_bind]
  show _ = pure (LogicFunctions.choose x v w)
  rw [LogicFunctions.choose]
  split <;> rfl

end Standard

/-- As long as the names have the functions of the library, an operator and the function of the same
meaning give the same value or fail alike, a sum in which one of the values is a text is a
concatenation, and a condition whose alternatives both have values is a call. -/
theorem operators_agree_with_functions (functions : Registry m) (now : Instant)
    (h : ∀ name ∈ Registry.twinNames,
      functions.get? name = (Registry.standard now).get? name) (scope : Scope) :
    (∀ op name, (op, name) ∈ BinaryOp.twins → ∀ a b,
      outcome functions scope (.binary op a b) = outcome functions scope (.call name [a, b])) ∧
    (∀ a, (unary .not a).eval functions scope = (call "not" [a]).eval functions scope) ∧
    (∀ a b, Ends (fun values => ∃ v ∈ values, v.isString) (fun _ => True)
        (evalAll functions scope [a, b]) →
      (binary .add a b).eval functions scope = (call "concat" [a, b]).eval functions scope) ∧
    ∀ c a b, (∃ v, a.eval functions scope = pure v) → (∃ w, b.eval functions scope = pure w) →
      (ternary c a b).eval functions scope = (call "if" [c, a, b]).eval functions scope := by
  refine ⟨fun _ _ hop a b => outcome_twins h hop a b, fun a => eval_not h a,
    fun _ _ hstring => eval_add_of_isString h hstring, ?_⟩
  rintro c a b ⟨v, ha⟩ ⟨w, hb⟩
  exact eval_ternary_of_values h c ha hb

/-- A division by a text that counts as zero, a sum of null and a text, and a condition, with a
function of the host beside those of the library. -/
theorem operators_agree_with_functions_host :
    let host : Function Id := fun values => pure (.ok (.array values))
    let functions : Registry Id := (Registry.standard ⟨0, 0, 0⟩).insert "list" host
    let scope := Scope.ofData (.object [("a", .string "x"), ("b", .null)])
    let list : Expr := .call "list" [.path "a"]
    outcome functions scope (.binary .divide list (.path "a")) = .error .divisionByZero ∧
      outcome functions scope (.call "div" [list, .path "a"]) = .error .divisionByZero ∧
      (binary .add (.path "b") (.path "a")).eval functions scope =
        (call "concat" [.path "b", .path "a"]).eval functions scope ∧
      (ternary (.path "b") (.path "a") list).eval functions scope =
        (call "if" [.path "b", .path "a", list]).eval functions scope := by
  intro host functions scope list
  have hnames : ∀ name ∈ Registry.twinNames,
      functions.get? name = (Registry.standard ⟨0, 0, 0⟩).get? name := by
    simp only [Registry.twinNames, BinaryOp.twins, List.map_cons, List.map_nil, List.cons_append,
      List.nil_append, List.forall_mem_cons]
    exact ⟨rfl, rfl, rfl, rfl, rfl, rfl, rfl, rfl, rfl, rfl, rfl, List.forall_mem_nil _⟩
  obtain ⟨htwins, -, hsum, hcondition⟩ :=
    operators_agree_with_functions functions ⟨0, 0, 0⟩ hnames scope
  have hpath (path : String) :
      (Expr.path path).eval functions scope = pure (scope.resolve path) := by
    rw [eval]
  have ha : scope.resolve "a" = .string "x" := by cbv
  have hlist : list.eval functions scope = pure (.array [.string "x"]) := by
    have hhost : functions.get? "list" = some host := rfl
    have hargs : evalAll functions scope [.path "a"] = pure [.string "x"] := by
      simp [evalAll, hpath, ha]
    rw [eval, hhost]
    simp only [hargs]
    rfl
  have hzero : ((Value.string "x").toNumber == 0) = true := by decide +kernel
  have hdivide : outcome functions scope (.binary .divide list (.path "a")) =
      .error .divisionByZero := by
    rw [outcome, eval, hlist, hpath, ha, pure_bind, pure_bind, BinaryOp.apply, BinaryOp.divisor,
      if_pos hzero]
    rfl
  have hvalues : evalAll functions scope [.path "b", .path "a"] =
      pure [scope.resolve "b", .string "x"] := by
    simp [evalAll, hpath, ha]
  refine ⟨hdivide, ?_, hsum _ _ ?_, hcondition _ _ _ ⟨_, hpath "a"⟩ ⟨_, hlist⟩⟩
  · rw [← htwins .divide "div" (by decide), hdivide]
  · rw [hvalues]
    exact ends_pure ⟨.string "x", by simp, rfl⟩

end Expr

end DocTemplate

import DocTemplate.Proofs.Engine.Transparency

/-!
# Runs of an engine

What a host does with an engine in some order, and what it is told. Whether there is a cache, how
large it is and how long it keeps its entries cannot be told from the answers.

## Main definitions

* `Engine.Step`, `Engine.Answer` — what can be done with an engine and what it answers.
* `Engine.runAll` — a run of one engine.
* `Engine.answersAfresh` — the answers of engines without cache, a new one for each step.

## Main statements

* `Engine.runAll_eq_answersAfresh` — a run answers as new engines without cache do.
-/

namespace DocTemplate.Engine

/-- Something that a host does with an engine. -/
inductive Step (m : Type → Type) where
  | evaluate (scope : Scope) (source : String)
  | parse (source : String)
  | process (scope : Scope) (text : String)
  | register (name : String) (f : Function m)
  | clear
  | purge
  | wait (millis : Nat)

/-- What a step tells the host about expressions and templates. -/
inductive Answer where
  | value (result : Except EngineError Value)
  | expression (result : Except ParseError Expr)
  | text (result : String)
  | done

variable {m : Type → Type} [Monad m]

/-- Does a step. -/
def run : Step m → StateT (Engine m) m Answer
  | .evaluate scope source => Answer.value <$> evaluate scope source
  | .parse source => Answer.expression <$> modifyGet (Engine.parse · source)
  | .process scope text => Answer.text <$> processTemplate scope text
  | .register name f => modifyGet fun e => (.done, e.register name f)
  | .clear => modifyGet fun e => (.done, e.clearCache)
  | .purge => modifyGet fun e => (.done, e.purgeExpired.2)
  | .wait millis => modifyGet fun e => (.done, e.wait millis)

/-- Does several steps in order. -/
def runAll : List (Step m) → StateT (Engine m) m (List Answer)
  | [] => pure []
  | step :: steps => do
    let answer ← run step
    let answers ← runAll steps
    pure (answer :: answers)

/-- The functions after a step. -/
def Step.registered (functions : Registry m) : Step m → Registry m
  | .register name f => functions.insert name f
  | _ => functions

/-- The answers to several steps when each of them is done by a new engine without cache that has
the functions registered so far. -/
def answersAfresh (config : Config) (functions : Registry m) : List (Step m) → m (List Answer)
  | [] => pure []
  | step :: steps => do
    let answer ← (run step).run' (uncached config functions)
    let answers ← answersAfresh config (step.registered functions) steps
    pure (answer :: answers)

variable [LawfulMonad m] {config : Config} {functions : Registry m}

/-- A step answers on an engine with a coherent cache as it does without, and leaves an engine with
a coherent cache that has the functions registered so far. -/
theorem run_behind (e : Behind (uncached config functions)) (step : Step m) :
    ∃ z : m (Answer × Behind (uncached config (step.registered functions))),
      (run step).run e.engine = (fun r => (r.1, r.2.engine)) <$> z ∧
      (run step).run' (uncached config functions) = Prod.fst <$> z := by
  have of_transparent {x : StateT (Engine m) m Answer} (h : Transparent x) :
      ∃ z : m (Answer × Behind (uncached config functions)),
        x.run e.engine = (fun r => (r.1, r.2.engine)) <$> z ∧
        x.run' (uncached config functions) = Prod.fst <$> z := by
    obtain ⟨z, hz, hz'⟩ := h _ e
    exact ⟨z, hz, by simp [StateT.run'_eq, hz']⟩
  cases step with
  | evaluate scope source => exact of_transparent ((transparent_evaluate scope source).map _)
  | parse source => exact of_transparent ((transparent_parse source).map _)
  | process scope text => exact of_transparent ((transparent_processTemplate scope text).map _)
  | register name f =>
    exact ⟨pure (.done, ⟨e.engine.register name f, e.coherent.register name f,
      congrArg (register · name f) e.withoutCache_eq⟩), by simp [run], by simp [run]⟩
  | clear =>
    exact ⟨pure (.done, ⟨e.engine.clearCache, coherent_clearCache e.engine, e.withoutCache_eq⟩),
      by simp [run], by simp [run]⟩
  | purge =>
    have h := e.coherent.purgeExpired
    exact ⟨pure (.done, ⟨e.engine.purgeExpired.2, h.1, h.2.trans e.withoutCache_eq⟩),
      by simp [run], by simp [run]⟩
  | wait millis =>
    exact ⟨pure (.done, ⟨e.engine.wait millis, e.coherent.wait millis, e.withoutCache_eq⟩),
      by simp [run], by simp [run]⟩

theorem runAll_behind (e : Behind (uncached config functions)) (steps : List (Step m)) :
    (runAll steps).run' e.engine = answersAfresh config functions steps := by
  induction steps generalizing functions with
  | nil => simp [runAll, answersAfresh]
  | cons step steps ih =>
    obtain ⟨z, hz, hz'⟩ := run_behind e step
    calc (runAll (step :: steps)).run' e.engine
      _ = (do
            let r ← z
            let answers ← (runAll steps).run' r.2.engine
            pure (r.1 :: answers)) := by
          simp [runAll, StateT.run'_eq, hz]
      _ = answersAfresh config functions (step :: steps) := by
          simp only [answersAfresh, hz', bind_map_left, ih]

/-- Every step of a run answers what a new engine without cache answers that has the functions
registered so far. -/
theorem runAll_eq_answersAfresh (config : Config) (functions : Registry m) (steps : List (Step m)) :
    (runAll steps).run' (ofFunctions functions config) = answersAfresh config functions steps :=
  runAll_behind ⟨_, coherent_ofFunctions functions config, rfl⟩ steps

/-- A function that counts its calls is registered after an expression that calls it was cached. -/
theorem runAll_counting :
    let config : Config := { cache := { maxEntries := 1, ttlMillis := some 8 } }
    let next : Function (StateM Nat) := fun _ => modifyGet fun n =>
      (.ok (.number (Float.ofNat n)), n + 1)
    let scope := Scope.ofData .null
    let steps := [.evaluate scope "next()", .register "next" next, .evaluate scope "next()",
      .wait 9, .purge, .process scope "${next()}", .clear, .parse "next("]
    (runAll steps).run' (ofFunctions .empty config) = answersAfresh config .empty steps := by
  intro config next scope steps
  exact runAll_eq_answersAfresh config .empty steps

end DocTemplate.Engine

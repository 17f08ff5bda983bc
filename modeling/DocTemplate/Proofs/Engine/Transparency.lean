import DocTemplate.Engine
import DocTemplate.Proofs.Cache.Contents

/-!
# Engines with and without a cache

What an engine answers does not depend on what its cache holds, as long as every expression in it is
the one its source stands for. Functions of the host may have effects; these are the same as well.

## Main definitions

* `Engine.Coherent` — every cached expression is the one of its source.
* `Engine.withoutCache` — the engine that has the same functions and no cache.
* `Engine.Behind` — an engine with a coherent cache that has a given engine without.
* `Engine.Transparent` — a computation that answers the same on both.

## Main statements

* `Engine.Transparent.bind` — transparent computations can be put in a row.
* `Engine.transparent_evaluate`, `Engine.transparent_processTemplate` — what engines do is
  transparent.
-/

namespace DocTemplate.Engine

variable {m : Type → Type} {α β ε : Type} {e d : Engine m}

/-- Every expression in the cache is the one that its source stands for. -/
def Coherent (e : Engine m) : Prop :=
  ∀ cache ∈ e.cache, cache.Holds fun source expr => Expr.parse source = .ok expr

/-- An engine with the given functions and no cache. -/
def uncached (config : Config) (functions : Registry m) : Engine m :=
  ofFunctions functions { config with cacheEnabled := false }

@[simp] theorem cache_uncached (config : Config) (functions : Registry m) :
    (uncached config functions).cache = none := by
  simp [uncached, ofFunctions]

@[simp] theorem functions_uncached (config : Config) (functions : Registry m) :
    (uncached config functions).functions = functions :=
  rfl

/-- The engine with the same settings and functions and no cache. -/
def withoutCache (e : Engine m) : Engine m :=
  uncached e.config e.functions

theorem coherent_ofFunctions (functions : Registry m) (config : Config) :
    (ofFunctions functions config).Coherent := by
  intro cache hcache
  by_cases h : config.cacheEnabled
  · obtain rfl : Cache.empty config.cache.maxEntries config.cache.ttlMillis = cache := by
      simpa [ofFunctions, h] using hcache
    exact Cache.holds_empty _ _
  · simp [ofFunctions, h] at hcache

theorem Coherent.register (h : e.Coherent) (name : String) (f : Function m) :
    (e.register name f).Coherent :=
  h

theorem coherent_clearCache (e : Engine m) : e.clearCache.Coherent := by
  intro cache hcache
  obtain ⟨c, hc, rfl⟩ := Option.map_eq_some_iff.mp hcache
  exact Cache.holds_clear c

theorem Coherent.purgeExpired (h : e.Coherent) :
    e.purgeExpired.2.Coherent ∧ e.purgeExpired.2.withoutCache = e.withoutCache := by
  unfold Engine.purgeExpired
  split
  · exact ⟨h, rfl⟩
  · rename_i c hc
    refine ⟨?_, rfl⟩
    rintro _ ⟨⟩
    exact (h c hc).purge

theorem Coherent.wait (h : e.Coherent) (millis : Nat) : (e.wait millis).Coherent := by
  intro cache hcache
  obtain ⟨c, hc, rfl⟩ := Option.map_eq_some_iff.mp hcache
  exact (h c hc).wait millis

/-- An engine with a coherent cache reads every source as it stands and stays coherent. -/
theorem Coherent.parse (h : e.Coherent) (source : String) :
    (e.parse source).1 = Expr.parse source ∧ (e.parse source).2.Coherent ∧
      (e.parse source).2.withoutCache = e.withoutCache := by
  unfold Engine.parse
  split
  · exact ⟨rfl, h, rfl⟩
  · rename_i cache hcache
    obtain ⟨hresult, hholds⟩ := (h cache hcache).fetch source
      (fun cache => ((Expr.parse source, ()), cache)) fun d hd => ⟨rfl, hd⟩
    refine ⟨hresult, ?_, rfl⟩
    rintro _ ⟨⟩
    exact hholds

theorem parse_of_cache_eq (h : e.cache = none) (source : String) :
    e.parse source = (Expr.parse source, e) := by
  simp [parse, h]

/-- The engines that an engine without cache stands for: they may have a coherent cache. -/
structure Behind (plain : Engine m) where
  engine : Engine m
  coherent : engine.Coherent
  withoutCache_eq : engine.withoutCache = plain

namespace Behind

variable {plain : Engine m}

theorem cache_eq (e : Behind plain) : plain.cache = none := by
  rw [← e.withoutCache_eq, withoutCache, cache_uncached]

theorem functions_eq (e : Behind plain) : e.engine.functions = plain.functions :=
  (functions_uncached e.engine.config _).symm.trans (congrArg functions e.withoutCache_eq)

theorem parse (e : Behind plain) (source : String) :
    ∃ d : Behind plain, e.engine.parse source = (Expr.parse source, d.engine) := by
  obtain ⟨hresult, hcoherent, heq⟩ := e.coherent.parse source
  exact ⟨⟨_, hcoherent, heq.trans e.withoutCache_eq⟩, Prod.ext hresult rfl⟩

end Behind

variable [Monad m]

/-- A computation that answers the same on an engine with a coherent cache and on the one without,
with the same effects, keeps the cache coherent and does not change the engine otherwise. -/
def Transparent (x : StateT (Engine m) m α) : Prop :=
  ∀ (plain : Engine m) (e : Behind plain), ∃ z : m (α × Behind plain),
    x.run e.engine = (fun r => (r.1, r.2.engine)) <$> z ∧
    x.run plain = (fun r => (r.1, plain)) <$> z

variable [LawfulMonad m]

/-- A computation whose effects do not depend on the cache is transparent. -/
theorem transparent_of_run {x : StateT (Engine m) m α}
    (h : ∀ (plain : Engine m) (e : Behind plain), ∃ (d : Behind plain) (y : m α),
      x.run e.engine = (fun a => (a, d.engine)) <$> y ∧ x.run plain = (fun a => (a, plain)) <$> y) :
    Transparent x := by
  intro plain e
  obtain ⟨d, y, hrun, hplain⟩ := h plain e
  exact ⟨(fun a => (a, d)) <$> y, by simpa using hrun, by simpa using hplain⟩

theorem transparent_pure (a : α) : Transparent (pure a : StateT (Engine m) m α) :=
  transparent_of_run fun _ e => ⟨e, pure a, by simp, by simp⟩

theorem Transparent.bind {x : StateT (Engine m) m α} {f : α → StateT (Engine m) m β}
    (hx : Transparent x) (hf : ∀ a, Transparent (f a)) : Transparent (x >>= f) := by
  intro plain e
  obtain ⟨z, hz, hz'⟩ := hx plain e
  obtain ⟨w, hw⟩ := Classical.axiomOfChoice fun r : α × Behind plain => hf r.1 plain r.2
  refine ⟨z >>= w, ?_, ?_⟩
  · simp [hz, fun r => (hw r).1]
  · simp [hz', fun r => (hw r).2]

theorem Transparent.map {x : StateT (Engine m) m α} (hx : Transparent x) (f : α → β) :
    Transparent (f <$> x) := by
  rw [map_eq_pure_bind]
  exact hx.bind fun a => transparent_pure (f a)

theorem Transparent.run_lift {x : StateT (Engine m) m α} (hx : Transparent x) :
    Transparent (ExceptT.lift x : ExceptT ε (StateT (Engine m) m) α).run := by
  rw [ExceptT.run_lift]
  exact hx.map Except.ok

theorem Transparent.run_bind {x : ExceptT ε (StateT (Engine m) m) α}
    {f : α → ExceptT ε (StateT (Engine m) m) β} (hx : Transparent x.run)
    (hf : ∀ a, Transparent (f a).run) : Transparent (x >>= f).run := by
  rw [ExceptT.run_bind]
  exact hx.bind fun
    | .ok a => hf a
    | .error error => transparent_pure (Except.error error)

/-- A transparent computation answers on an engine with a coherent cache as it does without. -/
theorem Transparent.run'_eq {x : StateT (Engine m) m α} (hx : Transparent x) (h : e.Coherent) :
    x.run' e = x.run' e.withoutCache := by
  let behind : Behind e.withoutCache := ⟨e, h, rfl⟩
  obtain ⟨z, hz, hz'⟩ := hx e.withoutCache behind
  have hrun : x.run e = (fun r => (r.1, r.2.engine)) <$> z := hz
  rw [StateT.run'_eq, StateT.run'_eq, hrun, hz', Functor.map_map, Functor.map_map]

theorem transparent_parse (source : String) :
    Transparent (modifyGet (parse · source) : StateT (Engine m) m _) := by
  refine transparent_of_run fun plain e => ?_
  obtain ⟨d, hd⟩ := e.parse source
  exact ⟨d, pure (Expr.parse source), by simp [hd], by simp [parse_of_cache_eq e.cache_eq]⟩

/-- The value of the text of an expression, read as it stands. -/
def value (functions : Registry m) (scope : Scope) (source : String) :
    m (Except EngineError Value) :=
  match Expr.parse source with
  | .error error => pure (.error (.parse error))
  | .ok expr => Except.mapError .evaluation <$> (expr.eval functions scope).run

theorem run_evaluate (scope : Scope) {source : String}
    (h : e.parse source = (Expr.parse source, d)) :
    (evaluate scope source).run e = (fun r => (r, d)) <$> value d.functions scope source := by
  cases hexpr : Expr.parse source with
  | error error => simp [StateT.run, evaluate, value, h, hexpr]
  | ok expr =>
    simp only [StateT.run, evaluate, value, h, hexpr, ← comp_map]
    rw [map_eq_pure_bind]
    congr 1
    funext r
    cases r <;> rfl

theorem transparent_evaluate (scope : Scope) (source : String) :
    Transparent (evaluate scope source : StateT (Engine m) m _) := by
  refine transparent_of_run fun plain e => ?_
  obtain ⟨d, hd⟩ := e.parse source
  exact ⟨d, value plain.functions scope source, d.functions_eq ▸ run_evaluate scope hd,
    run_evaluate scope (parse_of_cache_eq e.cache_eq source)⟩

theorem transparent_fill (policy : BindingErrors) (scope : Scope) (position : Nat)
    (text : List Char) :
    Transparent (m := m) (Binding.fill (evaluate scope) policy position text).run := by
  fun_induction Binding.fill (evaluate scope : String → StateT (Engine m) m _) policy position text
    with
  | case1 => exact transparent_pure _
  | case2 => exact transparent_pure _
  | case3 _ _ _ _ _ _ body _ _ ih =>
    refine (transparent_evaluate scope (String.ofList body)).run_lift.run_bind fun result => ?_
    exact ih.run_bind fun filled => transparent_pure _

theorem transparent_interpolate (policy : BindingErrors) (scope : Scope) (text : String) :
    Transparent (m := m) (interpolate policy scope text).run :=
  (transparent_fill policy scope 0 text.toList).run_bind fun _ => transparent_pure _

theorem transparent_processTemplate (scope : Scope) (text : String) :
    Transparent (processTemplate scope text : StateT (Engine m) m _) := by
  refine (transparent_interpolate .keepOriginal scope text).bind fun
    | .ok result => transparent_pure result
    | .error (.unmatchedBrace position) => ?_
    | .error .json => transparent_pure text
  refine (transparent_interpolate .keepOriginal scope _).bind fun
    | .ok result => transparent_pure _
    | .error _ => transparent_pure text

end DocTemplate.Engine

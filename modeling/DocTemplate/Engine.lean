import DocTemplate.Cache.Basic
import DocTemplate.Document.Expansion
import DocTemplate.Evaluation
import DocTemplate.Expr.Parsing
import DocTemplate.Function.Standard
import DocTemplate.Value.Reading

/-!
# Engines

An engine holds the functions that expressions may call and, unless it is switched off, a cache of
the expressions that were read.

## Main definitions

* `Engine` — functions, settings and cache.
* `Engine.parse`, `Engine.evaluate` — reading and evaluating the text of an expression.
* `Engine.interpolate`, `Engine.expand` — templates, with a policy for bindings that fail.
* `Engine.processTemplate` — a text whose bindings are replaced as far as it is well formed.
-/

namespace DocTemplate

/-- Functions, settings and the cache of expressions. -/
structure Engine (m : Type → Type) where
  config : Config
  functions : Registry m
  cache : Option (Cache Expr)

/-- Why the text of an expression has no value. -/
inductive EngineError where
  | parse (e : ParseError)
  | evaluation (e : EvalError)
deriving Repr

/-- The wording of an error. -/
def EngineError.message : EngineError → String
  | .parse e => "Parse error: " ++ e.message
  | .evaluation e => "Evaluation error: " ++ e.message

namespace Engine

variable {m : Type → Type}

/-- An engine with the given functions. -/
def ofFunctions (functions : Registry m) (config : Config) : Engine m where
  config := config
  functions := functions
  cache :=
    if config.cacheEnabled then some (Cache.empty config.cache.maxEntries config.cache.ttlMillis)
    else none

/-- An engine with the standard functions. -/
def standard [Monad m] (now : Instant) (config : Config) : Engine m :=
  ofFunctions (Registry.standard now) config

/-- Gives a name a function. -/
def register (e : Engine m) (name : String) (f : Function m) : Engine m :=
  { e with functions := e.functions.insert name f }

/-- The expression of a text, taken from the cache if it is there. -/
def parse (e : Engine m) (source : String) : Except ParseError Expr × Engine m :=
  match e.cache with
  | none => (Expr.parse source, e)
  | some cache =>
    let ((result, _), cache) := cache.fetch source fun cache => ((Expr.parse source, ()), cache)
    (result, { e with cache := some cache })

/-- Removes all expressions from the cache. -/
def clearCache (e : Engine m) : Engine m :=
  { e with cache := e.cache.map Cache.clear }

/-- Removes the expressions from the cache that have expired, and counts them. -/
def purgeExpired (e : Engine m) : Nat × Engine m :=
  match e.cache with
  | none => (0, e)
  | some cache => (cache.purge.1, { e with cache := some cache.purge.2 })

/-- Lets time pass. -/
def wait (e : Engine m) (millis : Nat) : Engine m :=
  { e with cache := e.cache.map (·.wait millis) }

variable [Monad m]

/-- The value of the text of an expression in a scope. -/
def evaluate (scope : Scope) (source : String) : StateT (Engine m) m (Except EngineError Value) :=
  fun e =>
    match e.parse source with
    | (.error error, e) => pure (.error (.parse error), e)
    | (.ok expr, e) => do
      match ← (Expr.eval e.functions scope expr).run with
      | .ok v => pure (.ok v, e)
      | .error error => pure (.error (.evaluation error), e)

/-- A text with its bindings replaced. -/
def interpolate (policy : BindingErrors) (scope : Scope) (text : String) :
    ExceptT TemplateError (StateT (Engine m) m) String :=
  Binding.interpolate (evaluate scope) policy text

/-- The document that a template stands for. -/
def expand (policy : BindingErrors) (scope : Scope) (template : Value) :
    ExceptT TemplateError (StateT (Engine m) m) Value :=
  Document.expand evaluate policy scope template

/-- The JSON text of the document that a template stands for, both template and data given as JSON
texts. -/
def expandJson (policy : BindingErrors) (template data : String) :
    ExceptT TemplateError (StateT (Engine m) m) String := do
  match Value.read? template with
  | none => throw .json
  | some template =>
    match Value.read? data with
    | none => throw .json
    | some data => do
      let v ← expand policy (Scope.ofData data) template
      pure v.json

/-- A text with its bindings replaced and those that fail left as they are written. What follows a
binding that is not closed is left as it is. -/
def processTemplate (scope : Scope) (text : String) : StateT (Engine m) m String := do
  match ← (interpolate .keepOriginal scope text).run with
  | .ok result => pure result
  | .error (.unmatchedBrace position) => do
    let (head, tail) := Text.splitAtByte position text.toList
    match ← (interpolate .keepOriginal scope (String.ofList head)).run with
    | .ok result => pure (result ++ String.ofList tail)
    | .error _ => pure text
  | .error .json => pure text

end Engine

end DocTemplate

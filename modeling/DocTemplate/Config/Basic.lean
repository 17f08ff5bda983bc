/-!
# Settings

The settings of an engine. Each has a default.

## Main definitions

* `Config` — whether and how expressions are cached, and what becomes of bindings that fail.
-/

namespace DocTemplate

/-- What stands in the place of a binding that fails. -/
inductive BindingErrors where
  /-- Nothing. -/
  | empty
  /-- The binding as it is written. -/
  | keepOriginal
deriving DecidableEq, Repr

/-- The settings of the cache. -/
structure CacheConfig where
  maxEntries : Nat := 256
  ttlMillis : Option Nat := none
deriving DecidableEq, Repr

/-- The settings of an engine. -/
structure Config where
  cacheEnabled : Bool := true
  cache : CacheConfig := {}
  bindingErrors : BindingErrors := .empty
deriving DecidableEq, Repr

/-- The name of a policy in settings. -/
def BindingErrors.name : BindingErrors → String
  | .empty => "empty"
  | .keepOriginal => "keep_original"

/-- The policy of a name. -/
def BindingErrors.ofName? (name : String) : Option BindingErrors :=
  [.empty, .keepOriginal].find? (·.name == name)

end DocTemplate

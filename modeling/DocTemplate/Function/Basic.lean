import DocTemplate.Value.Basic

/-!
# Functions

What an expression can call: functions from a list of values to a value or an error. A function may
have effects in a monad of the host's choice; the functions of the library have none.

## Main definitions

* `Arity` — how many arguments a function takes.
* `CallError` — why a call fails, with its wording in `CallError.message`.
* `Function` — a function of the host's monad.
* `Registry` — the functions that can be called, by name.
-/

namespace DocTemplate

/-- How many arguments a function takes. -/
inductive Arity where
  | exactly (n : Nat)
  | between (least greatest : Nat)
  | atLeast (n : Nat)
deriving DecidableEq, Repr

namespace Arity

/-- Whether a number of arguments is allowed. -/
def accepts : Arity → Nat → Bool
  | .exactly n, count => count == n
  | .between least greatest, count => least ≤ count && count ≤ greatest
  | .atLeast n, count => n ≤ count

/-- How an arity is written in a message. -/
def text : Arity → String
  | .exactly n => toString n
  | .between least greatest => toString least ++ " to " ++ toString greatest
  | .atLeast n => "at least " ++ toString n

end Arity

/-- Why a call fails. -/
inductive CallError where
  /-- The number of arguments is not allowed. -/
  | arity (expected : Arity) (actual : Nat)
  | divisionByZero
  /-- An argument cannot be taken as what is needed. -/
  | coercion (reason : String)
  /-- The arguments are understood but there is no result. -/
  | runtime (reason : String)
deriving DecidableEq, Repr

/-- The wording of an error. -/
def CallError.message : CallError → String
  | .arity expected actual =>
    "Argument count mismatch: expected " ++ expected.text ++ ", got " ++ toString actual
  | .divisionByZero => "Division by zero"
  | .coercion reason => "Type coercion failed: " ++ reason
  | .runtime reason => "Runtime error: " ++ reason

/-- Fails unless a number of arguments is allowed. -/
def Arity.check (arity : Arity) (count : Nat) : Except CallError Unit :=
  if arity.accepts count then .ok () else .error (.arity arity count)

/-- A function that an expression can call, with effects in `m`. -/
abbrev Function (m : Type → Type) := List Value → m (Except CallError Value)

/-- The functions that can be called, by name. -/
structure Registry (m : Type → Type) where
  functions : List (String × Function m)

namespace Registry

variable {m : Type → Type}

/-- No functions. -/
def empty : Registry m := ⟨[]⟩

/-- The function of a name. -/
def get? (r : Registry m) (name : String) : Option (Function m) :=
  r.functions.lookup name

/-- Whether a name has a function. -/
def contains (r : Registry m) (name : String) : Bool :=
  (r.get? name).isSome

/-- Gives a name a function, in place of the one it may have had. -/
def insert (r : Registry m) (name : String) (f : Function m) : Registry m :=
  ⟨Value.insertMember name f r.functions⟩

/-- The number of functions. -/
def size (r : Registry m) : Nat :=
  r.functions.length

/-- The names that have functions. -/
def names (r : Registry m) : List String :=
  r.functions.map (·.1)

end Registry

end DocTemplate

import DocTemplate.Function.Arithmetic
import DocTemplate.Function.Calendar
import DocTemplate.Function.Collection
import DocTemplate.Function.Conversion
import DocTemplate.Function.Logic
import DocTemplate.Function.TextFunctions

/-!
# The standard functions

## Main definitions

* `Builtin.standard` — the functions of the library by name.
* `Registry.standard` — the registry that holds them.
-/

namespace DocTemplate

/-- The functions of the library, with the present that dates fall back to. -/
def Builtin.standard (now : Instant) : List (String × Builtin) :=
  TextFunctions.all ++ ArithmeticFunctions.all ++ CollectionFunctions.all ++ LogicFunctions.all
    ++ ConversionFunctions.all ++ CalendarFunctions.all now

/-- The function of a name. -/
def Builtin.standard? (now : Instant) (name : String) : Option Builtin :=
  (Builtin.standard now).lookup name

/-- The registry of the standard functions, which have no effects. -/
def Registry.standard {m : Type → Type} [Monad m] (now : Instant) : Registry m where
  functions := (Builtin.standard now).map fun (name, f) => (name, fun args => pure (f.call args))

end DocTemplate

import DocTemplate.Binding.Span
import DocTemplate.Config.Basic
import DocTemplate.Text.Search
import DocTemplate.Value.Writing

/-!
# Interpolation

The bindings of a text are replaced by the display texts of their values. A binding that has no
value leaves nothing behind, or stays as it is written. What has been put in is not looked at again.

The way an expression is evaluated is a parameter, so that it may have effects.

## Main definitions

* `Binding.interpolate` — the text with its bindings replaced.
* `TemplateError` — why a template cannot be expanded.
-/

namespace DocTemplate

/-- Why a template cannot be expanded. -/
inductive TemplateError where
  /-- The binding that starts at a byte position is not closed. -/
  | unmatchedBrace (position : Nat)
  /-- A text that should be JSON is not. -/
  | json
deriving DecidableEq, Repr

/-- The wording of an error. -/
def TemplateError.message : TemplateError → String
  | .unmatchedBrace position =>
    "Unmatched brace in template expression starting at byte " ++ toString position
  | .json => "Invalid JSON"

namespace Binding

variable {n : Type → Type} [Monad n] {ε : Type}

/-- What stands in the place of a binding. -/
def shown (policy : BindingErrors) (body : List Char) : Except ε Value → List Char
  | .ok v => v.display.toList
  | .error _ =>
    match policy with
    | .empty => []
    | .keepOriginal => opening ++ body ++ ['}']

/-- The text that starts at a byte position with its bindings replaced, from left to right. The
bindings before one that is not closed are evaluated all the same. -/
def fill (evaluate : String → n (Except ε Value)) (policy : BindingErrors) (position : Nat)
    (text : List Char) : ExceptT TemplateError n (List Char) :=
  match _h : Text.cut? opening text with
  | none => pure text
  | some (before, behind) =>
    let start := position + Text.utf8Size before
    match _hc : closing 0 behind with
    | none => throw (.unmatchedBrace start)
    | some (body, rest) => do
      let result ← (evaluate (String.ofList body) : n (Except ε Value))
      let filled ←
        fill evaluate policy (start + Text.utf8Size opening + Text.utf8Size body + 1) rest
      pure (before ++ shown policy body result ++ filled)
termination_by text.length
decreasing_by
  have := Text.length_of_cut? _h
  have := length_of_closing _hc
  omega

/-- The text with its bindings replaced. -/
def interpolate (evaluate : String → n (Except ε Value)) (policy : BindingErrors) (text : String) :
    ExceptT TemplateError n String := do
  let filled ← fill evaluate policy 0 text.toList
  pure (String.ofList filled)

end Binding

end DocTemplate

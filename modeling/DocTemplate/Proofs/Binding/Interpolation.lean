import DocTemplate.Engine
import DocTemplate.Proofs.Binding.Decomposition

/-!
# Interpolation by parts

To interpolate a text is to evaluate the bodies of its spans in order and to put what they are
filled with in a row. A text with an opening that is not closed fails at this opening.

## Main definitions

* `Binding.Span.filled` — a span with its binding replaced.
* `Binding.Decomposition.interpolated` — a text put together from its filled spans.

## Main statements

* `Binding.run_fill_plain`, `Binding.run_fill_unclosed`, `Binding.run_fill_span` — one step of the
  scan.
* `Binding.interpolate_eq_interpolated` — what the scan as a whole does.
-/

namespace DocTemplate

namespace Binding

variable {n : Type → Type} [Monad n] {ε : Type} {evaluate : String → n (Except ε Value)}
  {policy : BindingErrors} {position : Nat} {text before behind body rest : List Char}

theorem run_fill_plain (h : Text.cut? opening text = none) :
    (fill evaluate policy position text).run = pure (.ok text) := by
  rw [fill]
  split
  · rfl
  · simp_all

theorem run_fill_unclosed (h : Text.cut? opening text = some (before, behind))
    (hc : closing 0 behind = none) :
    (fill evaluate policy position text).run =
      pure (.error (.unmatchedBrace (position + Text.utf8Size before))) := by
  rw [fill]
  split
  · simp_all
  · rename_i h'
    obtain ⟨rfl, rfl⟩ : before = _ ∧ behind = _ := by simpa [h] using h'
    split
    · rfl
    · simp_all

theorem run_fill_span [LawfulMonad n] (h : Text.cut? opening text = some (before, behind))
    (hc : closing 0 behind = some (body, rest)) :
    (fill evaluate policy position text).run = (do
      let result ← evaluate (String.ofList body)
      let filled ← (fill evaluate policy (position + Text.utf8Size before + Text.utf8Size opening +
        Text.utf8Size body + 1) rest).run
      pure (filled.map fun filled => before ++ shown policy body result ++ filled)) := by
  rw [fill]
  split
  · simp_all
  · rename_i h'
    obtain ⟨rfl, rfl⟩ : before = _ ∧ behind = _ := by simpa [h] using h'
    split
    · simp_all
    · rename_i hc'
      obtain ⟨rfl, rfl⟩ : body = _ ∧ rest = _ := by simpa [hc] using hc'
      refine (ExceptT.run_bind_lift _ _).trans (bind_congr fun result => ?_)
      rw [ExceptT.run_bind]
      refine bind_congr fun filled => ?_
      cases filled <;> rfl

/-- A span with its binding replaced by the display text of its value. If there is no value it is
replaced by nothing or left as it is written. -/
def Span.filled (policy : BindingErrors) (s : Span) : Except ε Value → List Char
  | .ok v => s.chunk ++ v.display.toList
  | .error _ =>
    match policy with
    | .empty => s.chunk
    | .keepOriginal => s.chunk ++ s.binding

theorem Span.filled_eq (policy : BindingErrors) (s : Span) (result : Except ε Value) :
    s.filled policy result = s.chunk ++ shown policy s.body result := by
  cases result with
  | ok v => rfl
  | error _ => cases policy <;> simp [filled, shown, binding]

theorem Span.utf8Size_text (s : Span) :
    Text.utf8Size s.text =
      Text.utf8Size s.chunk + Text.utf8Size opening + Text.utf8Size s.body + 1 := by
  have hclosing : Text.utf8Size ['}'] = 1 := rfl
  rw [text, binding, Text.utf8Size_append, Text.utf8Size_append, Text.utf8Size_append, hclosing]
  omega

namespace Decomposition

/-- The bodies evaluated in order, and the filled spans in a row unless an opening is not closed. -/
def interpolated (evaluate : String → n (Except ε Value)) (policy : BindingErrors)
    (d : Decomposition) : ExceptT TemplateError n String := do
  let pieces ← (d.spans.mapM fun s => s.filled policy <$> evaluate (String.ofList s.body) : n _)
  match d.unclosed with
  | none => pure (String.ofList (pieces.flatten ++ d.last))
  | some _ => throw (.unmatchedBrace (Text.utf8Size d.closed))

/-- What the spans of a text leave when `pieces` are put in their place, if the text starts at a
byte position. -/
def outcome (position : Nat) (pieces : List (List Char)) (d : Decomposition) :
    Except TemplateError (List Char) :=
  match d.unclosed with
  | none => .ok (pieces.flatten ++ d.last)
  | some _ => .error (.unmatchedBrace (position + Text.utf8Size d.closed))

theorem outcome_cons (position : Nat) (piece : List Char) (pieces : List (List Char)) (s : Span)
    (d : Decomposition) :
    (d.cons s).outcome position (piece :: pieces) =
      (d.outcome (position + Text.utf8Size s.text) pieces).map (piece ++ ·) := by
  simp only [outcome, cons]
  split
  · simp [Except.map]
  · simp [Except.map, closed, Text.utf8Size_append]
    omega

end Decomposition

theorem run_fill_text [LawfulMonad n] (d : Decomposition) :
    (fill evaluate policy position d.text).run = (do
      let pieces ← d.spans.mapM fun s => s.filled policy <$> evaluate (String.ofList s.body)
      pure (d.outcome position pieces)) := by
  induction d using Decomposition.induction generalizing position with
  | plain last h =>
    rw [run_fill_plain (Decomposition.cut?_text_plain h)]
    simp [Decomposition.outcome]
  | unclosed last h tail =>
    rw [run_fill_unclosed (Decomposition.cut?_text_unclosed h tail)
      (Decomposition.closing_tail tail)]
    simp [Decomposition.outcome, Decomposition.closed]
  | cons s d ih =>
    rw [run_fill_span (Decomposition.cut?_text_cons s d) (Decomposition.closing_body s d.text)]
    have hstep : position + Text.utf8Size s.chunk + Text.utf8Size opening + Text.utf8Size s.body +
        1 = position + Text.utf8Size s.text := by
      rw [s.utf8Size_text]
      omega
    calc
      _ = (do
            let result ← evaluate (String.ofList s.body)
            let pieces ← d.spans.mapM fun s => s.filled policy <$> evaluate (String.ofList s.body)
            pure ((d.outcome (position + Text.utf8Size s.text) pieces).map
              (s.filled policy result ++ ·))) := by
          simp only [hstep, ih, bind_assoc, pure_bind, s.filled_eq]
      _ = _ := by
          simp only [← Decomposition.outcome_cons]
          simp [Decomposition.cons]

/-- To interpolate a text is to put it together from its filled spans. -/
theorem interpolate_eq_interpolated [LawfulMonad n] {text : String} {d : Decomposition}
    (h : d.text = text.toList) :
    interpolate evaluate policy text = d.interpolated evaluate policy := by
  apply ExceptT.ext
  rw [interpolate, ← h, ExceptT.run_bind, run_fill_text, Decomposition.interpolated]
  refine Eq.trans ?_ (ExceptT.run_bind_lift _ _).symm
  rw [bind_assoc]
  refine bind_congr fun pieces => ?_
  cases hunclosed : d.unclosed <;> simp [Decomposition.outcome, hunclosed]

end Binding

namespace Engine

variable {m : Type → Type} [Monad m] [LawfulMonad m]

/-- Every text has exactly one decomposition, and to interpolate the text is to evaluate the bodies
of its spans in order and to put the filled spans in a row, unless an opening is not closed. -/
theorem interpolate_decomposition (policy : BindingErrors) (scope : Scope) (text : String) :
    (∃! d : Binding.Decomposition, d.text = text.toList) ∧
      ∀ d : Binding.Decomposition, d.text = text.toList →
        interpolate policy scope text =
          d.interpolated (evaluate scope : String → StateT (Engine m) m _) policy :=
  ⟨Binding.Decomposition.existsUnique_text_eq text.toList,
    fun _ h => Binding.interpolate_eq_interpolated h⟩

/-- A chunk that ends in a dollar sign, a binding and an opening that is not closed. -/
theorem interpolate_unclosed_at_seven :
    (Id.run <| (interpolate .keepOriginal (Scope.ofData .null) "$$\x7ba\x7dü$\x7b" :
      ExceptT TemplateError (StateT (Engine Id) Id) String).run.run (ofFunctions .empty {})).1 =
        .error (.unmatchedBrace 7) := by
  let d : Binding.Decomposition :=
    { spans := [⟨['$'], ['a'], Binding.cut?_opening_eq_none_iff.mp rfl,
        Binding.closes_cons.mpr ⟨by decide, Binding.closes_nil.mpr rfl⟩⟩]
      last := ['ü']
      plain := Binding.cut?_opening_eq_none_iff.mp rfl
      unclosed := some ⟨[], Binding.neverCloses_nil.mpr (by decide)⟩ }
  rw [(interpolate_decomposition .keepOriginal (Scope.ofData .null) _).2 d rfl]
  rfl

end Engine

end DocTemplate

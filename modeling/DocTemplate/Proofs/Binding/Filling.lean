import DocTemplate.Proofs.Binding.Interpolation
import Mathlib

/-!
# Filled texts

The bindings of a text are filled in the same way whether or not all its openings are closed. An
opening that is not closed only decides what becomes of the pieces: with it they are thrown away,
and without it they are the text.

## Main definitions

* `Binding.Decomposition.filled` — the spans of a text with their bindings replaced, and the last
  chunk.
* `Binding.Decomposition.head` — what stands before an opening that is not closed.

## Main statements

* `Binding.run_interpolate_of_closed`, `Binding.run_interpolate_of_unclosed` — what an interpolation
  comes to.
* `Binding.run_interpolate_head` — what stands before an opening that is not closed can be
  interpolated.
-/

namespace DocTemplate

theorem satisfies_mapM {n : Type → Type} [Monad n] [LawfulMonad n] {α β : Type} {f : α → n β}
    {g : α → β} {l : List α} (h : ∀ a ∈ l, SatisfiesM (· = g a) (f a)) :
    SatisfiesM (· = l.map g) (l.mapM f) := by
  induction l with
  | nil =>
    rw [List.mapM_nil]
    exact SatisfiesM.pure rfl
  | cons a l ih =>
    obtain ⟨ha, hl⟩ := List.forall_mem_cons.mp h
    rw [List.mapM_cons]
    refine SatisfiesM.bind ha fun b hb => SatisfiesM.bind (ih hl) fun bs hbs => ?_
    exact SatisfiesM.pure (by rw [hb, hbs, List.map_cons])

namespace Binding

variable {n : Type → Type} [Monad n] {ε : Type} {evaluate : String → n (Except ε Value)}
  {policy : BindingErrors} {text : String} {d : Decomposition}
  {tail : { tail : List Char // NeverCloses 1 tail }}

namespace Decomposition

/-- The filled spans in a row and the plain chunk behind them. -/
def filled (evaluate : String → n (Except ε Value)) (policy : BindingErrors)
    (d : Decomposition) : n String :=
  (fun pieces => String.ofList (pieces.flatten ++ d.last)) <$>
    d.spans.mapM fun s => s.filled policy <$> evaluate (String.ofList s.body)

/-- What stands before an opening that is not closed, taken apart. -/
def head (d : Decomposition) : Decomposition :=
  { d with unclosed := none }

theorem text_head (d : Decomposition) : d.head.text = d.closed :=
  rfl

theorem filled_head (d : Decomposition) :
    d.head.filled evaluate policy = d.filled evaluate policy :=
  rfl

theorem closed_eq_text (hd : d.text = text.toList) (h : d.unclosed = none) :
    String.ofList d.closed = text := by
  rw [Decomposition.text, h] at hd
  exact (congrArg String.ofList hd).trans String.ofList_toList

/-- A text with an opening that is not closed is what stands before it, the opening and the tail. -/
theorem closed_append_tail_eq_text (hd : d.text = text.toList) (h : d.unclosed = some tail) :
    String.ofList d.closed ++ String.ofList (opening ++ tail.1) = text := by
  rw [Decomposition.text, h] at hd
  rw [← String.ofList_append, ← List.append_assoc]
  exact (congrArg String.ofList hd).trans String.ofList_toList

variable [LawfulMonad n]

/-- If all bindings fail they stay as they are written. -/
theorem satisfies_filled
    (h : ∀ s ∈ d.spans, SatisfiesM (fun r => ∃ error, r = .error error)
      (evaluate (String.ofList s.body))) :
    SatisfiesM (· = String.ofList d.closed) (d.filled evaluate .keepOriginal) := by
  have hspans : ∀ s ∈ d.spans,
      SatisfiesM (· = s.text) (s.filled .keepOriginal <$> evaluate (String.ofList s.body)) := by
    refine fun s hs => SatisfiesM.map (h s hs) fun {r} hr => ?_
    obtain ⟨error, rfl⟩ := hr
    rfl
  refine SatisfiesM.map (satisfies_mapM hspans) fun {pieces} hpieces => ?_
  rw [hpieces, closed, List.flatMap_def]

end Decomposition

variable [LawfulMonad n]

theorem run_interpolate_of_closed (hd : d.text = text.toList) (h : d.unclosed = none) :
    (interpolate evaluate policy text).run = Except.ok <$> d.filled evaluate policy := by
  rw [interpolate_eq_interpolated hd, Decomposition.interpolated, Decomposition.filled,
    Functor.map_map, map_eq_pure_bind]
  refine (ExceptT.run_bind_lift _ _).trans (bind_congr fun pieces => ?_)
  rw [h, ExceptT.run_pure]

theorem run_interpolate_of_unclosed (hd : d.text = text.toList) (h : d.unclosed = some tail) :
    (interpolate evaluate policy text).run =
      (fun _ => .error (.unmatchedBrace (Text.utf8Size d.closed))) <$>
        d.filled evaluate policy := by
  rw [interpolate_eq_interpolated hd, Decomposition.interpolated, Decomposition.filled,
    Functor.map_map, map_eq_pure_bind]
  refine (ExceptT.run_bind_lift _ _).trans (bind_congr fun pieces => ?_)
  rw [h, ExceptT.run_throw]

/-- What stands before an opening that is not closed is filled with the same pieces on its own. -/
theorem run_interpolate_head (d : Decomposition) :
    (interpolate evaluate policy (String.ofList d.closed)).run =
      Except.ok <$> d.filled evaluate policy := by
  have hhead : d.head.text = (String.ofList d.closed).toList := by
    rw [d.text_head, String.toList_ofList]
  rw [run_interpolate_of_closed hhead rfl, d.filled_head]

end Binding

end DocTemplate

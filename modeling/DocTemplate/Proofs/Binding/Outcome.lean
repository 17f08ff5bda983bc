import DocTemplate.Proofs.Binding.Interpolation
import Mathlib

/-!
# How an interpolation can end

Whatever the expressions in a text do, the only way to fail is an opening that is not closed.

## Main definitions

* `Ends` — what the value and the error of a computation can be.
* `Binding.UnclosedAt` — where the first opening of a text stands that is not closed.

## Main statements

* `Binding.ends_interpolate` — an interpolation fails only at such an opening.
-/

namespace DocTemplate

variable {n : Type → Type} [Monad n] {α β ε δ : Type}

/-- A computation can only end with a value for which `done` holds or with an error for which
`failed` holds. -/
def Ends (done : α → Prop) (failed : δ → Prop) (x : ExceptT δ n α) : Prop :=
  SatisfiesM (fun
    | .ok a => done a
    | .error error => failed error) x.run

section Ends

variable [LawfulMonad n] {done : α → Prop} {further : β → Prop} {failed : δ → Prop}
  {x : ExceptT δ n α}

theorem ends_pure {a : α} (h : done a) : Ends done failed (pure a : ExceptT δ n α) := by
  rw [Ends, ExceptT.run_pure]
  exact SatisfiesM.pure h

theorem ends_throw {error : δ} (h : failed error) :
    Ends done failed (throw error : ExceptT δ n α) := by
  rw [Ends, ExceptT.run_throw]
  exact SatisfiesM.pure h

theorem ends_lift_of {y : n α} (h : SatisfiesM done y) : Ends done failed (ExceptT.lift y) := by
  rw [Ends, ExceptT.run_lift]
  exact SatisfiesM.map h id

theorem ends_lift (y : n α) : Ends (fun _ => True) failed (ExceptT.lift y) :=
  ends_lift_of SatisfiesM.trivial

theorem Ends.bind {f : α → ExceptT δ n β} (hx : Ends done failed x)
    (hf : ∀ a, done a → Ends further failed (f a)) : Ends further failed (x >>= f) := by
  rw [Ends, ExceptT.run_bind]
  refine SatisfiesM.bind hx fun r hr => ?_
  cases r with
  | ok a => exact hf a hr
  | error error => exact SatisfiesM.pure hr

theorem Ends.imp {done' : α → Prop} {failed' : δ → Prop} (h : Ends done failed x)
    (hdone : ∀ a, done a → done' a) (hfailed : ∀ error, failed error → failed' error) :
    Ends done' failed' x := by
  refine SatisfiesM.imp h fun {r} hr => ?_
  cases r with
  | ok a => exact hdone a hr
  | error error => exact hfailed error hr

/-- Only what is done with the values that a computation can end with matters. -/
theorem Ends.bind_eq_bind {f g : α → ExceptT δ n β} (hx : Ends done failed x)
    (h : ∀ a, done a → f a = g a) : x >>= f = x >>= g := by
  obtain ⟨y, hy⟩ := hx
  refine ExceptT.ext ?_
  rw [ExceptT.run_bind, ExceptT.run_bind, ← hy, bind_map_left, bind_map_left]
  refine bind_congr fun ⟨r, hr⟩ => ?_
  cases r with
  | ok a => exact congrArg ExceptT.run (h a hr)
  | error error => rfl

end Ends

namespace Binding

/-- The first opening of a text that is not closed stands at a byte position. -/
def UnclosedAt (text : String) (position : Nat) : Prop :=
  ∃ d : Decomposition, d.text = text.toList ∧ d.unclosed.isSome ∧ Text.utf8Size d.closed = position

theorem unclosedAt_iff {text : String} {position : Nat} {d : Decomposition}
    (h : d.text = text.toList) :
    UnclosedAt text position ↔ d.unclosed.isSome ∧ Text.utf8Size d.closed = position := by
  constructor
  · rintro ⟨d', h', hunclosed⟩
    obtain rfl := Decomposition.text_injective (h'.trans h.symm)
    exact hunclosed
  · exact fun hunclosed => ⟨d, h, hunclosed⟩

/-- An interpolation fails only at an opening that is not closed. -/
theorem ends_interpolate [LawfulMonad n] (evaluate : String → n (Except ε Value))
    (policy : BindingErrors) (text : String) :
    Ends (fun _ => True)
      (fun error => ∃ position, UnclosedAt text position ∧ error = .unmatchedBrace position)
      (interpolate evaluate policy text) := by
  obtain ⟨d, hd⟩ := Decomposition.exists_text_eq text.toList
  rw [interpolate_eq_interpolated hd, Decomposition.interpolated]
  refine (ends_lift _).bind fun pieces _ => ?_
  cases hunclosed : d.unclosed with
  | none => exact ends_pure trivial
  | some tail => exact ends_throw ⟨_, ⟨d, hd, by simp [hunclosed], rfl⟩, rfl⟩

end Binding

end DocTemplate

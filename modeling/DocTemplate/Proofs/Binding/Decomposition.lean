import DocTemplate.Proofs.Binding.Scanning
import Mathlib.Logic.ExistsUnique

/-!
# Texts as chunks and bindings

Every text is in exactly one way a row of bindings with plain chunks before them, a plain chunk
behind the last one and, if there is an opening that is not closed, that opening and the tail behind
it.

## Main definitions

* `Binding.Span` — a plain chunk and the binding behind it.
* `Binding.Decomposition` — the parts of a text.

## Main statements

* `Binding.Decomposition.existsUnique_text_eq` — every text has exactly one decomposition.
-/

namespace DocTemplate.Binding

/-- A plain chunk and the binding behind it. -/
@[ext] structure Span where
  chunk : List Char
  body : List Char
  plain : Plain chunk
  closes : Closes 1 body

/-- The binding of a span as it is written. -/
def Span.binding (s : Span) : List Char :=
  opening ++ s.body ++ ['}']

/-- A span as it is written. -/
def Span.text (s : Span) : List Char :=
  s.chunk ++ s.binding

/-- The parts of a text: spans, the plain chunk behind them and what stands behind an opening that
is not closed. -/
@[ext] structure Decomposition where
  spans : List Span
  last : List Char
  plain : Plain last
  unclosed : Option { tail : List Char // NeverCloses 1 tail }

namespace Decomposition

/-- What stands before an opening that is not closed, or else all of it. -/
def closed (d : Decomposition) : List Char :=
  d.spans.flatMap Span.text ++ d.last

/-- The text that a decomposition is one of. -/
def text (d : Decomposition) : List Char :=
  match d.unclosed with
  | none => d.closed
  | some tail => d.closed ++ opening ++ tail.1

/-- A decomposition with another span in front. -/
def cons (s : Span) (d : Decomposition) : Decomposition :=
  { d with spans := s :: d.spans }

/-- A decomposition is a plain text, a text with an opening that is not closed or one more span in
front of another decomposition. -/
@[elab_as_elim]
theorem induction {motive : Decomposition → Prop}
    (plain : ∀ last (h : Plain last), motive ⟨[], last, h, none⟩)
    (unclosed : ∀ last (h : Plain last) tail, motive ⟨[], last, h, some tail⟩)
    (cons : ∀ s d, motive d → motive (d.cons s)) (d : Decomposition) : motive d := by
  obtain ⟨spans, last, h, tail?⟩ := d
  induction spans with
  | nil =>
    cases tail? with
    | none => exact plain last h
    | some tail => exact unclosed last h tail
  | cons s spans ih => exact cons s _ ih

section Scans

variable {last : List Char} (h : Plain last) (tail : { tail : List Char // NeverCloses 1 tail })
  (s : Span) (d : Decomposition)

@[simp] theorem text_plain : text ⟨[], last, h, none⟩ = last := by
  simp [text, closed]

@[simp] theorem text_unclosed : text ⟨[], last, h, some tail⟩ = last ++ opening ++ tail.1 := by
  simp [text, closed]

@[simp] theorem text_cons : (d.cons s).text = s.chunk ++ opening ++ (s.body ++ '}' :: d.text) := by
  simp only [text, cons]
  split <;> simp [closed, Span.text, Span.binding]

theorem cut?_text_plain : Text.cut? opening (text ⟨[], last, h, none⟩) = none :=
  cut?_opening_eq_none_iff.mpr (by simpa using h)

theorem cut?_text_unclosed :
    Text.cut? opening (text ⟨[], last, h, some tail⟩) = some (last, tail.1) :=
  cut?_opening_eq_some_iff.mpr ⟨text_unclosed h tail, h⟩

theorem cut?_text_cons :
    Text.cut? opening (d.cons s).text = some (s.chunk, s.body ++ '}' :: d.text) :=
  cut?_opening_eq_some_iff.mpr ⟨text_cons s d, s.plain⟩

end Scans

theorem closing_tail (tail : { tail : List Char // NeverCloses 1 tail }) :
    closing 0 tail.1 = none :=
  closing_eq_none_iff.mpr tail.2

theorem closing_body (s : Span) (rest : List Char) :
    closing 0 (s.body ++ '}' :: rest) = some (s.body, rest) :=
  closing_eq_some_iff.mpr ⟨rfl, s.closes⟩

theorem exists_text_eq (text : List Char) : ∃ d : Decomposition, d.text = text := by
  induction hlength : text.length using Nat.strongRecOn generalizing text with
  | ind length ih =>
    subst hlength
    cases hcut : Text.cut? opening text with
    | none => exact ⟨⟨[], text, cut?_opening_eq_none_iff.mp hcut, none⟩, text_plain _⟩
    | some parts =>
      obtain ⟨before, behind⟩ := parts
      obtain ⟨rfl, hbefore⟩ := cut?_opening_eq_some_iff.mp hcut
      cases hclosing : closing 0 behind with
      | none =>
        exact ⟨⟨[], before, hbefore, some ⟨behind, closing_eq_none_iff.mp hclosing⟩⟩,
          text_unclosed _ _⟩
      | some parts =>
        obtain ⟨body, rest⟩ := parts
        obtain ⟨rfl, hbody⟩ := closing_eq_some_iff.mp hclosing
        obtain ⟨d, rfl⟩ := ih rest.length (by simp; omega) rest rfl
        exact ⟨d.cons ⟨before, body, hbefore, hbody⟩, text_cons _ _⟩

theorem unclosed_ne_cons {last : List Char} (h : Plain last)
    (tail : { tail : List Char // NeverCloses 1 tail }) (s : Span) (d : Decomposition) :
    text ⟨[], last, h, some tail⟩ ≠ (d.cons s).text := by
  intro heq
  have hcut := (cut?_text_unclosed h tail).symm.trans (heq ▸ cut?_text_cons s d)
  have htail : tail.1 = s.body ++ '}' :: d.text := congrArg Prod.snd (Option.some.inj hcut)
  have hclosing := closing_tail tail
  rw [htail, closing_body] at hclosing
  cases hclosing

theorem text_injective : Function.Injective text := by
  intro d d' h
  -- The first opening of the text and the brace that closes it tell the two kinds of texts apart.
  have hcut := congrArg (Text.cut? opening) h
  induction d using induction generalizing d' with
  | plain last hlast =>
    rw [cut?_text_plain] at hcut
    cases d' using induction with
    | plain last' hlast' =>
      obtain rfl : last = last' := by simpa using h
      rfl
    | unclosed last' hlast' tail' =>
      rw [cut?_text_unclosed] at hcut
      cases hcut
    | cons s' d' =>
      rw [cut?_text_cons] at hcut
      cases hcut
  | unclosed last hlast tail =>
    rw [cut?_text_unclosed] at hcut
    cases d' using induction with
    | plain last' hlast' =>
      rw [cut?_text_plain] at hcut
      cases hcut
    | unclosed last' hlast' tail' =>
      rw [cut?_text_unclosed] at hcut
      obtain ⟨rfl, htail⟩ : last = last' ∧ tail.1 = tail'.1 := by simpa using hcut
      obtain rfl := Subtype.ext htail
      rfl
    | cons s' d' => exact absurd h (unclosed_ne_cons hlast tail s' d')
  | cons s d ih =>
    rw [cut?_text_cons] at hcut
    cases d' using induction with
    | plain last' hlast' =>
      rw [cut?_text_plain] at hcut
      cases hcut
    | unclosed last' hlast' tail' => exact absurd h.symm (unclosed_ne_cons hlast' tail' s d)
    | cons s' d' =>
      rw [cut?_text_cons] at hcut
      obtain ⟨hchunk, hrest⟩ : s.chunk = s'.chunk ∧
        s.body ++ '}' :: d.text = s'.body ++ '}' :: d'.text := by simpa using hcut
      have hclosing := congrArg (closing 0) hrest
      rw [closing_body, closing_body] at hclosing
      obtain ⟨hbody, htext⟩ : s.body = s'.body ∧ d.text = d'.text := by simpa using hclosing
      obtain rfl := Span.ext hchunk hbody
      obtain rfl := ih htext (congrArg _ htext)
      rfl

/-- Every text has exactly one decomposition. -/
theorem existsUnique_text_eq (text : List Char) : ∃! d : Decomposition, d.text = text := by
  obtain ⟨d, hd⟩ := exists_text_eq text
  exact ⟨d, hd, fun d' hd' => text_injective (hd'.trans hd.symm)⟩

end Decomposition

end DocTemplate.Binding

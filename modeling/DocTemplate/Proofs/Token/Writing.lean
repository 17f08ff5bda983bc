import DocTemplate.Proofs.Token.Spelling
import Mathlib.Data.List.Forall2

/-!
# Tokens with blanks between them

How each token is written by itself. No token goes on behind a blank, so with blanks between them
tokens can be written in any order and are read as they are.

## Main definitions

* `Token.Form` — a text that a token is written as.
* `Token.Spaced` — the texts of several tokens with at least one blank between two of them.

## Main statements

* `Token.scan_of_spaced` — a text has the tokens that are written in it.
* `Token.exists_spaced` — tokens that can be written can be written together.
-/

namespace DocTemplate.Token

/-- A text that a token is written as. In a string a backslash stands before each backslash and
before each quote that is like those around it. -/
inductive Form : List Char → Token → Prop
  | string {quote : Char} (hquote : quote = '"' ∨ quote = '\'') (s : List Char) :
      Form (quote :: quotedBody quote s ++ [quote]) (.string (String.ofList s))
  | number {run : List Char} {x : Float} (hrun : IsRun run) (hx : Denotes run x) :
      Form run (.number x)
  | boolean (b : Bool) : Form (toString b).toList (.boolean b)
  | identifier {word : String} (hword : IsWord word.toList)
      (h : ofWord word = .identifier word) : Form word.toList (.identifier word)
  | operator (op : Symbol) : Form op.text.toList (.operator op)
  | mark {c : Char} {t : Token} (h : markText? t = some c) : Form [c] t

/-- The texts of several tokens in order, with at least one blank between two of them. -/
inductive Spaced : List Char → List Token → Prop
  | single {text : List Char} {t : Token} (h : Form text t) : Spaced text [t]
  | cons {text gap rest : List Char} {t : Token} {ts : List Token} (h : Form text t)
      (hgap : gap ≠ []) (hblanks : ∀ c ∈ gap, Text.isBlank c) (hrest : Spaced rest ts) :
      Spaced (text ++ gap ++ rest) (t :: ts)

variable {text rest : List Char} {t : Token} {ts : List Token}

theorem exists_form_mark {c : Char} (h : markText? t = some c) : ∃ text, Form text t :=
  ⟨_, .mark h⟩

theorem exists_form_string (s : String) : ∃ text, Form text (.string s) := by
  have h := Form.string (.inl rfl) s.toList
  rw [String.ofList_toList] at h
  exact ⟨_, h⟩

theorem lexeme_ofWord (word : String) (hword : IsWord word.toList)
    (hrest : ∀ c ∈ rest.head?, Text.isBlank c) : Lexeme word.toList (ofWord word) rest := by
  have h := Lexeme.word hword fun c hc => isNamePart_of_isBlank (hrest c hc)
  rwa [String.ofList_toList] at h

/-- The text of a sign does not go on behind a blank. -/
theorem lexeme_operator (op : Symbol) (hrest : ∀ c ∈ rest.head?, Text.isBlank c) :
    Lexeme op.text.toList (.operator op) rest := by
  have hsign {c : Char} {op : Symbol} (h : op.text.toList = [c]) :
      Lexeme op.text.toList (.operator op) rest := by
    rw [h]
    exact .sign h fun d hd => (ofPair?_eq_none_iff h).mp (ofPair?_of_isBlank (hrest d hd))
  cases op with
  | equal | notEqual | lessOrEqual | greaterOrEqual | and | or => exact .pair (by decide) rfl
  | isIn => exact lexeme_ofWord "in" ⟨'i', _, rfl, by decide, by simp; decide⟩ hrest
  | _ => exact hsign rfl

/-- A token that is written in front of a blank, or at the end, is the lexeme there. -/
theorem Form.lexeme (h : Form text t) (hrest : ∀ c ∈ rest.head?, Text.isBlank c) :
    Lexeme text t rest := by
  cases h with
  | string hquote s => exact .string hquote (spellsString_quotedBody hquote s)
  | number hrun hx => exact .number hrun hx fun c hc => isNumberPart_of_isBlank (hrest c hc)
  | boolean b =>
    cases b with
    | true => exact lexeme_ofWord "true" ⟨'t', _, rfl, by decide, by simp; decide⟩ hrest
    | false => exact lexeme_ofWord "false" ⟨'f', _, rfl, by decide, by simp; decide⟩ hrest
  | identifier hword h => exact h ▸ lexeme_ofWord _ hword hrest
  | operator op => exact lexeme_operator op hrest
  | mark h => exact .mark h

theorem Spelled.blanks {gap : List Char} (h : Spelled text ts)
    (hgap : ∀ c ∈ gap, Text.isBlank c) : Spelled (gap ++ text) ts := by
  cases h with
  | nil hblanks => exact .nil (List.forall_mem_append.mpr ⟨hgap, hblanks⟩)
  | cons hblanks hlexeme h =>
    rw [List.append_assoc, ← List.append_assoc, ← List.append_assoc]
    exact .cons (List.forall_mem_append.mpr ⟨hgap, hblanks⟩) hlexeme h

theorem Spaced.spelled (h : Spaced text ts) : Spelled text ts := by
  induction h with
  | @single text t h =>
    have hend : Spelled [] [] := .nil (List.forall_mem_nil _)
    simpa using Spelled.cons_lexeme (h.lexeme (by simp)) hend
  | @cons text gap rest t ts h hgap hblanks _ ih =>
    obtain ⟨b, bs, rfl⟩ := List.exists_cons_of_ne_nil hgap
    have hlexeme : Lexeme text t ((b :: bs) ++ rest) :=
      h.lexeme (by simpa using (List.forall_mem_cons.mp hblanks).1)
    rw [List.append_assoc]
    exact .cons_lexeme hlexeme (ih.blanks hblanks)

/-- A text has the tokens that are written in it. -/
theorem scan_of_spaced (h : Spaced text ts) : scan text = .ok ts :=
  scan_of_spelled h.spelled

/-- Texts of tokens with one space between them. -/
theorem spaced_intercalate {texts : List (List Char)} (h : List.Forall₂ Form texts ts)
    (hne : ts ≠ []) : Spaced ([' '].intercalate texts) ts := by
  induction h with
  | nil => exact absurd rfl hne
  | @cons text t texts ts htext htexts ih =>
    cases htexts with
    | nil => simpa using .single htext
    | cons hnext hrest =>
      rw [List.intercalate_cons_cons]
      exact .cons htext (by simp) (List.forall_mem_singleton.mpr (by decide)) (ih (by simp))

/-- Tokens that can be written can be written together. -/
theorem exists_spaced (hne : ts ≠ []) (h : ∀ t ∈ ts, ∃ text, Form text t) :
    ∃ text, Spaced text ts := by
  choose! text htext using h
  exact ⟨_, spaced_intercalate (List.forall₂_map_left_iff.mpr (List.forall₂_same.mpr htext)) hne⟩

end DocTemplate.Token

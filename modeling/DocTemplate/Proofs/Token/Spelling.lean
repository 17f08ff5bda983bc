import DocTemplate.Proofs.Text.Splitting
import DocTemplate.Proofs.Token.Blanks
import DocTemplate.Proofs.Token.Numbers

/-!
# How tokens are spelled

What a text has to look like to have given tokens, without the order in which the lexer tries the
kinds of tokens: lexemes with blanks between them, where a lexeme must not go on in the text behind
it. What a lexeme stands for is said without the lexer too: a sign by its text, and digits by their
decimal value.

## Main definitions

* `Token.SpellsString` — a text spells a string between its quotes.
* `Token.IsWord`, `Token.IsRun` — the texts of names and of numbers.
* `Token.Lexeme` — a text spells a token in front of a rest.
* `Token.Spelled` — a text spells a list of tokens.
* `Token.quotedBody` — a string as it is written between quotes, with backslashes where they are
  needed.

## Main statements

* `Token.ofMark?_eq_some_iff`, `Token.ofPair?_eq_some_iff`, `Token.ofChar?_eq_some_iff` — the tables
  of the lexer have the texts of the marks and of the signs.
* `Token.scan_of_spelled` — a text has the tokens that it spells.
* `Token.spellsString_quotedBody` — every string can be put between quotes.
-/

namespace DocTemplate.Token

/-- A text spells a string between its quotes. A backslash is needed before a quote and before a
backslash, makes a line break of `n` and a tabulator of `t`, and can stand before other
characters. -/
inductive SpellsString (quote : Char) : List Char → List Char → Prop
  | nil : SpellsString quote [] []
  | plain {c : Char} {body s : List Char} (hquote : c ≠ quote) (hescape : c ≠ '\\')
      (h : SpellsString quote body s) : SpellsString quote (c :: body) (c :: s)
  | newline {body s : List Char} (h : SpellsString quote body s) :
      SpellsString quote ('\\' :: 'n' :: body) ('\n' :: s)
  | tab {body s : List Char} (h : SpellsString quote body s) :
      SpellsString quote ('\\' :: 't' :: body) ('\t' :: s)
  | escape {c : Char} {body s : List Char} (hn : c ≠ 'n') (ht : c ≠ 't')
      (h : SpellsString quote body s) : SpellsString quote ('\\' :: c :: body) (c :: s)

/-- A text starts like a name and goes on like one. -/
def IsWord (word : List Char) : Prop :=
  ∃ c rest, word = c :: rest ∧ isNameStart c ∧ ∀ d ∈ rest, isNamePart d

/-- A text starts with a digit and goes on with digits and points. -/
def IsRun (run : List Char) : Prop :=
  ∃ c rest, run = c :: rest ∧ c.isDigit ∧ ∀ d ∈ rest, isNumberPart d

/-- The character that a bracket or a mark is written with. -/
def markText? : Token → Option Char
  | .leftParen => some '('
  | .rightParen => some ')'
  | .leftBracket => some '['
  | .rightBracket => some ']'
  | .comma => some ','
  | .dot => some '.'
  | .question => some '?'
  | .colon => some ':'
  | _ => none

/-- A text spells a token, and the text behind it does not go on with the token. A run of digits
spells the number that it denotes, and a sign of two characters is not taken for two signs. -/
inductive Lexeme : List Char → Token → List Char → Prop
  | string {quote : Char} {body s rest : List Char} (hquote : quote = '"' ∨ quote = '\'')
      (h : SpellsString quote body s) :
      Lexeme (quote :: body ++ [quote]) (.string (String.ofList s)) rest
  | number {run rest : List Char} {x : Float} (hrun : IsRun run) (hx : Denotes run x)
      (hrest : ∀ c ∈ rest.head?, isNumberPart c = false) : Lexeme run (.number x) rest
  | word {word rest : List Char} (hword : IsWord word)
      (hrest : ∀ c ∈ rest.head?, isNamePart c = false) :
      Lexeme word (ofWord (String.ofList word)) rest
  | mark {c : Char} {t : Token} {rest : List Char} (h : markText? t = some c) : Lexeme [c] t rest
  | pair {c d : Char} {op : Symbol} {rest : List Char} (hop : op ≠ .isIn)
      (h : op.text.toList = [c, d]) : Lexeme [c, d] (.operator op) rest
  | sign {c : Char} {op : Symbol} {rest : List Char} (h : op.text.toList = [c])
      (hrest : ∀ d ∈ rest.head?, ∀ pair : Symbol, pair.text.toList ≠ [c, d]) :
      Lexeme [c] (.operator op) rest

/-- A text spells a list of tokens: their lexemes in order, with blanks around them. -/
inductive Spelled : List Char → List Token → Prop
  | nil {blanks : List Char} (hblanks : ∀ c ∈ blanks, Text.isBlank c) : Spelled blanks []
  | cons {blanks lexeme rest : List Char} {t : Token} {ts : List Token}
      (hblanks : ∀ c ∈ blanks, Text.isBlank c) (hlexeme : Lexeme lexeme t rest)
      (h : Spelled rest ts) : Spelled (blanks ++ lexeme ++ rest) (t :: ts)

/-- A lexeme without blanks before it. -/
theorem Spelled.cons_lexeme {lexeme rest : List Char} {t : Token} {ts : List Token}
    (hlexeme : Lexeme lexeme t rest) (h : Spelled rest ts) : Spelled (lexeme ++ rest) (t :: ts) :=
  .cons (List.forall_mem_nil _) hlexeme h

theorem IsRun.number?_iff {run : List Char} {x : Float} (h : IsRun run) :
    number? run = some x ↔ Denotes run x := by
  obtain ⟨c, rest, rfl, hc, hrest⟩ := h
  have hparts : ∀ d ∈ c :: rest, isNumberPart d :=
    List.forall_mem_cons.mpr ⟨isNumberPart_iff.mpr (.inl hc), hrest⟩
  exact number?_eq_some_iff hparts ⟨c, List.mem_cons_self, hc⟩

theorem ofMark?_eq_some_iff {c : Char} {t : Token} : ofMark? c = some t ↔ markText? t = some c := by
  constructor
  · intro h
    unfold ofMark? at h
    split at h <;> cases h <;> rfl
  · intro h
    unfold markText? at h
    split at h <;> cases h <;> rfl

theorem ofPair?_eq_some_iff {c d : Char} {op : Symbol} :
    Symbol.ofPair? c d = some op ↔ op ≠ .isIn ∧ op.text.toList = [c, d] := by
  constructor
  · intro h
    unfold Symbol.ofPair? at h
    split at h <;> cases h <;> decide
  · rintro ⟨hop, htext⟩
    cases op <;> simp [Symbol.text] at hop htext <;> obtain ⟨rfl, rfl⟩ := htext <;> rfl

theorem ofChar?_eq_some_iff {c : Char} {op : Symbol} :
    Symbol.ofChar? c = some op ↔ op.text.toList = [c] := by
  constructor
  · intro h
    unfold Symbol.ofChar? at h
    split at h <;> cases h <;> rfl
  · intro htext
    cases op <;> simp [Symbol.text] at htext <;> subst htext <;> rfl

/-- A sign of one character begins no name, so what goes on behind it is a sign of two. -/
theorem ofPair?_eq_none_iff {c d : Char} {op : Symbol} (hop : op.text.toList = [c]) :
    Symbol.ofPair? c d = none ↔ ∀ pair : Symbol, pair.text.toList ≠ [c, d] := by
  rw [Option.eq_none_iff_forall_ne_some]
  constructor
  · intro h pair hpair
    by_cases hin : pair = .isIn
    · subst hin
      obtain ⟨rfl, rfl⟩ : 'i' = c ∧ 'n' = d := by simpa [Symbol.text] using hpair
      cases op <;> simp [Symbol.text] at hop
    · exact h pair (ofPair?_eq_some_iff.mpr ⟨hin, hpair⟩)
  · intro h pair hpair
    exact h pair (ofPair?_eq_some_iff.mp hpair).2

theorem SpellsString.escaped {quote : Char} {body s : List Char} (h : SpellsString quote body s)
    (c : Char) : SpellsString quote ('\\' :: c :: body) (escaped c :: s) := by
  unfold Token.escaped
  split
  · rename_i hn
    subst hn
    exact .newline h
  · rename_i hn
    split
    · rename_i ht
      subst ht
      exact .tab h
    · rename_i ht
      exact .escape hn ht h

theorem stringBody_of_spells {quote : Char} (hquote : quote ≠ '\\') {body s : List Char}
    (h : SpellsString quote body s) (rest : List Char) :
    stringBody quote (body ++ quote :: rest) = some (s, rest) := by
  induction h with
  | nil => exact stringBody_quote
  | plain hne hescape _ ih =>
    rw [List.cons_append, stringBody_char hne hescape, ih, Option.map_some]
  | newline _ ih | tab _ ih =>
    rw [List.cons_append, List.cons_append, stringBody_escape hquote.symm, ih]
    rfl
  | escape hn ht _ ih =>
    rw [List.cons_append, List.cons_append, stringBody_escape hquote.symm, ih, Option.map_some,
      escaped, if_neg hn, if_neg ht]

theorem isDigit_eq_false_of_isNameStart {c : Char} (h : isNameStart c) : c.isDigit = false := by
  by_contra hdigit
  rw [Bool.not_eq_false] at hdigit
  have hcode : 48 ≤ c.toNat ∧ c.toNat ≤ 57 := by
    simpa [Char.isDigit, UInt32.le_iff_toNat_le] using hdigit
  have hdigits : ∀ n, 48 ≤ n → n ≤ 57 → isNameStart (Char.ofNat n) = false := by decide
  have hstart := hdigits c.toNat hcode.1 hcode.2
  rw [Char.ofNat_toNat] at hstart
  simp [hstart] at h

theorem isBlank_eq_false_of_isNameStart {c : Char} (h : isNameStart c) :
    Text.isBlank c = false := by
  by_contra hblank
  rw [Bool.not_eq_false] at hblank
  have hletter : Text.isAlphabetic c = false := by
    have hboth := Text.isAlphanumeric_of_isBlank hblank
    simp only [Text.isAlphanumeric, Bool.or_eq_false_iff] at hboth
    exact hboth.1
  have hdollar : c ≠ '$' := Text.ne_of_isBlank hblank (by decide)
  have hunderscore : c ≠ '_' := Text.ne_of_isBlank hblank (by decide)
  simp [isNameStart, hletter, hdollar, hunderscore] at h

theorem lexeme_mark {c : Char} {t : Token} (h : ofMark? c = some t) (rest : List Char) :
    Text.isBlank c = false ∧ lexeme c rest = .ok (t, rest) := by
  unfold ofMark? at h
  split at h
  all_goals
    cases h
    try
      refine ⟨by decide, ?_⟩
      rw [lexeme, if_neg (by decide), if_neg (by decide), if_neg (by decide)]
      rfl

/-- A character that starts a sign starts no other token. -/
theorem lexeme_sign {c : Char} {single op : Symbol} {rest behind : List Char}
    (hc : Symbol.ofChar? c = some single) (h : sign? c rest = some (op, behind)) :
    Text.isBlank c = false ∧ lexeme c rest = .ok (.operator op, behind) := by
  have hkinds : Text.isBlank c = false ∧ ¬(c = '"' ∨ c = '\'') ∧ ¬c.isDigit ∧ ¬isNameStart c ∧
      ofMark? c = none := by
    unfold Symbol.ofChar? at hc
    split at hc
    all_goals
      cases hc
      try decide
  obtain ⟨hblank, hquote, hdigit, hstart, hmark⟩ := hkinds
  refine ⟨hblank, ?_⟩
  rw [lexeme, if_neg hquote, if_neg hdigit, if_neg hstart, hmark, h]

theorem ofChar?_of_ofPair? {c d : Char} {op : Symbol} (h : Symbol.ofPair? c d = some op) :
    ∃ single, Symbol.ofChar? c = some single := by
  unfold Symbol.ofPair? at h
  split at h
  all_goals
    cases h
    try exact ⟨_, rfl⟩

/-- A lexeme starts with a character that is no blank, and the lexer takes it as it stands. -/
theorem Lexeme.lexeme_eq {text rest : List Char} {t : Token} (h : Lexeme text t rest) :
    ∃ c more, text = c :: more ∧ Text.isBlank c = false ∧
      lexeme c (more ++ rest) = .ok (t, rest) := by
  cases h with
  | @string quote body s _ hquote hs =>
    have hblank : Text.isBlank quote = false := by
      obtain rfl | rfl := hquote <;> decide
    have hescape : quote ≠ '\\' := by
      obtain rfl | rfl := hquote <;> decide
    have hbody := stringBody_of_spells hescape hs rest
    refine ⟨quote, body ++ [quote], rfl, hblank, ?_⟩
    rw [lexeme, if_pos hquote, List.append_assoc, List.singleton_append, hbody]
  | number hrun hx hrest =>
    have hnumber := hrun.number?_iff.mpr hx
    obtain ⟨c, more, rfl, hc, hmore⟩ := hrun
    have hquote : ¬(c = '"' ∨ c = '\'') := by
      rintro (rfl | rfl) <;> exact absurd hc (by decide)
    have hblank : Text.isBlank c = false := by
      by_contra hblank
      simp [Text.isDigit_of_isBlank (by simpa using hblank)] at hc
    refine ⟨c, more, rfl, hblank, ?_⟩
    rw [lexeme, if_neg hquote, if_pos hc, Text.takeWhile_append_of_head hmore hrest,
      Text.dropWhile_append_of_head hmore hrest, hnumber]
  | word hword hrest =>
    obtain ⟨c, more, rfl, hc, hmore⟩ := hword
    have hquote : ¬(c = '"' ∨ c = '\'') := by
      rintro (rfl | rfl) <;> exact absurd hc (by decide)
    have hdigit := isDigit_eq_false_of_isNameStart hc
    refine ⟨c, more, rfl, isBlank_eq_false_of_isNameStart hc, ?_⟩
    rw [lexeme, if_neg hquote, if_neg (by simp [hdigit]), if_pos hc,
      Text.takeWhile_append_of_head hmore hrest, Text.dropWhile_append_of_head hmore hrest]
  | @mark c _ _ hmark => exact ⟨c, [], rfl, lexeme_mark (ofMark?_eq_some_iff.mpr hmark) rest⟩
  | @pair c d op _ hop htext =>
    have hpair := ofPair?_eq_some_iff.mpr ⟨hop, htext⟩
    obtain ⟨single, hsingle⟩ := ofChar?_of_ofPair? hpair
    have hsign : sign? c ([d] ++ rest) = some (op, rest) := by simp [sign?, hpair]
    exact ⟨c, [d], rfl, lexeme_sign hsingle hsign⟩
  | @sign c op _ htext hrest =>
    have hsingle := ofChar?_eq_some_iff.mpr htext
    have hpair : rest.head?.bind (Symbol.ofPair? c) = none := by
      cases rest with
      | nil => rfl
      | cons d more => exact (ofPair?_eq_none_iff htext).mpr (hrest d rfl)
    have hsign : sign? c ([] ++ rest) = some (op, rest) := by simp [sign?, hpair, hsingle]
    exact ⟨c, [], rfl, lexeme_sign hsingle hsign⟩

/-- A text has the tokens that it spells. -/
theorem scan_of_spelled {text : List Char} {ts : List Token} (h : Spelled text ts) :
    scan text = .ok ts := by
  induction h with
  | nil hblanks =>
    rw [scan_eq_ok_iff]
    exact .inl ⟨List.dropWhile_eq_nil_iff.mpr hblanks, rfl⟩
  | @cons blanks word rest t ts hblanks hlexeme _ ih =>
    obtain ⟨c, more, rfl, hblank, hc⟩ := hlexeme.lexeme_eq
    rw [scan_eq_ok_iff]
    refine .inr ⟨c, more ++ rest, t, rest, ts, ?_, hc, ih, rfl⟩
    rw [List.append_assoc, List.dropWhile_append_of_pos hblanks, List.cons_append,
      List.dropWhile_cons_of_neg (by simp [hblank])]

/-- What is written between quotes for a string: a backslash stands before each quote and each
backslash. -/
def quotedBody (quote : Char) (s : List Char) : List Char :=
  s.flatMap fun c => if c = quote ∨ c = '\\' then ['\\', c] else [c]

theorem spellsString_quotedBody {quote : Char} (hquote : quote = '"' ∨ quote = '\'')
    (s : List Char) : SpellsString quote (quotedBody quote s) s := by
  induction s with
  | nil => exact .nil
  | cons c s ih =>
    rw [quotedBody, List.flatMap_cons]
    split
    · rename_i hc
      have hplain : c ≠ 'n' ∧ c ≠ 't' := by
        obtain rfl | rfl := hc
        · obtain rfl | rfl := hquote <;> decide
        · decide
      exact .escape hplain.1 hplain.2 ih
    · rename_i hc
      rw [not_or] at hc
      exact .plain hc.1 hc.2 ih

end DocTemplate.Token

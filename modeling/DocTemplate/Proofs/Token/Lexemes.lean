import DocTemplate.Proofs.Decimal.Numerals
import DocTemplate.Proofs.Token.Writing

/-!
# Texts as lexemes and blanks

The lexer loses nothing. A text has tokens exactly if it is made of their lexemes with blanks around
them, and every other text is made of lexemes up to a place where none begins. What is wrong at that
place is the error.

## Main definitions

* `Token.Unclosed` — a text in which a string does not end.
* `Token.Offends` — a text begins with something that is no lexeme.
* `Token.Misspelled` — a text is made of lexemes up to a place where none begins.

## Main statements

* `Token.exists_number?_iff` — digits spell a number if there is one point among them at most.
* `Token.lexeme_eq_ok_iff`, `Token.Offends.lexeme_eq` — what the lexer does at a place.
* `Token.ofText_lossless` — the texts with tokens and the texts without.
-/

namespace DocTemplate.Token

variable {text rest behind : List Char} {t : Token} {ts : List Token} {error : ParseError}

/-! ### Strings -/

/-- What is read as a string is spelled in front of a closing quote. -/
theorem exists_spells_of_stringBody {quote : Char} {s : List Char}
    (h : stringBody quote text = some (s, behind)) :
    ∃ body, text = body ++ quote :: behind ∧ SpellsString quote body s := by
  fun_induction stringBody quote text generalizing s behind with
  | case1 => cases h
  | case2 rest =>
    cases h
    exact ⟨[], rfl, .nil⟩
  | case3 => cases h
  | case4 e rest _ ih =>
    obtain ⟨⟨s', behind'⟩, hbody, hs⟩ := Option.map_eq_some_iff.mp h
    cases hs
    obtain ⟨body, rfl, hspells⟩ := ih hbody
    exact ⟨'\\' :: e :: body, rfl, hspells.escaped e⟩
  | case5 c rest hquote hescape ih =>
    obtain ⟨⟨s', behind'⟩, hbody, hs⟩ := Option.map_eq_some_iff.mp h
    cases hs
    obtain ⟨body, rfl, hspells⟩ := ih hbody
    exact ⟨c :: body, rfl, .plain hquote hescape hspells⟩

/-- A string does not end in a text: every quote like the one before the text stands behind a
backslash. The text may end in such a backslash. -/
inductive Unclosed (quote : Char) : List Char → Prop
  | nil : Unclosed quote []
  | backslash : Unclosed quote ['\\']
  | plain {c : Char} {body : List Char} (hquote : c ≠ quote) (hescape : c ≠ '\\')
      (h : Unclosed quote body) : Unclosed quote (c :: body)
  | escape {c : Char} {body : List Char} (h : Unclosed quote body) :
      Unclosed quote ('\\' :: c :: body)

theorem stringBody_eq_none_iff {quote : Char} (hquote : quote ≠ '\\') :
    stringBody quote text = none ↔ Unclosed quote text := by
  constructor
  · intro h
    fun_induction stringBody quote text with
    | case1 => exact .nil
    | case2 => cases h
    | case3 => exact .backslash
    | case4 e rest _ ih => exact .escape (ih (Option.map_eq_none_iff.mp h))
    | case5 c rest hne hescape ih => exact .plain hne hescape (ih (Option.map_eq_none_iff.mp h))
  · intro h
    induction h with
    | nil => rfl
    | backslash => simp [stringBody, hquote.symm]
    | plain hne hescape _ ih => rw [stringBody_char hne hescape, ih, Option.map_none]
    | escape _ ih => rw [stringBody_escape hquote.symm, ih, Option.map_none]

/-! ### Numbers -/

theorem count_point_of_digits {digits : List Char} (h : ∀ c ∈ digits, c.isDigit) :
    digits.count '.' = 0 := by
  refine List.count_eq_zero.mpr fun hpoint => ?_
  exact absurd (h '.' hpoint) (by decide)

/-- Digits with one point at most have digits before the point and digits behind it. -/
theorem exists_fraction_of_count {run : List Char} (h : ∀ c ∈ run, isNumberPart c)
    (hpoints : run.count '.' ≤ 1) :
    ∃ whole digits fraction, run = whole ++ fraction ∧ (∀ c ∈ whole, c.isDigit) ∧
      Numeral.FractionSpelled digits fraction := by
  induction run with
  | nil => exact ⟨[], [], [], rfl, List.forall_mem_nil _, .none⟩
  | cons c run ih =>
    obtain ⟨hc, hrun⟩ := List.forall_mem_cons.mp h
    obtain hdigit | rfl := isNumberPart_iff.mp hc
    · have hcount : run.count '.' ≤ 1 := Nat.le_trans List.count_le_count_cons hpoints
      obtain ⟨whole, digits, fraction, rfl, hwhole, hfraction⟩ := ih hrun hcount
      exact ⟨c :: whole, digits, fraction, rfl, List.forall_mem_cons.mpr ⟨hdigit, hwhole⟩,
        hfraction⟩
    · have hcount : run.count '.' = 0 := by
        rw [List.count_cons_self] at hpoints
        omega
      refine ⟨[], run, '.' :: run, rfl, List.forall_mem_nil _, .point fun d hd => ?_⟩
      obtain hdigit | rfl := isNumberPart_iff.mp (hrun d hd)
      · exact hdigit
      · exact absurd hd (List.count_eq_zero.mp hcount)

/-- Digits spell a number if there is one point among them at most. -/
theorem exists_number?_iff {run : List Char} (hrun : IsRun run) :
    (∃ x, number? run = some x) ↔ run.count '.' ≤ 1 := by
  obtain ⟨c, more, rfl, hc, hmore⟩ := hrun
  have hparts : ∀ d ∈ c :: more, isNumberPart d :=
    List.forall_mem_cons.mpr ⟨isNumberPart_iff.mpr (.inl hc), hmore⟩
  constructor
  · rintro ⟨x, hx⟩
    obtain ⟨whole, digits, fraction, heq, hwhole, hfraction, -⟩ := exists_parts_of_number? hparts hx
    rw [heq, List.count_append, count_point_of_digits hwhole]
    cases hfraction with
    | none => simp
    | point hdigits => simp [count_point_of_digits hdigits]
  · intro hpoints
    obtain ⟨whole, digits, fraction, heq, hwhole, hfraction⟩ :=
      exists_fraction_of_count hparts hpoints
    have hne : whole ++ digits ≠ [] := by
      rintro hnil
      obtain ⟨rfl, rfl⟩ := List.append_eq_nil_iff.mp hnil
      cases hfraction with
      | none => cases heq
      | point =>
        cases heq
        exact absurd hc (by decide)
    obtain ⟨x, hx, -⟩ := exists_number?_eq hwhole hfraction hne
    exact ⟨x, heq ▸ hx⟩

theorem number?_eq_none_iff {run : List Char} (hrun : IsRun run) :
    number? run = none ↔ 1 < run.count '.' := by
  rw [← Nat.not_le, ← exists_number?_iff hrun, ← Option.isSome_iff_exists]
  simp

/-! ### One place of a text -/

theorem eq_false_of_head?_dropWhile {p : Char → Bool} (text : List Char) :
    ∀ c ∈ (text.dropWhile p).head?, p c = false := by
  intro c hc
  have hstop := List.head?_dropWhile_not p text
  rw [Option.mem_def.mp hc] at hstop
  exact hstop

theorem forall_mem_takeWhile (p : Char → Bool) (text : List Char) :
    ∀ c ∈ text.takeWhile p, p c :=
  List.all_eq_true.mp List.all_takeWhile

theorem exists_lexeme_of_sign? {c : Char} {op : Symbol} (h : sign? c rest = some (op, behind)) :
    ∃ more, rest = more ++ behind ∧ Lexeme (c :: more) (.operator op) behind := by
  unfold sign? at h
  split at h
  · rename_i hpair
    cases h
    obtain ⟨d, hd, hop⟩ := Option.bind_eq_some_iff.mp hpair
    obtain ⟨tail, rfl⟩ := List.head?_eq_some_iff.mp hd
    obtain ⟨hkind, htext⟩ := ofPair?_eq_some_iff.mp hop
    exact ⟨[d], rfl, .pair hkind htext⟩
  · rename_i hpair
    obtain ⟨_, hsingle, heq⟩ := Option.map_eq_some_iff.mp h
    cases heq
    have htext := ofChar?_eq_some_iff.mp hsingle
    exact ⟨[], rfl, .sign htext fun d hd =>
      (ofPair?_eq_none_iff htext).mp (Option.bind_eq_none_iff.mp hpair d hd)⟩

/-- What the lexer takes from a text is a lexeme. -/
theorem exists_lexeme_of_eq {c : Char} (h : lexeme c rest = .ok (t, behind)) :
    ∃ more, rest = more ++ behind ∧ Lexeme (c :: more) t behind := by
  unfold lexeme at h
  split at h
  · rename_i hquote
    split at h
    · rename_i s behind hs
      cases h
      obtain ⟨body, rfl, hspells⟩ := exists_spells_of_stringBody hs
      exact ⟨body ++ [c], by simp, .string hquote hspells⟩
    · cases h
  split at h
  · rename_i hdigit
    split at h
    · rename_i x hx
      cases h
      have hrun : IsRun (c :: rest.takeWhile isNumberPart) :=
        ⟨c, _, rfl, hdigit, forall_mem_takeWhile _ rest⟩
      exact ⟨_, List.takeWhile_append_dropWhile.symm,
        .number hrun (hrun.number?_iff.mp hx) (eq_false_of_head?_dropWhile rest)⟩
    · cases h
  split at h
  · rename_i hstart
    cases h
    refine ⟨_, List.takeWhile_append_dropWhile.symm, .word ?_ ?_⟩
    · exact ⟨c, _, rfl, hstart, forall_mem_takeWhile _ rest⟩
    · exact eq_false_of_head?_dropWhile rest
  split at h
  · rename_i hmark
    cases h
    exact ⟨[], rfl, .mark (ofMark?_eq_some_iff.mp hmark)⟩
  split at h
  · rename_i op behind hsign
    cases h
    exact exists_lexeme_of_sign? hsign
  · cases h

/-- The lexer takes a lexeme, and any lexeme. -/
theorem lexeme_eq_ok_iff {c : Char} :
    lexeme c rest = .ok (t, behind) ↔
      ∃ more, rest = more ++ behind ∧ Lexeme (c :: more) t behind := by
  constructor
  · exact exists_lexeme_of_eq
  · rintro ⟨more, rfl, h⟩
    obtain ⟨c', more', heq, -, hlexeme⟩ := h.lexeme_eq
    cases heq
    exact hlexeme

/-- No lexeme begins with a character. -/
def StartsNothing (c : Char) : Prop :=
  ∀ more t rest, ¬Lexeme (c :: more) t rest

/-- A character begins a lexeme if it is a quote, a digit, the start of a name, a mark or a sign. -/
theorem startsNothing_iff {c : Char} :
    StartsNothing c ↔ ¬(c = '"' ∨ c = '\'') ∧ ¬c.isDigit ∧ ¬isNameStart c ∧ ofMark? c = none ∧
      Symbol.ofChar? c = none := by
  constructor
  · intro h
    refine ⟨fun hquote => ?_, fun hdigit => ?_, fun hstart => ?_, ?_, ?_⟩
    · exact h [c] _ [] (.string hquote .nil)
    · have hrun : IsRun [c] := ⟨c, [], rfl, hdigit, List.forall_mem_nil _⟩
      obtain ⟨x, hx⟩ := (exists_number?_iff hrun).mpr List.count_le_length
      exact h [] _ [] (.number hrun (hrun.number?_iff.mp hx) (by simp))
    · exact h [] _ [] (.word ⟨c, [], rfl, hstart, List.forall_mem_nil _⟩ (by simp))
    · refine Option.eq_none_iff_forall_ne_some.mpr fun mark hmark => ?_
      exact h [] mark [] (.mark (ofMark?_eq_some_iff.mp hmark))
    · refine Option.eq_none_iff_forall_ne_some.mpr fun op hop => ?_
      exact h [] _ [] (.sign (ofChar?_eq_some_iff.mp hop) (by simp))
  · rintro ⟨hquote, hdigit, hstart, hmark, hsign⟩ more t rest h
    cases h with
    | string hc _ => exact hquote hc
    | number hrun _ _ =>
      obtain ⟨d, _, heq, hd, -⟩ := hrun
      cases heq
      exact hdigit hd
    | word hword _ =>
      obtain ⟨d, _, heq, hd, -⟩ := hword
      cases heq
      exact hstart hd
    | mark h => simp [ofMark?_eq_some_iff.mpr h] at hmark
    | pair hop h =>
      obtain ⟨single, hsingle⟩ := ofChar?_of_ofPair? (ofPair?_eq_some_iff.mpr ⟨hop, h⟩)
      simp [hsign] at hsingle
    | sign h _ => simp [ofChar?_eq_some_iff.mpr h] at hsign

theorem sign?_eq_none_iff {c : Char} : sign? c rest = none ↔ Symbol.ofChar? c = none := by
  unfold sign?
  split
  · rename_i op hpair
    obtain ⟨d, -, hop⟩ := Option.bind_eq_some_iff.mp hpair
    obtain ⟨single, hsingle⟩ := ofChar?_of_ofPair? hop
    simp [hsingle]
  · exact Option.map_eq_none_iff

/-- A text begins with something that is no lexeme: a string without its closing quote, digits with
more than one point, or a character that begins no lexeme. -/
inductive Offends : List Char → ParseError → Prop
  | string {quote : Char} {body : List Char} (hquote : quote = '"' ∨ quote = '\'')
      (h : Unclosed quote body) : Offends (quote :: body) .unterminatedString
  | number {run rest : List Char} (hrun : IsRun run) (hpoints : 1 < run.count '.')
      (hrest : ∀ c ∈ rest.head?, isNumberPart c = false) :
      Offends (run ++ rest) (.invalidNumber (String.ofList run))
  | character {c : Char} {rest : List Char} (hblank : Text.isBlank c = false)
      (h : StartsNothing c) : Offends (c :: rest) (.unexpectedCharacter c)

theorem Offends.of_lexeme {c : Char} (hblank : Text.isBlank c = false)
    (h : lexeme c rest = .error error) : Offends (c :: rest) error := by
  unfold lexeme at h
  split at h
  · rename_i hquote
    have hescape : c ≠ '\\' := by
      obtain rfl | rfl := hquote <;> decide
    split at h
    · cases h
    · rename_i hbody
      cases h
      exact .string hquote ((stringBody_eq_none_iff hescape).mp hbody)
  rename_i hquote
  split at h
  · rename_i hdigit
    have hrun : IsRun (c :: rest.takeWhile isNumberPart) :=
      ⟨c, _, rfl, hdigit, forall_mem_takeWhile _ rest⟩
    split at h
    · cases h
    · rename_i hnumber
      cases h
      have hoffends := Offends.number hrun ((number?_eq_none_iff hrun).mp hnumber)
        (eq_false_of_head?_dropWhile rest)
      rwa [List.cons_append, List.takeWhile_append_dropWhile] at hoffends
  rename_i hdigit
  split at h
  · cases h
  rename_i hstart
  split at h
  · cases h
  rename_i hmark
  split at h
  · cases h
  · rename_i hsign
    cases h
    exact .character hblank
      (startsNothing_iff.mpr ⟨hquote, hdigit, hstart, hmark, sign?_eq_none_iff.mp hsign⟩)

/-- Where no lexeme begins, the lexer says why. -/
theorem Offends.lexeme_eq (h : Offends text error) :
    ∃ c rest, text = c :: rest ∧ Text.isBlank c = false ∧ lexeme c rest = .error error := by
  cases h with
  | @string quote body hquote hbody =>
    have hkinds : Text.isBlank quote = false ∧ quote ≠ '\\' := by
      obtain rfl | rfl := hquote <;> decide
    refine ⟨quote, body, rfl, hkinds.1, ?_⟩
    rw [lexeme, if_pos hquote, (stringBody_eq_none_iff hkinds.2).mpr hbody]
  | @number run rest hrun hpoints hrest =>
    have hnumber := (number?_eq_none_iff hrun).mpr hpoints
    obtain ⟨c, more, rfl, hdigit, hmore⟩ := hrun
    have hquote : ¬(c = '"' ∨ c = '\'') := by
      rintro (rfl | rfl) <;> exact absurd hdigit (by decide)
    refine ⟨c, more ++ rest, rfl, Text.isBlank_of_isDigit hdigit, ?_⟩
    rw [lexeme, if_neg hquote, if_pos hdigit, Text.takeWhile_append_of_head hmore hrest, hnumber]
  | @character c rest hblank hstarts =>
    obtain ⟨hquote, hdigit, hstart, hmark, hsign⟩ := startsNothing_iff.mp hstarts
    refine ⟨c, rest, rfl, hblank, ?_⟩
    rw [lexeme, if_neg hquote, if_neg hdigit, if_neg hstart, hmark, sign?_eq_none_iff.mpr hsign]

/-! ### Whole texts -/

/-- A text is made of lexemes with blanks around them, up to a place where none begins. -/
inductive Misspelled : List Char → ParseError → Prop
  | here {blanks text : List Char} {error : ParseError} (hblanks : ∀ c ∈ blanks, Text.isBlank c)
      (h : Offends text error) : Misspelled (blanks ++ text) error
  | later {blanks lexeme rest : List Char} {t : Token} {error : ParseError}
      (hblanks : ∀ c ∈ blanks, Text.isBlank c) (hlexeme : Lexeme lexeme t rest)
      (h : Misspelled rest error) : Misspelled (blanks ++ lexeme ++ rest) error

/-- A text is scanned from the first character that is no blank. -/
theorem scan_of_blanks {blanks more : List Char} {c : Char} (hblanks : ∀ d ∈ blanks, Text.isBlank d)
    (hc : Text.isBlank c = false) :
    scan (blanks ++ c :: more) =
      match lexeme c more with
      | .error e => .error e
      | .ok (t, behind) => (scan behind).map (t :: ·) := by
  have hdrop : (blanks ++ c :: more).dropWhile Text.isBlank = c :: more := by
    rw [List.dropWhile_append_of_pos hblanks, List.dropWhile_cons_of_neg (by simp [hc])]
  rw [scan]
  split
  · simp_all
  · rename_i d rest h
    obtain ⟨rfl, rfl⟩ := List.cons.inj (hdrop.symm.trans h)
    split
    · simp_all
    · rename_i t behind hl
      cases hs : scan behind <;> simp [hl, hs, Except.map]

/-- A text that is no row of lexemes fails where no lexeme begins. -/
theorem Misspelled.scan_eq (h : Misspelled text error) : scan text = .error error := by
  induction h with
  | here hblanks h =>
    obtain ⟨c, rest, rfl, hblank, hlexeme⟩ := h.lexeme_eq
    rw [scan_of_blanks hblanks hblank, hlexeme]
  | @later blanks word rest t error hblanks hlexeme _ ih =>
    obtain ⟨c, more, rfl, hblank, hc⟩ := hlexeme.lexeme_eq
    rw [List.append_assoc, List.cons_append, scan_of_blanks hblanks hblank, hc]
    simp [ih, Except.map]

/-- A text is a row of lexemes, or there is a place in it where none begins. -/
theorem spelled_or_misspelled (text : List Char) :
    (∃ ts, Spelled text ts) ∨ ∃ error, Misspelled text error := by
  induction hlength : text.length using Nat.strongRecOn generalizing text with
  | ind length ih =>
    subst hlength
    have hblanks := forall_mem_takeWhile Text.isBlank text
    have htext : text.takeWhile Text.isBlank ++ text.dropWhile Text.isBlank = text :=
      List.takeWhile_append_dropWhile
    have hstop := eq_false_of_head?_dropWhile (p := Text.isBlank) text
    cases hdrop : text.dropWhile Text.isBlank with
    | nil => exact .inl ⟨[], .nil (List.dropWhile_eq_nil_iff.mp hdrop)⟩
    | cons c rest =>
      rw [hdrop] at htext hstop
      rw [← htext]
      cases hl : lexeme c rest with
      | error error => exact .inr ⟨error, .here hblanks (.of_lexeme (hstop c rfl) hl)⟩
      | ok pair =>
        obtain ⟨t, behind⟩ := pair
        have hshorter : behind.length < text.length := by
          have hrest := length_of_lexeme hl
          have hle := congrArg List.length htext
          rw [List.length_append, List.length_cons] at hle
          omega
        obtain ⟨more, rfl, hlexeme⟩ := exists_lexeme_of_eq hl
        rw [← List.cons_append, ← List.append_assoc]
        obtain ⟨ts, hts⟩ | ⟨error, herror⟩ := ih _ hshorter behind rfl
        · exact .inl ⟨t :: ts, .cons hblanks hlexeme hts⟩
        · exact .inr ⟨error, .later hblanks hlexeme herror⟩

theorem scan_eq_ok_iff_spelled : scan text = .ok ts ↔ Spelled text ts := by
  refine ⟨fun h => ?_, scan_of_spelled⟩
  obtain ⟨us, hus⟩ | ⟨error, herror⟩ := spelled_or_misspelled text
  · cases h.symm.trans (scan_of_spelled hus)
    exact hus
  · cases h.symm.trans herror.scan_eq

theorem scan_eq_error_iff_misspelled : scan text = .error error ↔ Misspelled text error := by
  refine ⟨fun h => ?_, Misspelled.scan_eq⟩
  obtain ⟨us, hus⟩ | ⟨error', herror⟩ := spelled_or_misspelled text
  · cases h.symm.trans (scan_of_spelled hus)
  · cases h.symm.trans herror.scan_eq
    exact herror

/-- A lexeme is read as its token by itself. -/
theorem Lexeme.scan_eq (h : Lexeme text t rest) : scan text = .ok [t] := by
  have hend : Lexeme text t [] := by
    cases h with
    | string hquote h => exact .string hquote h
    | number hrun hx _ => exact .number hrun hx (by simp)
    | word hword _ => exact .word hword (by simp)
    | mark h => exact .mark h
    | pair hop h => exact .pair hop h
    | sign h _ => exact .sign h (by simp)
  have hspelled := Spelled.cons_lexeme hend (.nil (List.forall_mem_nil _))
  rw [List.append_nil] at hspelled
  exact scan_of_spelled hspelled

/-! ### Written tokens -/

/-- A token that can be written: a name is a word that is not kept from being one, and a number is
denoted by digits with one point among them at most. -/
def IsLegal : Token → Prop
  | .number x => ∃ run, IsRun run ∧ run.count '.' ≤ 1 ∧ Denotes run x
  | .identifier name => IsWord name.toList ∧ name ≠ "true" ∧ name ≠ "false" ∧ name ≠ "in"
  | _ => True

theorem ofWord_eq_identifier_iff {word : String} :
    ofWord word = .identifier word ↔ word ≠ "true" ∧ word ≠ "false" ∧ word ≠ "in" := by
  unfold ofWord
  split
  · simp_all
  split
  · simp_all
  split <;> simp_all

/-- The legal tokens are those that can be written. -/
theorem isLegal_iff : t.IsLegal ↔ ∃ text, Form text t := by
  constructor
  · intro h
    cases t with
    | string s => exact exists_form_string s
    | number x =>
      obtain ⟨run, hrun, -, hx⟩ := h
      exact ⟨run, .number hrun hx⟩
    | boolean b => exact ⟨_, .boolean b⟩
    | identifier name => exact ⟨_, .identifier h.1 (ofWord_eq_identifier_iff.mpr h.2)⟩
    | operator op => exact ⟨_, .operator op⟩
    | leftParen => exact exists_form_mark (c := '(') rfl
    | rightParen => exact exists_form_mark (c := ')') rfl
    | leftBracket => exact exists_form_mark (c := '[') rfl
    | rightBracket => exact exists_form_mark (c := ']') rfl
    | comma => exact exists_form_mark (c := ',') rfl
    | dot => exact exists_form_mark (c := '.') rfl
    | question => exact exists_form_mark (c := '?') rfl
    | colon => exact exists_form_mark (c := ':') rfl
  · rintro ⟨text, h⟩
    cases h with
    | number hrun hx =>
      have hpoints := (exists_number?_iff hrun).mp ⟨_, hrun.number?_iff.mpr hx⟩
      exact ⟨text, hrun, hpoints, hx⟩
    | identifier hword h => exact ⟨hword, ofWord_eq_identifier_iff.mp h⟩
    | mark h =>
      unfold markText? at h
      split at h <;> trivial
    | string | boolean | operator => trivial

/-- A text in which tokens are written, with at least one blank between two of them. -/
def Writes (text : List Char) (ts : List Token) : Prop :=
  text = [] ∧ ts = [] ∨ Spaced text ts

theorem Writes.spelled (h : Writes text ts) : Spelled text ts := by
  obtain ⟨rfl, rfl⟩ | h := h
  · exact .nil (List.forall_mem_nil _)
  · exact h.spelled

theorem exists_writes (h : ∀ t ∈ ts, t.IsLegal) : ∃ text, Writes text ts := by
  by_cases hne : ts = []
  · exact ⟨[], .inl ⟨rfl, hne⟩⟩
  · obtain ⟨text, htext⟩ := exists_spaced hne fun t ht => isLegal_iff.mp (h t ht)
    exact ⟨text, .inr htext⟩

/-- The lexer loses nothing. A text has tokens exactly if it is made of their lexemes, none of which
goes on in the text behind it, with nothing but blanks around them; each lexeme is read as its token
by itself. Every other text is made of such lexemes up to a place where none begins, and the error
says what stands there. Whatever legal tokens are written with blanks between them are read back,
with nothing behind them. -/
theorem ofText_lossless :
    (∀ text ts, ofText text = .ok ts ↔ Spelled text.toList ts) ∧
    (∀ text error, ofText text = .error error ↔ Misspelled text.toList error) ∧
    (∀ lexeme t rest, Lexeme lexeme t rest → scan lexeme = .ok [t]) ∧
    ∀ ts : List Token, (∀ t ∈ ts, t.IsLegal) →
      (∃ text, Writes text ts) ∧ ∀ text, Writes text.toList ts → ofText text = .ok ts := by
  refine ⟨fun text ts => scan_eq_ok_iff_spelled, fun text error => scan_eq_error_iff_misspelled,
    fun lexeme t rest h => h.scan_eq, fun ts h => ⟨exists_writes h, fun text htext => ?_⟩⟩
  exact scan_eq_ok_iff_spelled.mpr htext.spelled

/-- A quote behind a backslash does not end a string, a sign of two characters is not read as two,
and the digits behind a point count. A second point among digits is an error. -/
theorem ofText_lossless_mixed :
    ofText "n <= 1.5 + 'it\\'s'" = .ok [.identifier "n", .operator .lessOrEqual, .number 1.5,
        .operator .plus, .string "it's"] ∧
      ofText "n<=1.2.3 '" = .error (.invalidNumber "1.2.3") := by
  obtain ⟨-, herror, -, hwrites⟩ := ofText_lossless
  have hword : IsWord "n".toList := ⟨'n', [], rfl, by decide, List.forall_mem_nil _⟩
  constructor
  · have hrun : IsRun "1.5".toList := ⟨'1', ".5".toList, rfl, by decide, by simp; decide⟩
    have hvalue : (wholeValue ['1'] + fractionValue ['5'] : ℚ) =
        BinaryFraction.size ⟨false, 3 * 2 ^ 51, -52⟩ := by
      simp [wholeValue, fractionValue, BinaryFraction.size]
      norm_num
    have hstands : StandsFor "1.5".toList (wholeValue ['1'] + fractionValue ['5']) :=
      @StandsFor.point ['1'] ['5'] (List.forall_mem_singleton.mpr (by decide))
        (List.forall_mem_singleton.mpr (by decide))
    have hnumber : Denotes "1.5".toList 1.5 :=
      ⟨_, hstands, hvalue ▸ Number.isNearest_size (by decide +kernel) rfl⟩
    refine (hwrites _ ?_).2 _ (.inr ?_)
    · have hlegal : ∃ run, IsRun run ∧ run.count '.' ≤ 1 ∧ Denotes run 1.5 :=
        ⟨_, hrun, by decide, hnumber⟩
      simpa [IsLegal] using ⟨hword, hlegal⟩
    · have hblank : ∀ c ∈ [' '], Text.isBlank c := List.forall_mem_singleton.mpr (by decide)
      have hstring : Form "'it\\'s'".toList (.string "it's") := .string (.inr rfl) "it's".toList
      exact .cons (.identifier hword rfl) (by simp) hblank
        (.cons (.operator .lessOrEqual) (by simp) hblank
          (.cons (.number hrun hnumber) (by simp) hblank
            (.cons (.operator .plus) (by simp) hblank (.single hstring))))
  · rw [herror]
    have hrun : IsRun "1.2.3".toList := ⟨'1', ".2.3".toList, rfl, by decide, by simp; decide⟩
    have hoffends : Offends ("1.2.3".toList ++ " '".toList) (.invalidNumber "1.2.3") :=
      .number hrun (by decide) (by simp; decide)
    have hname : Lexeme ['n'] (.identifier "n") ("<=1.2.3 '".toList) :=
      .word hword (by simp; decide)
    have hsign : Lexeme ['<', '='] (.operator .lessOrEqual) ("1.2.3 '".toList) :=
      .pair (by decide) rfl
    exact .later (List.forall_mem_nil _) hname
      (.later (List.forall_mem_nil _) hsign (.here (List.forall_mem_nil _) hoffends))

end DocTemplate.Token

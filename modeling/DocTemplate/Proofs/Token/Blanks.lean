import DocTemplate.Expr.Parsing
import DocTemplate.Proofs.Text.Blank
import Mathlib.Data.List.DropRight
import Mathlib.Data.List.TakeWhile

/-!
# Blanks around expressions

The blanks at the ends of a text do not belong to any token, so a text that has tokens has the same
ones when it is trimmed.

## Main statements

* `Token.lexeme_append_blanks` — a token does not reach into the blanks behind a text.
* `Expr.parse_trim` — an expression is read the same without the blanks around it.
-/

namespace DocTemplate

namespace Token

section Strings

variable {quote c : Char} {rest : List Char}

theorem stringBody_quote : stringBody quote (quote :: rest) = some ([], rest) := by
  rw [stringBody.eq_def]
  simp

theorem stringBody_escape (h : '\\' ≠ quote) :
    stringBody quote ('\\' :: c :: rest) =
      (stringBody quote rest).map fun r => (escaped c :: r.1, r.2) := by
  rw [stringBody.eq_def]
  simp [h]

theorem stringBody_char (hquote : c ≠ quote) (hescape : c ≠ '\\') :
    stringBody quote (c :: rest) = (stringBody quote rest).map fun r => (c :: r.1, r.2) := by
  rw [stringBody.eq_def]
  simp [hquote, hescape]

end Strings

variable {blanks : List Char} (hblanks : ∀ c ∈ blanks, Text.isBlank c)

theorem isNamePart_of_isBlank {c : Char} (h : Text.isBlank c) : isNamePart c = false := by
  have hunderscore : c ≠ '_' := Text.ne_of_isBlank h (by decide)
  simp [isNamePart, Text.isAlphanumeric_of_isBlank h, hunderscore]

theorem isNumberPart_of_isBlank {c : Char} (h : Text.isBlank c) : isNumberPart c = false := by
  have hpoint : c ≠ '.' := Text.ne_of_isBlank h (by decide)
  simp [isNumberPart, Text.isDigit_of_isBlank h, hpoint]

theorem ofPair?_of_isBlank {c d : Char} (h : Text.isBlank d) : Symbol.ofPair? c d = none := by
  have heq : d ≠ '=' := Text.ne_of_isBlank h (by decide)
  have hand : d ≠ '&' := Text.ne_of_isBlank h (by decide)
  have hor : d ≠ '|' := Text.ne_of_isBlank h (by decide)
  unfold Symbol.ofPair?
  split <;> simp_all

/-- The tokens of a text are those at the start of what is left without blanks, and so on. -/
theorem scan_eq_ok_iff {text : List Char} {ts : List Token} :
    scan text = .ok ts ↔
      (text.dropWhile Text.isBlank = [] ∧ ts = []) ∨
      ∃ c rest t behind us, text.dropWhile Text.isBlank = c :: rest ∧
        lexeme c rest = .ok (t, behind) ∧ scan behind = .ok us ∧ ts = t :: us := by
  rw [scan]
  split
  · rename_i h
    simp [h, eq_comm]
  · rename_i c rest h
    split
    · rename_i error hl
      simp [h, hl]
    · rename_i t behind hl
      cases hs : scan behind with
      | error error => simp [h, hl, hs]
      | ok us =>
        simp only [Except.ok.injEq, h, reduceCtorEq, false_and, false_or]
        constructor
        · rintro rfl
          exact ⟨c, rest, t, behind, us, rfl, hl, hs, rfl⟩
        · rintro ⟨_, _, t', behind', us', ⟨⟩, hl', hs', rfl⟩
          cases hl.symm.trans hl'
          cases hs.symm.trans hs'
          rfl

include hblanks

theorem takeWhile_append_blanks {p : Char → Bool} (hp : ∀ {c}, Text.isBlank c → p c = false)
    (text : List Char) : (text ++ blanks).takeWhile p = text.takeWhile p := by
  induction text with
  | nil =>
    cases blanks with
    | nil => rfl
    | cons b bs => simp [hp (hblanks b (by simp))]
  | cons c text ih => simp only [List.cons_append, List.takeWhile_cons, ih]

theorem dropWhile_append_blanks {p : Char → Bool} (hp : ∀ {c}, Text.isBlank c → p c = false)
    (text : List Char) : (text ++ blanks).dropWhile p = text.dropWhile p ++ blanks := by
  induction text with
  | nil =>
    cases blanks with
    | nil => rfl
    | cons b bs => simp [hp (hblanks b (by simp))]
  | cons c text ih =>
    simp only [List.cons_append, List.dropWhile_cons, ih]
    split <;> rfl

theorem stringBody_blanks {quote : Char} (hquote : Text.isBlank quote = false) :
    stringBody quote blanks = none := by
  induction blanks with
  | nil => rfl
  | cons b bs ih =>
    obtain ⟨hb, hbs⟩ := List.forall_mem_cons.mp hblanks
    rw [stringBody_char (Text.ne_of_isBlank hb hquote) (Text.ne_of_isBlank hb (by decide)), ih hbs]
    rfl

/-- A string that is closed is closed before the blanks behind a text. -/
theorem stringBody_append_blanks {quote : Char} (hquote : Text.isBlank quote = false)
    {text s behind : List Char} (h : stringBody quote (text ++ blanks) = some (s, behind)) :
    ∃ rest, stringBody quote text = some (s, rest) ∧ behind = rest ++ blanks := by
  fun_induction stringBody quote text generalizing s with
  | case1 => simp [stringBody_blanks hblanks hquote] at h
  | case2 rest =>
    rw [List.cons_append, stringBody_quote] at h
    obtain ⟨rfl, rfl⟩ : [] = s ∧ rest ++ blanks = behind := by simpa using h
    exact ⟨rest, rfl, rfl⟩
  | case3 hc =>
    -- The backslash at the end of the text stands before a blank, and behind it nothing closes.
    cases blanks with
    | nil => simp [stringBody, hc] at h
    | cons b bs =>
      have hbs := stringBody_blanks (List.forall_mem_cons.mp hblanks).2 hquote
      rw [List.singleton_append, stringBody_escape hc, hbs] at h
      cases h
  | case4 e rest hc ih =>
    rw [List.cons_append, List.cons_append, stringBody_escape hc] at h
    obtain ⟨⟨t, b⟩, hb, he⟩ := Option.map_eq_some_iff.mp h
    obtain ⟨rfl, rfl⟩ : escaped e :: t = s ∧ b = behind := by simpa using he
    obtain ⟨r, hr, rfl⟩ := ih hb
    exact ⟨r, by simp [hr], rfl⟩
  | case5 c rest hc hescape ih =>
    rw [List.cons_append, stringBody_char hc hescape] at h
    obtain ⟨⟨t, b⟩, hb, he⟩ := Option.map_eq_some_iff.mp h
    obtain ⟨rfl, rfl⟩ : c :: t = s ∧ b = behind := by simpa using he
    obtain ⟨r, hr, rfl⟩ := ih hb
    exact ⟨r, by simp [hr], rfl⟩

theorem sign?_append_blanks {c : Char} {rest behind : List Char} {op : Symbol}
    (h : sign? c (rest ++ blanks) = some (op, behind)) :
    ∃ behind', sign? c rest = some (op, behind') ∧ behind = behind' ++ blanks := by
  cases rest with
  | nil =>
    have hpair : blanks.head?.bind (Symbol.ofPair? c) = none := by
      cases blanks with
      | nil => rfl
      | cons b bs => exact ofPair?_of_isBlank (hblanks b (by simp))
    rw [List.nil_append, sign?, hpair] at h
    obtain ⟨single, hsingle, he⟩ := Option.map_eq_some_iff.mp h
    cases he
    exact ⟨[], by simp [sign?, hsingle], rfl⟩
  | cons r rest =>
    rw [List.cons_append, sign?, List.head?_cons, Option.bind_some] at h
    rw [sign?, List.head?_cons, Option.bind_some]
    split at h
    · cases h
      exact ⟨rest, rfl, rfl⟩
    · obtain ⟨single, hsingle, he⟩ := Option.map_eq_some_iff.mp h
      cases he
      exact ⟨r :: rest, by simp [hsingle], rfl⟩

/-- A token does not reach into the blanks behind a text. -/
theorem lexeme_append_blanks {c : Char} {rest behind : List Char} {t : Token}
    (h : lexeme c (rest ++ blanks) = .ok (t, behind)) :
    ∃ behind', lexeme c rest = .ok (t, behind') ∧ behind = behind' ++ blanks := by
  unfold lexeme at h ⊢
  rw [takeWhile_append_blanks hblanks isNumberPart_of_isBlank,
    takeWhile_append_blanks hblanks isNamePart_of_isBlank,
    dropWhile_append_blanks hblanks isNumberPart_of_isBlank,
    dropWhile_append_blanks hblanks isNamePart_of_isBlank] at h
  by_cases hquote : c = '"' ∨ c = '\''
  · rw [if_pos hquote] at h ⊢
    have hblank : Text.isBlank c = false := by
      obtain rfl | rfl := hquote <;> decide
    cases hs : stringBody c (rest ++ blanks) with
    | none => simp [hs] at h
    | some r =>
      obtain ⟨rest', hrest, hbehind⟩ := stringBody_append_blanks hblanks hblank hs
      simp_all
  rw [if_neg hquote] at h ⊢
  by_cases hdigit : c.isDigit
  · rw [if_pos hdigit] at h ⊢
    split at h
    · cases h
      exact ⟨_, rfl, rfl⟩
    · cases h
  rw [if_neg hdigit] at h ⊢
  by_cases hname : isNameStart c
  · rw [if_pos hname] at h ⊢
    cases h
    exact ⟨_, rfl, rfl⟩
  rw [if_neg hname] at h ⊢
  split at h
  · cases h
    exact ⟨_, rfl, rfl⟩
  · split at h
    · rename_i hsign
      cases h
      obtain ⟨rest', hrest, rfl⟩ := sign?_append_blanks hblanks hsign
      exact ⟨rest', by simp [hrest], rfl⟩
    · cases h

theorem scan_append_blanks {text : List Char} {ts : List Token}
    (h : scan (text ++ blanks) = .ok ts) : scan text = .ok ts := by
  induction hlength : text.length using Nat.strongRecOn generalizing text ts with
  | ind length ih =>
    subst hlength
    rw [scan_eq_ok_iff] at h ⊢
    rw [List.dropWhile_append] at h
    cases htext : text.dropWhile Text.isBlank with
    | nil =>
      have hnil : blanks.dropWhile Text.isBlank = [] := List.dropWhile_eq_nil_iff.mpr hblanks
      simp_all
    | cons c rest =>
      simp only [htext, List.isEmpty_cons, List.cons_append] at h
      obtain ⟨h, -⟩ | ⟨_, _, t, behind, us, hcons, hl, hs, rfl⟩ := h
      · cases h
      · cases hcons
        obtain ⟨behind', hl', rfl⟩ := lexeme_append_blanks hblanks hl
        have hshorter : behind'.length < text.length := by
          have hrest := length_of_lexeme hl'
          have htail := length_dropWhile_le Text.isBlank text
          rw [htext, List.length_cons] at htail
          omega
        exact .inr ⟨c, rest, t, behind', us, rfl, hl', ih _ hshorter hs rfl, rfl⟩

omit hblanks in
/-- The blanks around a text do not change its tokens. -/
theorem scan_trim {text : List Char} {ts : List Token} (h : scan text = .ok ts) :
    scan (Text.trim text) = .ok ts := by
  have hstart : scan (Text.trimStart text) = .ok ts := by
    rw [scan_eq_ok_iff] at h ⊢
    rwa [Text.trimStart, List.dropWhile_idempotent]
  obtain ⟨blanks, hblanks, htext⟩ := Text.exists_append_trimEnd (Text.trimStart text)
  rw [← htext] at hstart
  exact scan_append_blanks hblanks hstart

end Token

namespace Expr

theorem parse_eq_ok_iff {text : String} {e : Expr} :
    parse text = .ok e ↔ ∃ ts, Token.scan text.toList = .ok ts ∧ ofTokens ts = .ok e := by
  rw [parse, Token.ofText]
  cases Token.scan text.toList <;> simp

/-- An expression is read the same without the blanks around it. -/
theorem parse_trim {text : String} {e : Expr} (h : parse text = .ok e) :
    parse (String.ofList (Text.trim text.toList)) = .ok e := by
  obtain ⟨ts, hts, he⟩ := parse_eq_ok_iff.mp h
  exact parse_eq_ok_iff.mpr ⟨ts, by simpa using Token.scan_trim hts, he⟩

end Expr

end DocTemplate

import DocTemplate.Decimal.Numeral
import DocTemplate.Text.Blank
import DocTemplate.Text.Letter
import DocTemplate.Token.Basic

/-!
# Splitting a text into tokens

Tokens are read from left to right, blanks between them are dropped. Names and runs of digits are as
long as they can be, and a sign of two characters goes before a sign of one.

## Main definitions

* `Token.lexeme` — the token at the start of a text, with the text behind it.
* `Token.ofText` — all tokens of a text.

## Main statements

* `Token.length_of_lexeme` — a token takes at least one character.
-/

namespace DocTemplate

namespace Token

/-- Whether a character starts a name. -/
def isNameStart (c : Char) : Bool :=
  Text.isAlphabetic c || c == '$' || c == '_'

/-- Whether a character goes on with a name. -/
def isNamePart (c : Char) : Bool :=
  Text.isAlphanumeric c || c == '_'

/-- Whether a character belongs to a run of digits. -/
def isNumberPart (c : Char) : Bool :=
  c.isDigit || c == '.'

/-- What a character behind a backslash stands for. -/
def escaped (c : Char) : Char :=
  if c = 'n' then '\n' else if c = 't' then '\t' else c

/-- The string behind an opening quote, and the text behind its closing quote. -/
def stringBody (quote : Char) : List Char → Option (List Char × List Char)
  | [] => none
  | c :: rest =>
    if c = quote then some ([], rest)
    else if c = '\\' then
      match rest with
      | [] => none
      | e :: rest => (stringBody quote rest).map fun (s, behind) => (escaped e :: s, behind)
    else (stringBody quote rest).map fun (s, behind) => (c :: s, behind)

/-- The token of a word: three words are kept from being names. -/
def ofWord (word : String) : Token :=
  if word = "true" then .boolean true
  else if word = "false" then .boolean false
  else if word = "in" then .operator .isIn
  else .identifier word

/-- The token of a bracket or a mark. -/
def ofMark? : Char → Option Token
  | '(' => some .leftParen
  | ')' => some .rightParen
  | '[' => some .leftBracket
  | ']' => some .rightBracket
  | ',' => some .comma
  | '.' => some .dot
  | '?' => some .question
  | ':' => some .colon
  | _ => none

/-- The sign at the start of a text, two characters before one. -/
def sign? (c : Char) (rest : List Char) : Option (Symbol × List Char) :=
  match rest.head?.bind (Symbol.ofPair? c) with
  | some op => some (op, rest.tail)
  | none => (Symbol.ofChar? c).map (·, rest)

/-- The number that a run of digits and points spells. -/
def number? (run : List Char) : Option Float :=
  (Numeral.read? run).map Numeral.nearest

/-- The token at the start of the text `c :: rest`, and the text behind it. -/
def lexeme (c : Char) (rest : List Char) : Except ParseError (Token × List Char) :=
  if c = '"' ∨ c = '\'' then
    match stringBody c rest with
    | some (s, behind) => .ok (.string (String.ofList s), behind)
    | none => .error .unterminatedString
  else if c.isDigit then
    match number? (c :: rest.takeWhile isNumberPart) with
    | some x => .ok (.number x, rest.dropWhile isNumberPart)
    | none => .error (.invalidNumber (String.ofList (c :: rest.takeWhile isNumberPart)))
  else if isNameStart c then
    .ok (ofWord (String.ofList (c :: rest.takeWhile isNamePart)), rest.dropWhile isNamePart)
  else
    match ofMark? c with
    | some mark => .ok (mark, rest)
    | none =>
      match sign? c rest with
      | some (op, behind) => .ok (.operator op, behind)
      | none => .error (.unexpectedCharacter c)

theorem length_dropWhile_le {α : Type} (p : α → Bool) (l : List α) :
    (l.dropWhile p).length ≤ l.length :=
  (List.dropWhile_suffix p).length_le

theorem length_of_stringBody {quote : Char} {text s behind : List Char}
    (h : stringBody quote text = some (s, behind)) : behind.length < text.length := by
  fun_induction stringBody quote text generalizing s behind with
  | case1 => simp at h
  | case2 => simp_all
  | case3 => simp at h
  | case4 e rest _ ih =>
    obtain ⟨⟨t, b⟩, hb, he⟩ := Option.map_eq_some_iff.mp h
    obtain ⟨_, rfl⟩ : escaped e :: t = s ∧ b = behind := by simpa using he
    have := ih hb
    simp
    omega
  | case5 c rest _ _ ih =>
    obtain ⟨⟨t, b⟩, hb, he⟩ := Option.map_eq_some_iff.mp h
    obtain ⟨_, rfl⟩ : c :: t = s ∧ b = behind := by simpa using he
    have := ih hb
    simp
    omega

theorem length_of_sign? {c : Char} {rest behind : List Char} {op : Symbol}
    (h : sign? c rest = some (op, behind)) : behind.length ≤ rest.length := by
  unfold sign? at h
  split at h
  · obtain ⟨_, rfl⟩ : _ ∧ rest.tail = behind := by simpa using h
    simp
  · obtain ⟨_, _, he⟩ := Option.map_eq_some_iff.mp h
    obtain ⟨_, rfl⟩ : _ ∧ rest = behind := by simpa using he
    simp

/-- A token takes at least its first character. -/
theorem length_of_lexeme {c : Char} {rest behind : List Char} {t : Token}
    (h : lexeme c rest = .ok (t, behind)) : behind.length ≤ rest.length := by
  unfold lexeme at h
  split at h
  · split at h
    · rename_i hs
      cases h
      exact Nat.le_of_lt (length_of_stringBody hs)
    · cases h
  split at h
  · split at h
    · cases h
      exact length_dropWhile_le _ _
    · cases h
  split at h
  · cases h
    exact length_dropWhile_le _ _
  split at h
  · cases h
    exact Nat.le_refl _
  split at h
  · rename_i hs
    cases h
    exact length_of_sign? hs
  · cases h

/-- The tokens of a text. -/
def scan (text : List Char) : Except ParseError (List Token) :=
  match _h : text.dropWhile Text.isBlank with
  | [] => .ok []
  | c :: rest =>
    match _hl : lexeme c rest with
    | .error e => .error e
    | .ok (t, behind) =>
      match scan behind with
      | .error e => .error e
      | .ok ts => .ok (t :: ts)
termination_by text.length
decreasing_by
  have := length_of_lexeme _hl
  have := length_dropWhile_le Text.isBlank text
  simp_all
  omega

/-- The tokens of a text. -/
def ofText (text : String) : Except ParseError (List Token) :=
  scan text.toList

end Token

end DocTemplate

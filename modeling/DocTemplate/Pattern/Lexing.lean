import DocTemplate.Decimal.Digits
import DocTemplate.Pattern.Token
import DocTemplate.Text.Blank
import DocTemplate.Text.Hexadecimal
import DocTemplate.Text.Letter
import DocTemplate.Text.Search

/-!
# Splitting a pattern into tokens

A pattern is read from left to right. In verbose parts blanks and comments may stand between the
characters of most tokens; which parts are verbose depends on the groups that are open, and inside
brackets other tokens are read than outside.

## Main definitions

* `LexState` — what the text so far means for the text to come.
* `LexState.lexeme?` — the tokens at the start of a text, with the text behind them.
* `PatternToken.ofText?` — all tokens of a pattern.
-/

namespace DocTemplate.Pattern

open Text (isBlank isAlphabetic isAlphanumeric)

/-! ### Gaps -/

/-- A text without the blanks and comments at its start. -/
def afterGap (inComment : Bool) : List Char → List Char
  | [] => []
  | c :: rest =>
    if inComment then afterGap (c != '\n') rest
    else if isBlank c then afterGap false rest
    else if c = '#' then afterGap true rest
    else c :: rest

/-- A text without the gap at its start; only verbose parts have gaps. -/
def skipGap (verbose : Bool) (text : List Char) : List Char :=
  if verbose then afterGap false text else text

/-- The next character that may end a range. In verbose parts blanks and one comment sign in front
of it do not count. -/
def peek? (verbose : Bool) (text : List Char) : Option Char :=
  if verbose then
    match text.dropWhile isBlank with
    | '#' :: rest => (rest.dropWhile isBlank).head?
    | behind => behind.head?
  else text.head?

/-- The characters up to a closing brace, without gaps, and the text behind the brace. -/
def braced (verbose inComment : Bool) : List Char → Option (List Char × List Char)
  | [] => none
  | c :: rest =>
    if inComment then braced verbose (c != '\n') rest
    else if verbose && isBlank c then braced verbose false rest
    else if verbose && c == '#' then braced verbose true rest
    else if c = '}' then some ([], rest)
    else (braced verbose false rest).map fun (inside, behind) => (c :: inside, behind)

/-! ### Numbers -/

/-- The digits at the start of a text, without the gaps behind them, and the text behind. -/
def digits (verbose inComment : Bool) : List Char → List Char × List Char
  | [] => ([], [])
  | c :: rest =>
    if inComment then digits verbose (c != '\n') rest
    else if c.isDigit then
      let (ds, behind) := digits verbose false rest
      (c :: ds, behind)
    else if verbose && isBlank c then digits verbose false rest
    else if verbose && c == '#' then digits verbose true rest
    else ([], c :: rest)

/-- The number at the start of a text, with blanks around it. It has at most 32 bits. -/
def count? (verbose : Bool) (text : List Char) : Option (Nat × List Char) :=
  let (ds, behind) := digits verbose false (text.dropWhile isBlank)
  let n := natOfDigits ds
  if ds.isEmpty || Nat.pow 2 32 ≤ n then none else some (n, behind.dropWhile isBlank)

/-- The character that hexadecimal digits stand for. -/
def hexChar? (ds : List Char) : Option Char := do
  let n ← Text.hexNumber? ds
  if h : n.isValidChar then some (Char.ofNatAux n h) else none

/-- A fixed number of characters with gaps between them, and the text behind them. -/
def fixedDigits (verbose : Bool) : Nat → List Char → Option (List Char × List Char)
  | 0, text => some ([], text)
  | n + 1, text =>
    match skipGap verbose text with
    | [] => none
    | c :: rest => (fixedDigits verbose n rest).map fun (ds, behind) => (c :: ds, behind)

/-- The character that hexadecimal digits stand for, `width` of them or any number in braces. -/
def hexEscape? (verbose : Bool) (width : Nat) : List Char → Option (Literal × List Char)
  | '{' :: rest => do
    let (ds, behind) ← braced verbose false rest
    if ds.isEmpty then none else (hexChar? ds).map fun c => (⟨c, false⟩, behind)
  | text => do
    let (ds, behind) ← fixedDigits verbose width text
    (hexChar? ds).map fun c => (⟨c, width == 2⟩, behind)

/-! ### Escapes -/

/-- What a backslash and the characters behind it stand for. -/
inductive Escape where
  | literal (c : Literal)
  | named (name : ClassName) (negated : Bool)
  | mark (m : Mark)

/-- The token of an escape outside brackets. -/
def Escape.token : Escape → PatternToken
  | .literal c => .literal c
  | .named name negated => .charClass name negated
  | .mark m => .mark m

/-- The class of a property as it is written in braces. -/
def propertyOf (text : List Char) : ClassName :=
  match (Text.cut? ['!', '='] text).or ((Text.cut? [':'] text).or (Text.cut? ['='] text)) with
  | some (name, value) => .propertyValue name value
  | none => .property text

/-- The class of a property, a single letter or a name in braces. -/
def propertyEscape? (verbose : Bool) : List Char → Option (ClassName × List Char)
  | [] => none
  | '\\' :: _ => none
  | '{' :: rest =>
    (braced verbose false rest).map fun (inside, behind) => (propertyOf inside, behind)
  | c :: rest => some (.property [c], rest)

/-- Whether a character may stand in the name of a kind of word boundary. -/
def isBoundaryPart (c : Char) : Bool :=
  c.isAlpha || c == '-'

/-- The word boundary that is written behind `\b`; braces that hold no name belong to what
follows. -/
def boundaryEscape? (verbose : Bool) (text : List Char) : Option (Mark × List Char) :=
  match text with
  | '{' :: rest =>
    if (skipGap verbose rest).head?.any isBoundaryPart then do
      let (name, behind) ← braced verbose false rest
      let kinds : List (String × Mark) :=
        [("start", .wordStart), ("end", .wordEnd), ("start-half", .wordStartHalf),
          ("end-half", .wordEndHalf)]
      (kinds.lookup (String.ofList name)).map (·, behind)
    else some (.wordBoundary, text)
  | text => some (.wordBoundary, text)

/-- Whether a character stands for itself behind a backslash. -/
def isEscapable (c : Char) : Bool :=
  c.toNat < 128 && !c.isAlphanum && c != '<' && c != '>'

/-- What the text behind a backslash stands for. -/
def escape? (verbose : Bool) : List Char → Option (Escape × List Char)
  | [] => none
  | 'x' :: rest =>
    (hexEscape? verbose 2 (skipGap verbose rest)).map fun (c, behind) => (.literal c, behind)
  | 'u' :: rest =>
    (hexEscape? verbose 4 (skipGap verbose rest)).map fun (c, behind) => (.literal c, behind)
  | 'U' :: rest =>
    (hexEscape? verbose 8 (skipGap verbose rest)).map fun (c, behind) => (.literal c, behind)
  | 'p' :: rest =>
    (propertyEscape? verbose (skipGap verbose rest)).map fun (n, behind) => (.named n false, behind)
  | 'P' :: rest =>
    (propertyEscape? verbose (skipGap verbose rest)).map fun (n, behind) => (.named n true, behind)
  | 'd' :: rest => some (.named .digit false, rest)
  | 'D' :: rest => some (.named .digit true, rest)
  | 's' :: rest => some (.named .space false, rest)
  | 'S' :: rest => some (.named .space true, rest)
  | 'w' :: rest => some (.named .word false, rest)
  | 'W' :: rest => some (.named .word true, rest)
  | 'a' :: rest => some (.literal ⟨'\x07', false⟩, rest)
  | 'f' :: rest => some (.literal ⟨'\x0c', false⟩, rest)
  | 't' :: rest => some (.literal ⟨'\t', false⟩, rest)
  | 'n' :: rest => some (.literal ⟨'\n', false⟩, rest)
  | 'r' :: rest => some (.literal ⟨'\r', false⟩, rest)
  | 'v' :: rest => some (.literal ⟨'\x0b', false⟩, rest)
  | 'A' :: rest => some (.mark .textStart, rest)
  | 'z' :: rest => some (.mark .textEnd, rest)
  | 'b' :: rest => (boundaryEscape? verbose rest).map fun (m, behind) => (.mark m, behind)
  | 'B' :: rest => some (.mark .noWordBoundary, rest)
  | '<' :: rest => some (.mark .wordStart, rest)
  | '>' :: rest => some (.mark .wordEnd, rest)
  | c :: rest => if isEscapable c then some (.literal ⟨c, false⟩, rest) else none

/-! ### Groups -/

/-- Whether a text is the name of a group. -/
def isGroupName : List Char → Bool
  | [] => false
  | c :: rest =>
    (c == '_' || isAlphabetic c)
      && rest.all fun c => c == '_' || c == '.' || c == '[' || c == ']' || isAlphanumeric c

/-- The flags that letters turn on and, behind a hyphen, off. No letter and no hyphen stands twice,
and a hyphen does not stand last. -/
def flagChange? (letters : List Char) : Option FlagChange := do
  let isOn (c : Char) : Bool := c != '-'
  let on ← (letters.takeWhile isOn).mapM FlagName.ofChar?
  let off ← ((letters.dropWhile isOn).drop 1).mapM FlagName.ofChar?
  if (on ++ off).Nodup ∧ letters.getLast? ≠ some '-' then
    some (on.map (·, true) ++ off.map (·, false))
  else none

/-- The group name in front of a closing angle bracket, and the text behind it. -/
def groupName? (text : List Char) : Option (String × List Char) := do
  let (name, behind) ← Text.cut? ['>'] text
  if isGroupName name then some (String.ofList name, behind) else none

/-- Whether flags go on with a character; whether it is a flag is not asked yet. -/
def isFlagPart (c : Char) : Bool :=
  c != ':' && c != ')'

/-- The token of flags by what stands behind them, and the text behind it. They hold for the group
that opens, or for the rest of the one that is open. -/
def flagEnd? (change : FlagChange) : List Char → Option (PatternToken × List Char)
  | ':' :: behind => some (.groupStart none change, behind)
  | ')' :: behind => if change.isEmpty then none else some (.setFlags change, behind)
  | _ => none

/-- The token of flags behind an opening parenthesis and a question mark, and the text behind it. -/
def flagToken? (text : List Char) : Option (PatternToken × List Char) := do
  let change ← flagChange? (text.takeWhile isFlagPart)
  flagEnd? change (text.dropWhile isFlagPart)

/-- The token of an opening parenthesis, and the text behind it. There are no groups that look ahead
or behind. -/
def groupToken? : List Char → Option (PatternToken × List Char)
  | '?' :: '<' :: rest =>
    (groupName? rest).map fun (name, behind) => (.groupStart (some name) [], behind)
  | '?' :: 'P' :: '<' :: rest =>
    (groupName? rest).map fun (name, behind) => (.groupStart (some name) [], behind)
  | '?' :: rest => flagToken? rest
  | behind => some (.groupStart none [], behind)

/-! ### Repetitions -/

/-- A text without the question mark of a repetition that takes as little as it can. -/
def afterLazy : List Char → List Char
  | '?' :: rest => rest
  | text => text

/-- The greatest count of a repetition behind a comma, if there is one, and the text behind it. -/
def bound? (verbose : Bool) : List Char → Option (Option Nat × List Char)
  | '}' :: rest => some (none, '}' :: rest)
  | text => (count? verbose text).map fun (n, behind) => (some n, behind)

/-- The greatest count of a repetition behind its least one, and the text behind it. -/
def greatestCount? (verbose : Bool) (least : Nat) : List Char → Option (Option Nat × List Char)
  | ',' :: rest => bound? verbose (skipGap verbose rest)
  | text => some (some least, text)

/-- The repetition between two counts in front of a closing brace, and the text behind it. -/
def closedCount? (verbose : Bool) (least : Nat) (greatest : Option Nat) :
    List Char → Option (PatternToken × List Char)
  | '}' :: rest =>
    if greatest.all (least ≤ ·) then
      some (.repetition least greatest, afterLazy (skipGap verbose rest))
    else none
  | _ => none

/-- The repetition whose counts stand behind an opening brace, and the text behind it. -/
def countedToken? (verbose : Bool) (text : List Char) : Option (PatternToken × List Char) := do
  let (least, behind) ← count? verbose (skipGap verbose text)
  let (greatest, behind) ← greatestCount? verbose least behind
  closedCount? verbose least greatest behind

/-! ### Classes in brackets -/

/-- Whether a class in a second pair of brackets is negated, and the text from its name on. -/
def asciiOpening? : List Char → Option (Bool × List Char)
  | ':' :: '^' :: rest => some (true, rest)
  | ':' :: rest => some (false, rest)
  | _ => none

/-- A member of a class if a closing bracket follows, and the text behind it. -/
def closedMember? (member : ClassMember) : List Char → Option (ClassMember × List Char)
  | ']' :: rest => some (member, rest)
  | _ => none

/-- The ASCII class that is named in a second pair of brackets, and the text behind it. -/
def asciiClass? (text : List Char) : Option (ClassMember × List Char) := do
  let (negated, text) ← asciiOpening? text
  let (name, behind) ← Text.cut? [':'] text
  let cls ← AsciiClass.all.lookup (String.ofList name)
  closedMember? (.named (.ascii cls) negated) behind

/-- What stands at the start of a text inside brackets: an escape, or a character for itself. -/
def classItem? (verbose : Bool) : List Char → Option (Escape × List Char)
  | [] => none
  | '\\' :: rest => escape? verbose rest
  | c :: rest => some (.literal ⟨c, false⟩, rest)

/-- The member of a class that an escape is by itself; a mark is none. -/
def Escape.member? : Escape → Option ClassMember
  | .literal c => some (.range c c)
  | .named name negated => some (.named name negated)
  | .mark _ => none

/-- The range between two escapes, which have to be characters in order. -/
def Escape.rangeTo? : Escape → Escape → Option ClassMember
  | .literal first, .literal last =>
    if first.char ≤ last.char then some (.range first last) else none
  | _, _ => none

/-- The member that starts with `item`, by the text behind it, and the text behind the member. A
hyphen makes a range unless a closing bracket or another hyphen follows. -/
def memberFrom? (verbose : Bool) (item : Escape) (text : List Char) :
    Option (ClassMember × List Char) :=
  match skipGap verbose text with
  | '-' :: rest =>
    if peek? verbose rest = some ']' ∨ peek? verbose rest = some '-' then
      item.member?.map (·, text)
    else do
      let (last, behind) ← classItem? verbose (skipGap verbose rest)
      (item.rangeTo? last).map (·, behind)
  | _ => item.member?.map (·, text)

/-- The member at the start of a text inside brackets, and the text behind it. -/
def classMember? (verbose : Bool) (text : List Char) : Option (ClassMember × List Char) := do
  let (item, behind) ← classItem? verbose text
  memberFrom? verbose item behind

/-- The operation of a sign that is doubled. -/
def doubled? : Char → Option SetOperation
  | '&' => some .intersection
  | '-' => some .difference
  | '~' => some .symmetricDifference
  | _ => none

/-- The operation of a sign that stands at the start of a text once more, and the text behind it. -/
def setOperation? (c : Char) : List Char → Option (SetOperation × List Char)
  | [] => none
  | d :: behind => if d = c then (doubled? c).map (·, behind) else none

/-! ### The whole text -/

/-- Where in a pair of brackets the text stands. -/
inductive ClassPlace where
  /-- Right behind the opening bracket. -/
  | first
  /-- Behind hyphens at the start. -/
  | afterHyphens
  | later
deriving DecidableEq, Repr

/-- What the text so far means for the text to come. -/
structure LexState where
  /-- Whether blanks and comments are left out. -/
  verbose : Bool
  /-- The same for what stands around the open groups, from the inside to the outside. -/
  outer : List Bool
  /-- The number of open brackets. -/
  depth : Nat
  place : ClassPlace
deriving DecidableEq, Repr

namespace LexState

/-- The state at the start of a pattern. -/
def initial : LexState := ⟨false, [], 0, .later⟩

/-- Whether a part is verbose under a change of flags. -/
def verboseUnder (s : LexState) (change : FlagChange) : Bool :=
  (change.lookup .verbose).getD s.verbose

/-- The state behind a token outside brackets; a group must be open if it is closed. -/
def after? (s : LexState) : PatternToken → Option LexState
  | .groupStart _ change =>
    some { s with verbose := s.verboseUnder change, outer := s.verbose :: s.outer }
  | .setFlags change => some { s with verbose := s.verboseUnder change }
  | .groupEnd =>
    match s.outer with
    | [] => none
    | verbose :: outer => some { s with verbose := verbose, outer := outer }
  | _ => some s

/-- The token at the start of the text `c :: rest` outside brackets, an opening bracket apart. -/
def outside? (s : LexState) (c : Char) (rest : List Char) : Option (PatternToken × List Char) :=
  match c with
  | '(' => groupToken? (skipGap s.verbose rest)
  | ')' => some (.groupEnd, rest)
  | '|' => some (.bar, rest)
  | '?' => some (.repetition 0 (some 1), afterLazy rest)
  | '*' => some (.repetition 0 none, afterLazy rest)
  | '+' => some (.repetition 1 none, afterLazy rest)
  | '{' => countedToken? s.verbose rest
  | '.' => some (.dot, rest)
  | '^' => some (.mark .lineStart, rest)
  | '$' => some (.mark .lineEnd, rest)
  | '\\' =>
    (escape? s.verbose rest).map fun (e, behind) => (e.token, behind)
  | c => some (.literal ⟨c, false⟩, rest)

/-- The token of an opening bracket, with the state and the text behind it. -/
def openBracket (s : LexState) (rest : List Char) : PatternToken × LexState × List Char :=
  let inside : LexState := { s with depth := s.depth + 1, place := .first }
  match skipGap s.verbose rest with
  | '^' :: rest => (.classStart true, inside, rest)
  | _ => (.classStart false, inside, rest)

/-- The token at the start of the text `c :: rest` inside brackets, with the state and the text
behind it. Hyphens at the start, and a closing bracket as the very first character, stand for
themselves. -/
def inside? (s : LexState) (c : Char) (rest : List Char) :
    Option (PatternToken × LexState × List Char) :=
  let later : LexState := { s with place := .later }
  let itself : PatternToken := .classMember (.range ⟨c, false⟩ ⟨c, false⟩)
  if c = '-' ∧ s.place ≠ .later then some (itself, { s with place := .afterHyphens }, rest)
  else if c = ']' then
    if s.place = .first then some (itself, later, rest)
    else some (.classEnd, { later with depth := s.depth - 1 }, rest)
  else if c = '[' then
    match asciiClass? rest with
    | some (member, behind) => some (.classMember member, later, behind)
    | none => some (openBracket s rest)
  else
    match setOperation? c rest with
    | some (op, behind) => some (.classOperation op, later, behind)
    | none =>
      (classMember? s.verbose (c :: rest)).map fun (m, behind) => (.classMember m, later, behind)

/-- The token at the start of the text `c :: rest`, with the state and the text behind it. -/
def lexeme? (s : LexState) (c : Char) (rest : List Char) :
    Option (PatternToken × LexState × List Char) :=
  if 0 < s.depth then s.inside? c rest
  else if c = '[' then some (s.openBracket rest)
  else do
    let (token, behind) ← s.outside? c rest
    let s ← s.after? token
    some (token, s, behind)

/-- The tokens of a text whose first characters, `skipped` of them, belong to what has been read. -/
def tokens? (s : LexState) (skipped : Nat) : List Char → Option (List PatternToken)
  | [] => some []
  | c :: rest =>
    match skipped with
    | skipped + 1 => s.tokens? skipped rest
    | 0 =>
      if s.verbose ∧ (isBlank c ∨ c = '#') then
        s.tokens? (rest.length - (skipGap true (c :: rest)).length) rest
      else
        match s.lexeme? c rest with
        | none => none
        | some (token, next, behind) =>
          (next.tokens? (rest.length - behind.length) rest).map (token :: ·)

end LexState

/-- The tokens of a pattern. -/
def PatternToken.ofText? (text : List Char) : Option (List PatternToken) :=
  LexState.initial.tokens? 0 text

end DocTemplate.Pattern

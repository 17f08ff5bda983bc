import DocTemplate.Pattern.Reading

/-!
# Matching

The places of a text are numbered from `0` in front of its first character to its length. A set of
places is a number whose binary digits tell which places belong to it. Every part of a regular
expression moves a set of places to the set of places where it can end.

## Main definitions

* `Regex.reach` — the places where a regular expression can end.
* `Pattern` — a well-formed pattern.
* `Pattern.ofText?` — the pattern that a text is.
* `Pattern.wholeText?` — the same for a pattern that is to match a whole text.
* `Pattern.occursIn` — whether a pattern matches a piece of a text.
-/

namespace DocTemplate

namespace Pattern

/-! ### Places -/

/-- The places in front of the characters of a kind. -/
def placesBefore (p : Char → Bool) : List Char → Nat
  | [] => 0
  | c :: rest => 2 * placesBefore p rest + (p c).toNat

/-- The places with a property that depends on the character in front of them and the one behind;
`before` is the character in front of the text. -/
def placesBetween (p : Option Char → Option Char → Bool) (before : Option Char) : List Char → Nat
  | [] => (p before none).toNat
  | c :: rest => 2 * placesBetween p (some c) rest + (p before (some c)).toNat

/-- The places that belong to one set and not to another. -/
def withoutPlaces (s t : Nat) : Nat :=
  s ^^^ (s &&& t)

/-- The places that are reached in exactly `n` moves. A move that changes nothing is not
repeated. -/
def reachedIn (move : Nat → Nat) : Nat → Nat → Nat
  | 0, s => s
  | n + 1, s =>
    let next := move s
    if next = s then s else reachedIn move n next

/-- The places that are reached in at most `n` moves from the latest ones, and the ones before. -/
def reachedWithin (move : Nat → Nat) : Nat → Nat → Nat → Nat
  | 0, _, reached => reached
  | n + 1, latest, reached =>
    let latest := withoutPlaces (move latest) reached
    if latest = 0 then reached else reachedWithin move n latest (reached ||| latest)

/-! ### Words and lines -/

/-- Whether a character belongs to a word. -/
def isWordChar (unicode : Bool) : Option Char → Bool
  | none => false
  | some c =>
    if c.toNat < 128 then c.isAlphanum || c == '_'
    else unicode && CharSet.word.contains c

/-- Whether a place is what is asked for, by the characters around it. -/
def Position.holds (p : Position) (before after : Option Char) : Bool :=
  match p with
  | .textStart => before.isNone
  | .textEnd => after.isNone
  | .lineStart false => before.isNone || before == some '\n'
  | .lineStart true =>
    before.isNone || before == some '\n' || (before == some '\r' && after != some '\n')
  | .lineEnd false => after.isNone || after == some '\n'
  | .lineEnd true =>
    after.isNone || after == some '\r' || (after == some '\n' && before != some '\r')
  | .wordBoundary u => isWordChar u before != isWordChar u after
  | .noWordBoundary u => isWordChar u before == isWordChar u after
  | .wordStart u => !isWordChar u before && isWordChar u after
  | .wordEnd u => isWordChar u before && !isWordChar u after
  | .wordStartHalf u => !isWordChar u before
  | .wordEndHalf u => !isWordChar u after

/-! ### Moves -/

/-- What a leaf does in a given text. -/
inductive Move where
  /-- One character forward from these places. -/
  | forward (places : Nat)
  /-- No move, and only at these places. -/
  | stay (places : Nat)
deriving DecidableEq, Repr

/-- The places that are reached by a move. -/
def Move.apply : Move → Nat → Nat
  | .forward places, s => (s &&& places) <<< 1
  | .stay places, s => s &&& places

/-- What a leaf does in a text. -/
def Leaf.move (text : List Char) : Leaf → Move
  | .char s => .forward (placesBefore s.contains text)
  | .position p => .stay (placesBetween p.holds none text)

/-- The places where a regular expression can end in a text of `size` characters. -/
def Regex.reach (size : Nat) : Regex Move → Nat → Nat
  | .empty, s => s
  | .leaf m, s => m.apply s
  | .seq p q, s => q.reach size (p.reach size s)
  | .alt p q, s => p.reach size s ||| q.reach size s
  | .times p least greatest, s =>
    let s := reachedIn (p.reach size) least s
    let more :=
      match greatest with
      | none => size + 1
      | some greatest => (greatest - least).min (size + 1)
    reachedWithin (p.reach size) more s s

end Pattern

/-- A well-formed pattern. -/
structure Pattern where
  regex : Pattern.Regex Pattern.Leaf
deriving DecidableEq, Repr

namespace Pattern

/-- The pattern of a text. -/
def ofText? (text : String) : Option Pattern :=
  (Regex.ofText? text.toList).map (⟨·⟩)

/-- What stands in front of a pattern that is to match a whole text. -/
def wholeOpening : List Char := ['^', '(', '?', ':']

/-- What stands behind a pattern that is to match a whole text. -/
def wholeClosing : List Char := [')', '$']

/-- The pattern of a text that is put between the marks of the start and the end. -/
def wholeText? (text : String) : Option Pattern :=
  (Regex.ofText? (wholeOpening ++ text.toList ++ wholeClosing)).map (⟨·⟩)

/-- Whether a pattern matches a piece of a text. -/
def occursIn (p : Pattern) (text : String) : Bool :=
  let text := text.toList
  (p.regex.map (Leaf.move text)).reach text.length (Nat.pow 2 (text.length + 1) - 1) != 0

/-- Whether a pattern text describes the whole of a text. One that is not well-formed describes
none. -/
def isWhole (pattern text : String) : Bool :=
  (wholeText? pattern).any (·.occursIn text)

end Pattern

end DocTemplate

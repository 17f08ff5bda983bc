import DocTemplate.Pattern.CharSet

/-!
# Regular expressions

A regular expression describes pieces of a text. Its leaves are left open, so that a leaf may be a
description of characters and positions, or already a move in a given text.

## Main definitions

* `Regex` — regular expressions over leaves of a type.
* `Position` — what can be asked about a position in a text.
* `Leaf` — a character of a set, or a position.
* `Regex.room` — how much room the states of a regular expression take.
-/

namespace DocTemplate.Pattern

/-- Regular expressions. -/
inductive Regex (α : Type) where
  /-- The empty piece. -/
  | empty
  | leaf (a : α)
  | seq (r s : Regex α)
  | alt (r s : Regex α)
  /-- At least `least` pieces after each other, and not more than `greatest` if there is a bound. -/
  | times (r : Regex α) (least : Nat) (greatest : Option Nat)
deriving DecidableEq, Repr

/-- The places where lines and words start and end. -/
inductive Position where
  | textStart
  | textEnd
  /-- The start of a line; with `crlf` a carriage return ends a line as well, but not in front of a
  line feed. -/
  | lineStart (crlf : Bool)
  | lineEnd (crlf : Bool)
  /-- A place with a word on one side only; `unicode` says what words are made of. -/
  | wordBoundary (unicode : Bool)
  | noWordBoundary (unicode : Bool)
  | wordStart (unicode : Bool)
  | wordEnd (unicode : Bool)
  /-- A place without a word in front of it. -/
  | wordStartHalf (unicode : Bool)
  | wordEndHalf (unicode : Bool)
deriving DecidableEq, Repr

/-- What a regular expression is made of. -/
inductive Leaf where
  | char (s : CharSet)
  | position (p : Position)
deriving DecidableEq, Repr

namespace Regex

/-- A regular expression with other leaves. -/
def map {α β : Type} (f : α → β) : Regex α → Regex β
  | .empty => .empty
  | .leaf a => .leaf (f a)
  | .seq r s => .seq (r.map f) (s.map f)
  | .alt r s => .alt (r.map f) (s.map f)
  | .times r least greatest => .times (r.map f) least greatest

/-- The room of the states that read a character of a set. -/
def charRoom (s : CharSet) : Nat :=
  if s.isAscii then
    if s.runCount ≤ 1 then 32 else 64 + 8 * s.runCount
  else 64 + 60 * s.runCount

/-- The room of the states of a leaf. -/
def leafRoom : Leaf → Nat
  | .char s => charRoom s
  | .position _ => 32

/-- Whether a regular expression asks for positions only. -/
def takesNothing : Regex Leaf → Bool
  | .empty => true
  | .leaf (.char _) => false
  | .leaf (.position _) => true
  | .seq r s => r.takesNothing && s.takesNothing
  | .alt r s => r.takesNothing && s.takesNothing
  | .times r _ greatest => greatest == some 0 || r.takesNothing

/-- How much room the states of a regular expression take. A repetition has a copy of its states for
each time that it counts; what takes no characters need not be repeated. -/
def room : Regex Leaf → Nat
  | .empty => 0
  | .leaf l => leafRoom l
  | .seq r s => r.room + s.room
  | .alt r s => r.room + s.room + 8
  | .times r least greatest =>
    if r.takesNothing then r.room
    else
      match greatest with
      | none => r.room * least.max 1 + 72
      | some greatest => r.room * greatest + 40 * (greatest - least) + 32

/-- The room that a regular expression may take. -/
def roomLimit : Nat := 10485760

end Regex

end DocTemplate.Pattern

import DocTemplate.Pattern.Lexing
import DocTemplate.Pattern.Property
import DocTemplate.Pattern.Regex

/-!
# Reading patterns

The tokens of a pattern are put together from left to right. Groups and brackets that are open are
kept on stacks; a flag that is set inside a group is forgotten at its end.

Patterns without the `unicode` flag know ASCII classes only, since other ones could take half a
character.

## Main definitions

* `Assembly` — the pattern as far as it has been read.
* `Assembly.step?` — what a token adds to it.
* `Regex.ofText?` — the regular expression of a pattern text.
-/

namespace DocTemplate.Pattern

/-! ### Flags -/

/-- The flags in force. -/
structure Flags where
  ignoreCase : Bool
  multiLine : Bool
  dotAll : Bool
  unicode : Bool
  crlf : Bool
deriving DecidableEq, Repr

namespace Flags

/-- The flags at the start of a pattern. -/
def initial : Flags := ⟨false, false, false, true, false⟩

/-- The flags after one of them has been set. -/
def set (flags : Flags) : FlagName × Bool → Flags
  | (.ignoreCase, b) => { flags with ignoreCase := b }
  | (.multiLine, b) => { flags with multiLine := b }
  | (.dotAll, b) => { flags with dotAll := b }
  | (.unicode, b) => { flags with unicode := b }
  | (.crlf, b) => { flags with crlf := b }
  | (.swapGreed, _) => flags
  | (.verbose, _) => flags

/-- The flags after a change. -/
def change (flags : Flags) (c : FlagChange) : Flags :=
  c.foldl set flags

/-- A set without regard to case, if case does not count. -/
def fold (flags : Flags) (s : CharSet) : CharSet :=
  if flags.ignoreCase then if flags.unicode then .folded s else .foldedAscii s else s

/-- A set or what is not in it. -/
def negate? (flags : Flags) (negated : Bool) (s : CharSet) : Option CharSet :=
  if negated then if flags.unicode then some (.complement s) else none else some s

/-- The characters of a named class. -/
def classSet? (flags : Flags) (name : ClassName) : Option CharSet :=
  let orAscii (s : CharSet) (cls : AsciiClass) := if flags.unicode then s else cls.charSet
  match name with
  | .digit => some (orAscii (.categories [.decimalNumber]) .digit)
  | .space => some (orAscii CharProperty.whiteSpace.charSet .space)
  | .word => some (orAscii .word .word)
  | .ascii cls => some (flags.fold cls.charSet)
  | .property name => if flags.unicode then (Property.named? name).map flags.fold else none
  | .propertyValue name value =>
    if flags.unicode then (Property.valued? name value).map flags.fold else none

/-- The characters of a named class or the other ones. -/
def namedSet? (flags : Flags) (name : ClassName) (negated : Bool) : Option CharSet :=
  (flags.classSet? name).bind (flags.negate? negated)

/-- The characters of a member of a class in brackets. -/
def memberSet? (flags : Flags) : ClassMember → Option CharSet
  | .range first last =>
    if !flags.unicode && (128 ≤ first.char.toNat || 128 ≤ last.char.toNat) then none
    else some (.range first.char.toNat last.char.toNat)
  | .named name negated => flags.namedSet? name negated

/-- The leaf of a character that stands for itself. -/
def literalLeaf? (flags : Flags) (c : Literal) : Option Leaf :=
  if !flags.unicode && c.isByte && 128 ≤ c.char.toNat then none
  else some (.char (flags.fold (.single c.char)))

/-- The leaf of a dot. -/
def dotLeaf? (flags : Flags) : Option Leaf :=
  if !flags.unicode then none
  else if flags.dotAll then some (.char .all)
  else if flags.crlf then some (.char (.complement (.ofTable "A D")))
  else some (.char (.complement (.ofTable "A")))

/-- The position that a mark asks for. -/
def position (flags : Flags) : Mark → Position
  | .lineStart => if flags.multiLine then .lineStart flags.crlf else .textStart
  | .lineEnd => if flags.multiLine then .lineEnd flags.crlf else .textEnd
  | .textStart => .textStart
  | .textEnd => .textEnd
  | .wordBoundary => .wordBoundary flags.unicode
  | .noWordBoundary => .noWordBoundary flags.unicode
  | .wordStart => .wordStart flags.unicode
  | .wordEnd => .wordEnd flags.unicode
  | .wordStartHalf => .wordStartHalf flags.unicode
  | .wordEndHalf => .wordEndHalf flags.unicode

end Flags

/-! ### Classes in brackets -/

/-- The members of a class since its start or its last operation. -/
structure Members where
  set : CharSet
  count : Nat
  /-- How deep the deepest of them is nested. -/
  depth : Nat
deriving DecidableEq, Repr

namespace Members

/-- No members. -/
def none : Members := ⟨.empty, 0, 0⟩

/-- One more member. -/
def add (m : Members) (s : CharSet) (depth : Nat) : Members :=
  ⟨m.set.union s, m.count + 1, m.depth.max depth⟩

/-- How deep the members are nested; several of them are one level more. -/
def height (m : Members) : Nat :=
  if 2 ≤ m.count then m.depth + 1 else m.depth

end Members

/-- A class in brackets that is open. -/
structure OpenClass where
  negated : Bool
  /-- The operation that waits for its second operand, with the first one and its depth. -/
  pending : Option (SetOperation × CharSet × Nat)
  members : Members
deriving DecidableEq, Repr

namespace OpenClass

/-- The set so far and its depth. Operations are taken from left to right. -/
def settled (flags : Flags) (c : OpenClass) : CharSet × Nat :=
  match c.pending with
  | none => (c.members.set, c.members.height)
  | some (op, first, depth) =>
    (.combined op (flags.fold first) (flags.fold c.members.set), depth.max c.members.height + 1)

/-- The class as the first operand of an operation. -/
def operate (flags : Flags) (c : OpenClass) (op : SetOperation) : OpenClass :=
  { c with pending := some (op, c.settled flags), members := .none }

/-- One more member. -/
def add (c : OpenClass) (s : CharSet) (depth : Nat) : OpenClass :=
  { c with members := c.members.add s depth }

/-- The set of the closed class and its depth. -/
def closed? (flags : Flags) (c : OpenClass) : Option (CharSet × Nat) :=
  let (s, depth) := c.settled flags
  (flags.negate? c.negated (flags.fold s)).map (·, depth + 1)

end OpenClass

/-! ### Sequences and groups -/

/-- A part of a pattern. -/
structure Part where
  regex : Regex Leaf
  /-- How deep its parts are nested. -/
  depth : Nat
deriving DecidableEq, Repr

namespace Part

/-- A leaf. -/
def leaf (l : Leaf) : Part := ⟨.leaf l, 0⟩

/-- The parts one after another, the last one first; a place where flags are set is `none`. -/
def sequence : List (Option Part) → Part
  | [] => ⟨.empty, 0⟩
  | [part] => part.getD ⟨.empty, 0⟩
  | parts =>
    let all := parts.filterMap id
    ⟨all.foldl (fun behind p => .seq p.regex behind) .empty,
      all.foldl (fun depth p => depth.max p.depth) 0 + 1⟩

/-- The parts side by side. -/
def choice (first : Part) (others : List Part) : Part :=
  match others with
  | [] => first
  | others =>
    ⟨others.foldl (fun r p => .alt p.regex r) first.regex,
      others.foldl (fun depth p => depth.max p.depth) first.depth + 1⟩

end Part

/-- The branches of a group, the last one first. -/
structure Branches where
  earlier : List Part
  /-- The parts of the last branch, the last one first; a place where flags are set is `none`. -/
  current : List (Option Part)
deriving DecidableEq, Repr

namespace Branches

/-- One empty branch. -/
def initial : Branches := ⟨[], []⟩

/-- One more part. -/
def add (b : Branches) (part : Option Part) : Branches :=
  { b with current := part :: b.current }

/-- A new branch. -/
def split (b : Branches) : Branches :=
  ⟨.sequence b.current :: b.earlier, []⟩

/-- The branches as one part. -/
def part (b : Branches) : Part :=
  .choice (.sequence b.current) b.earlier

end Branches

/-- The pattern as far as it has been read. -/
structure Assembly where
  flags : Flags
  branches : Branches
  /-- What stands around the open groups, from the inside to the outside. -/
  outer : List (Flags × Branches)
  /-- The open classes, from the inside to the outside. -/
  classes : List OpenClass
  groupNames : List String
deriving DecidableEq, Repr

namespace Assembly

/-- Nothing has been read. -/
def initial : Assembly := ⟨.initial, .initial, [], [], []⟩

/-- One more part. -/
def add (a : Assembly) (part : Part) : Assembly :=
  { a with branches := a.branches.add (some part) }

/-- Repeats the last part; there must be one. -/
def repeated? (a : Assembly) (least : Nat) (greatest : Option Nat) : Option Assembly :=
  match a.branches.current with
  | some part :: before =>
    let part : Part := ⟨.times part.regex least greatest, part.depth + 1⟩
    some { a with branches := { a.branches with current := some part :: before } }
  | _ => none

/-- Opens a group; no two groups have one name. -/
def openGroup? (a : Assembly) (name : Option String) (change : FlagChange) : Option Assembly :=
  if name.any a.groupNames.contains then none
  else
    some
      { a with
        flags := a.flags.change change
        branches := .initial
        outer := (a.flags, a.branches) :: a.outer
        groupNames := name.toList ++ a.groupNames }

/-- Closes the innermost group. -/
def closeGroup? (a : Assembly) : Option Assembly :=
  match a.outer with
  | [] => none
  | (flags, branches) :: outer =>
    let group : Part := { a.branches.part with depth := a.branches.part.depth + 1 }
    some { a with flags := flags, branches := branches.add (some group), outer := outer }

/-- Closes the innermost class. -/
def closeClass? (a : Assembly) : Option Assembly :=
  match a.classes with
  | [] => none
  | c :: outer =>
    (c.closed? a.flags).map fun (s, depth) =>
      match outer with
      | [] => { a with classes := [] }.add ⟨.leaf (.char s), depth⟩
      | parent :: outer => { a with classes := parent.add s depth :: outer }

/-- Changes the innermost class. -/
def inClass? (a : Assembly) (f : OpenClass → OpenClass) : Option Assembly :=
  match a.classes with
  | [] => none
  | c :: outer => some { a with classes := f c :: outer }

/-- What a token adds. -/
def step? (a : Assembly) : PatternToken → Option Assembly
  | .groupStart name change => a.openGroup? name change
  | .groupEnd => a.closeGroup?
  | .bar => some { a with branches := a.branches.split }
  | .setFlags change =>
    some { a with flags := a.flags.change change, branches := a.branches.add none }
  | .repetition least greatest => a.repeated? least greatest
  | .literal c => (a.flags.literalLeaf? c).map fun l => a.add (.leaf l)
  | .dot => a.flags.dotLeaf?.map fun l => a.add (.leaf l)
  | .mark m => some (a.add (.leaf (.position (a.flags.position m))))
  | .charClass name negated =>
    (a.flags.namedSet? name negated).map fun s => a.add (.leaf (.char s))
  | .classStart negated => some { a with classes := ⟨negated, none, .none⟩ :: a.classes }
  | .classEnd => a.closeClass?
  | .classOperation op => a.inClass? (·.operate a.flags op)
  | .classMember m => (a.flags.memberSet? m).bind fun s => a.inClass? (·.add s 0)

/-- The whole pattern; no group and no class may be open. -/
def finished? (a : Assembly) : Option Part :=
  if a.outer.isEmpty && a.classes.isEmpty then some a.branches.part else none

/-- How deep a pattern may be nested. -/
def depthLimit : Nat := 250

end Assembly

/-- The regular expression of a pattern text, if it is well-formed, not nested too deep and not too
large. -/
def Regex.ofText? (text : List Char) : Option (Regex Leaf) := do
  let tokens ← PatternToken.ofText? text
  let assembly ← tokens.foldlM Assembly.step? Assembly.initial
  let part ← assembly.finished?
  if part.depth ≤ Assembly.depthLimit ∧ part.regex.room ≤ Regex.roomLimit then some part.regex
  else none

end DocTemplate.Pattern

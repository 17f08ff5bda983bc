import DocTemplate.Pattern.CharSet

/-!
# Tokens of patterns

What a pattern text consists of. What a token means may depend on the flags in force, so tokens keep
what is written: a caret is a `Mark`, a class name is a `ClassName`.

## Main definitions

* `PatternToken` — the tokens.
* `FlagChange` — the flags that a group or a flag setting turns on and off.
-/

namespace DocTemplate.Pattern

/-- The ways in which a pattern can be taken. -/
inductive FlagName where
  | ignoreCase
  | multiLine
  | dotAll
  | swapGreed
  | unicode
  | crlf
  /-- Blanks and comments do not count. -/
  | verbose
deriving DecidableEq, Repr

/-- The flag of a letter. -/
def FlagName.ofChar? : Char → Option FlagName
  | 'i' => some .ignoreCase
  | 'm' => some .multiLine
  | 's' => some .dotAll
  | 'U' => some .swapGreed
  | 'u' => some .unicode
  | 'R' => some .crlf
  | 'x' => some .verbose
  | _ => none

/-- Flags with what they are set to. -/
abbrev FlagChange := List (FlagName × Bool)

/-- A character that stands for itself. -/
structure Literal where
  char : Char
  /-- Whether it is given by two hexadecimal digits and so may stand for a byte. -/
  isByte : Bool
deriving DecidableEq, Repr

/-- The classes of ASCII characters that are named in brackets. -/
inductive AsciiClass where
  | alnum
  | alpha
  | ascii
  | blank
  | cntrl
  | digit
  | graph
  | lower
  | print
  | punct
  | space
  | upper
  | word
  | xdigit
deriving DecidableEq, Repr

namespace AsciiClass

/-- The classes with their names. -/
def all : List (String × AsciiClass) :=
  [("alnum", .alnum), ("alpha", .alpha), ("ascii", .ascii), ("blank", .blank), ("cntrl", .cntrl),
    ("digit", .digit), ("graph", .graph), ("lower", .lower), ("print", .print), ("punct", .punct),
    ("space", .space), ("upper", .upper), ("word", .word), ("xdigit", .xdigit)]

/-- The characters of a class. -/
def charSet : AsciiClass → CharSet
  | .alnum => .ofTable "30-39 41-5A 61-7A"
  | .alpha => .ofTable "41-5A 61-7A"
  | .ascii => .ofTable "0-7F"
  | .blank => .ofTable "9 20"
  | .cntrl => .ofTable "0-1F 7F"
  | .digit => .ofTable "30-39"
  | .graph => .ofTable "21-7E"
  | .lower => .ofTable "61-7A"
  | .print => .ofTable "20-7E"
  | .punct => .ofTable "21-2F 3A-40 5B-60 7B-7E"
  | .space => .ofTable "9-D 20"
  | .upper => .ofTable "41-5A"
  | .word => .ofTable "30-39 41-5A 5F 61-7A"
  | .xdigit => .ofTable "30-39 41-46 61-66"

end AsciiClass

/-- A class of characters by its name. -/
inductive ClassName where
  | digit
  | space
  | word
  | ascii (cls : AsciiClass)
  | property (name : List Char)
  | propertyValue (name value : List Char)
deriving DecidableEq, Repr

/-- A mark that looks at a position and takes no characters. -/
inductive Mark where
  | lineStart
  | lineEnd
  | textStart
  | textEnd
  | wordBoundary
  | noWordBoundary
  | wordStart
  | wordEnd
  | wordStartHalf
  | wordEndHalf
deriving DecidableEq, Repr

/-- A member of a class in brackets; a single character is a range. -/
inductive ClassMember where
  | range (first last : Literal)
  | named (name : ClassName) (negated : Bool)
deriving DecidableEq, Repr

/-- The tokens of a pattern. -/
inductive PatternToken where
  | groupStart (name : Option String) (flags : FlagChange)
  | groupEnd
  | bar
  | setFlags (flags : FlagChange)
  | repetition (least : Nat) (greatest : Option Nat)
  | literal (c : Literal)
  | dot
  | mark (m : Mark)
  | charClass (name : ClassName) (negated : Bool)
  | classStart (negated : Bool)
  | classEnd
  | classOperation (op : SetOperation)
  | classMember (m : ClassMember)
deriving DecidableEq, Repr

end DocTemplate.Pattern

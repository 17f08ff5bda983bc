import DocTemplate.Function.Builtin
import DocTemplate.Pattern.Matching

/-!
# Patterns kept for later

Reading a pattern takes longer than matching it, so that the patterns that have been read are kept,
the ones that are not well-formed included. When there are too many, one is given up, whichever the
host chooses.

## Main definitions

* `Value.isMatch` — whether a text is described by a pattern, both given as values.
* `PatternStore` — the patterns that are kept.
* `PatternStore.isMatch` — the same question, answered with the patterns of a store.
-/

namespace DocTemplate

/-- Whether a text is described by a pattern. Values that are no texts do not match. -/
def Value.isMatch : Value → Value → Bool
  | .string text, .string pattern => Pattern.isWhole pattern text
  | _, _ => false

/-- Patterns by their texts; a text that is not well-formed has none. -/
structure PatternStore where
  held : List (String × Option Pattern)
deriving DecidableEq, Repr

namespace PatternStore

/-- The greatest number of patterns that are kept. -/
def capacity : Nat := 100

/-- No patterns. -/
def empty : PatternStore := ⟨[]⟩

/-- The number of patterns. -/
def size (s : PatternStore) : Nat :=
  s.held.length

/-- The store without one pattern if it is full; which one is up to `choice`. -/
def withRoom (s : PatternStore) (choice : Nat) : PatternStore :=
  if capacity ≤ s.size then ⟨s.held.eraseIdx (choice % s.size)⟩ else s

/-- The pattern of a text, and the store that holds it. -/
def fetch (s : PatternStore) (choice : Nat) (text : String) : Option Pattern × PatternStore :=
  match s.held.lookup text with
  | some pattern => (pattern, s)
  | none =>
    let pattern := Pattern.wholeText? text
    (pattern, ⟨(text, pattern) :: (s.withRoom choice).held⟩)

/-- Whether a text is described by a pattern, with the store afterwards. Only a pair of texts
changes the store. -/
def isMatch (s : PatternStore) (choice : Nat) (args : List Value) :
    Except CallError Value × PatternStore :=
  match args with
  | [.string text, .string pattern] =>
    let (found, s) := s.fetch choice pattern
    (.ok (.boolean (found.any (·.occursIn text))), s)
  | [_, _] => (.ok (.boolean false), s)
  | args => (.error (.arity (.exactly 2) args.length), s)

end PatternStore

end DocTemplate

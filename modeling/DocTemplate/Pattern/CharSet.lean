import DocTemplate.Text.Folding

/-!
# Sets of characters

A set of characters is kept as it is written: runs of a table, and what set operations and case
folding make of them.

## Main definitions

* `CharSet` — sets of characters.
* `CharSet.contains` — whether a character belongs to a set.
* `CharSet.runCount` — how many ranges a set has at most.
-/

namespace DocTemplate.Pattern

open Text (CodeRun CodeTable.contains)

/-- The operations on two sets. -/
inductive SetOperation where
  | union
  | intersection
  | difference
  | symmetricDifference
deriving DecidableEq, Repr

/-- Whether an element belongs to the result, by whether it belongs to each of the sets. -/
def SetOperation.holds : SetOperation → Bool → Bool → Bool
  | .union, a, b => a || b
  | .intersection, a, b => a && b
  | .difference, a, b => a && !b
  | .symmetricDifference, a, b => a != b

/-- A set of characters. -/
inductive CharSet where
  | table (runs : List CodeRun)
  | combined (op : SetOperation) (s t : CharSet)
  | complement (s : CharSet)
  /-- The characters that differ from one of the set in case alone. -/
  | folded (s : CharSet)
  /-- The same for ASCII letters only. -/
  | foldedAscii (s : CharSet)
deriving DecidableEq, Repr

namespace CharSet

/-- The other case of an ASCII letter. -/
def otherAsciiCase (n : Nat) : Nat :=
  if 65 ≤ n ∧ n ≤ 90 then n + 32
  else if 97 ≤ n ∧ n ≤ 122 then n - 32
  else n

/-- Whether a code point belongs to a set. -/
def containsCode : CharSet → Nat → Bool
  | .table runs, n => CodeTable.contains runs n
  | .combined op s t, n => op.holds (s.containsCode n) (t.containsCode n)
  | .complement s, n => !s.containsCode n
  | .folded s, n => (Text.caseVariants n).any s.containsCode
  | .foldedAscii s, n => s.containsCode n || s.containsCode (otherAsciiCase n)

/-- Whether a character belongs to a set. -/
def contains (s : CharSet) (c : Char) : Bool :=
  s.containsCode c.toNat

/-- No characters. -/
def empty : CharSet := .table []

/-- The code points from `first` to `last`. -/
def range (first last : Nat) : CharSet := .table [⟨first, last, 1⟩]

/-- A single character. -/
def single (c : Char) : CharSet := range c.toNat c.toNat

/-- All characters. -/
def all : CharSet := .complement empty

/-- The characters of two sets. -/
def union (s t : CharSet) : CharSet := .combined .union s t

/-- The characters of a set that are not in another one. -/
def difference (s t : CharSet) : CharSet := .combined .difference s t

/-- The characters of some sets. -/
def unions (sets : List CharSet) : CharSet := sets.foldl union empty

/-- The characters that a table lists. -/
def ofTable (text : String) : CharSet := .table (Text.CodeTable.runs text)

/-- How many ranges the runs of a table are, taken together. -/
def rangeCount : List CodeRun → Nat
  | [] => 0
  | r :: runs => (if r.step = 1 then 1 else (r.last - r.first) / r.step + 1) + rangeCount runs

/-- How many ranges a set has at most, case folding left aside. -/
def runCount : CharSet → Nat
  | .table runs => rangeCount runs
  | .combined _ s t => s.runCount + t.runCount
  | .complement s => s.runCount + 1
  | .folded s => s.runCount
  | .foldedAscii s => s.runCount

/-- Whether all characters of a set are written as ASCII, case folding left aside. -/
def isAscii : CharSet → Bool
  | .table runs => runs.all (·.last < 128)
  | .combined .union s t => s.isAscii && t.isAscii
  | .combined .intersection s t => s.isAscii || t.isAscii
  | .combined .difference s _ => s.isAscii
  | .combined .symmetricDifference s t => s.isAscii && t.isAscii
  | .complement _ => false
  | .folded s => s.isAscii
  | .foldedAscii s => s.isAscii

end CharSet

end DocTemplate.Pattern

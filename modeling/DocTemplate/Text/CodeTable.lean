import DocTemplate.Text.Hexadecimal

/-!
# Tables of code points

Tables over characters are kept as text: entries are separated by blanks, code points are
hexadecimal, `41-5A` is a range and `100~12E` a range in which every second code point counts.

## Main definitions

* `CodeTable.runs` — the ranges of a table.
* `CodeTable.mappings` — the ranges of a table together with what they are mapped to.
-/

namespace DocTemplate.Text

/-- The code points from `first` to `last` in steps of `step`. -/
structure CodeRun where
  first : Nat
  last : Nat
  step : Nat
deriving DecidableEq, Repr

/-- Whether a code point belongs to a run. -/
def CodeRun.contains (r : CodeRun) (n : Nat) : Bool :=
  r.first ≤ n && n ≤ r.last && (n - r.first) % r.step == 0

/-- A run whose first code point is mapped to the given ones. If it is mapped to one code point the
others follow at the same distance. -/
structure CodeMapping where
  run : CodeRun
  target : List Nat
deriving DecidableEq, Repr

namespace CodeTable

/-- The number of an entry. -/
def codePoint (entry : List Char) : Nat :=
  (hexNumber? entry).getD 0

/-- The pieces of a text between the characters of a kind. -/
def pieces (isSeparator : Char → Bool) (text : List Char) : List (List Char) :=
  text.foldr
    (fun c found =>
      if isSeparator c then [] :: found
      else
        match found with
        | [] => [[c]]
        | piece :: more => (c :: piece) :: more)
    [[]]

/-- The entries of a table. -/
def entries (table : String) : List (List Char) :=
  (pieces (fun c => c == ' ' || c == '\n') table.toList).filter (!·.isEmpty)

/-- The run that an entry describes. -/
def runOf (entry : List Char) : CodeRun :=
  match pieces (· == '-') entry, pieces (· == '~') entry with
  | [first, last], _ => ⟨codePoint first, codePoint last, 1⟩
  | _, [first, last] => ⟨codePoint first, codePoint last, 2⟩
  | _, _ => ⟨codePoint entry, codePoint entry, 1⟩

/-- The runs of a table. -/
def runs (table : String) : List CodeRun :=
  (entries table).map runOf

/-- The mappings of a table, written `run=target+target`. -/
def mappings (table : String) : List CodeMapping :=
  (entries table).filterMap fun entry =>
    match pieces (· == '=') entry with
    | [run, targets] => some ⟨runOf run, (pieces (· == '+') targets).map codePoint⟩
    | _ => none

/-- Whether a code point belongs to one of the runs. -/
def contains (table : List CodeRun) (n : Nat) : Bool :=
  table.any (·.contains n)

/-- What a code point is mapped to, if it is in the table. -/
def target? (table : List CodeMapping) (n : Nat) : Option (List Nat) :=
  (table.find? (·.run.contains n)).map fun m =>
    match m.target with
    | [t] => [t + (n - m.run.first)]
    | targets => targets

end CodeTable

end DocTemplate.Text

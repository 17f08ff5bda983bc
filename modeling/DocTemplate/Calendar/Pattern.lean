import DocTemplate.Calendar.Instant

/-!
# Date patterns

A pattern writes a date by runs of letters: `yyyy` the year, `MM` the month, `HH:mm` the time. Text
between single quotes stands for itself, and so does every other character; two quotes in a row are
one quote.

## Main definitions

* `DateField` — the parts of an instant that a pattern can ask for.
* `DatePattern.pieces` — a pattern taken apart.
* `DatePattern.format` — the pattern as a format with `%` directives.
* `DatePattern.render` — an instant written by a pattern.
-/

namespace DocTemplate

/-- The parts of an instant that a pattern can ask for. -/
inductive DateField where
  | year | yearOfCentury
  | month | monthTwoDigits | monthShort | monthLong
  | day | dayTwoDigits
  | hour | hourTwoDigits | clockHour | clockHourTwoDigits
  | minute | minuteTwoDigits
  | second | secondTwoDigits
  | halfDay
deriving DecidableEq, Repr

namespace DateField

/-- The field that a run of a letter asks for. -/
def ofRun? (letter : Char) (length : Nat) : Option DateField :=
  match letter with
  | 'y' => some (if length = 2 then .yearOfCentury else .year)
  | 'M' =>
    some (if length = 1 then .month else if length = 2 then .monthTwoDigits
      else if length = 3 then .monthShort else .monthLong)
  | 'd' => some (if length = 1 then .day else .dayTwoDigits)
  | 'H' => some (if length = 1 then .hour else .hourTwoDigits)
  | 'h' => some (if length = 1 then .clockHour else .clockHourTwoDigits)
  | 'm' => some (if length = 1 then .minute else .minuteTwoDigits)
  | 's' => some (if length = 1 then .second else .secondTwoDigits)
  | 'a' => some .halfDay
  | _ => none

/-- The directive of a field in a format. -/
def directive : DateField → List Char
  | .year => ['%', 'Y']
  | .yearOfCentury => ['%', 'y']
  | .month => ['%', '-', 'm']
  | .monthTwoDigits => ['%', 'm']
  | .monthShort => ['%', 'b']
  | .monthLong => ['%', 'B']
  | .day => ['%', '-', 'd']
  | .dayTwoDigits => ['%', 'd']
  | .hour => ['%', '-', 'H']
  | .hourTwoDigits => ['%', 'H']
  | .clockHour => ['%', '-', 'I']
  | .clockHourTwoDigits => ['%', 'I']
  | .minute => ['%', '-', 'M']
  | .minuteTwoDigits => ['%', 'M']
  | .second => ['%', '-', 'S']
  | .secondTwoDigits => ['%', 'S']
  | .halfDay => ['%', 'p']

/-- The names of the months. -/
def monthNames : List String :=
  ["January", "February", "March", "April", "May", "June", "July", "August", "September",
    "October", "November", "December"]

/-- The name of a month. -/
def monthName (month : Nat) : List Char :=
  (monthNames[month - 1]?.getD "").toList

/-- The hour on the face of a clock. -/
def onClock (hour : Nat) : Nat :=
  if hour % 12 = 0 then 12 else hour % 12

/-- A field of an instant. -/
def render (t : Instant) : DateField → List Char
  | .year => Instant.yearText t.date.year
  | .yearOfCentury => Instant.padded 2 (t.date.year % 100).toNat
  | .month => Instant.padded 1 t.date.month
  | .monthTwoDigits => Instant.padded 2 t.date.month
  | .monthShort => (monthName t.date.month).take 3
  | .monthLong => monthName t.date.month
  | .day => Instant.padded 1 t.date.day
  | .dayTwoDigits => Instant.padded 2 t.date.day
  | .hour => Instant.padded 1 t.hour
  | .hourTwoDigits => Instant.padded 2 t.hour
  | .clockHour => Instant.padded 1 (onClock t.hour)
  | .clockHourTwoDigits => Instant.padded 2 (onClock t.hour)
  | .minute => Instant.padded 1 t.minute
  | .minuteTwoDigits => Instant.padded 2 t.minute
  | .second => Instant.padded 1 t.clockSecond
  | .secondTwoDigits => Instant.padded 2 t.clockSecond
  | .halfDay => if t.hour < 12 then ['A', 'M'] else ['P', 'M']

end DateField

namespace DatePattern

/-- A piece of a pattern. -/
inductive Piece where
  | field (f : DateField)
  | character (c : Char)
deriving DecidableEq, Repr

/-- The pieces of a pattern. -/
def pieces : List Char → List Piece
  | [] => []
  | '\'' :: '\'' :: rest => .character '\'' :: pieces rest
  | '\'' :: rest =>
    (rest.takeWhile (· != '\'')).map .character ++ pieces (rest.dropWhile (· != '\'')).tail
  | c :: rest =>
    let run := rest.takeWhile (· == c)
    let behind := pieces (rest.dropWhile (· == c))
    match DateField.ofRun? c (run.length + 1) with
    | some f => .field f :: behind
    | none => (c :: run).map .character ++ behind
termination_by text => text.length
decreasing_by
  all_goals
    simp only [List.length_cons, List.length_tail]
    try have := (List.dropWhile_suffix (fun x => x != '\'') (l := rest)).length_le
    try have := (List.dropWhile_suffix (fun x => x == c) (l := rest)).length_le
    omega

/-- A piece of a format. The percent sign is written twice. -/
def Piece.format : Piece → List Char
  | .field f => f.directive
  | .character c => if c = '%' then ['%', '%'] else [c]

/-- A piece of a pattern as it shows an instant. -/
def Piece.render (t : Instant) : Piece → List Char
  | .field f => f.render t
  | .character c => [c]

/-- The pattern as a format with `%` directives. -/
def format (pattern : String) : String :=
  String.ofList ((pieces pattern.toList).flatMap Piece.format)

/-- An instant written by a pattern. -/
def render (pattern : String) (t : Instant) : String :=
  String.ofList ((pieces pattern.toList).flatMap (Piece.render t))

end DatePattern

end DocTemplate

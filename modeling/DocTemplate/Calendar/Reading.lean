import DocTemplate.Calendar.Instant
import DocTemplate.Decimal.Digits
import DocTemplate.Text.Blank

/-!
# Reading dates

Dates are read in four forms, which are tried in turn: a full time stamp with an offset from UTC,
a date and time without one, a date with the year in front, and a date with the year behind.

## Main definitions

* `Instant.parse` — the instant that a text describes.
-/

namespace DocTemplate

/-- What can be wrong with a date. -/
inductive DateError where
  /-- A text that describes no date. -/
  | unrecognised (text : String)
  /-- A date beyond the range of years. -/
  | outOfRange
deriving DecidableEq, Repr

/-- The wording of an error. -/
def DateError.message : DateError → String
  | .unrecognised text => "Unrecognised date: " ++ text
  | .outOfRange => "Date out of range"

namespace Instant

/-- A number of at least one digit and at most `width`, and the text behind it. -/
def digitsUpTo (width : Nat) (text : List Char) : Option (Nat × List Char) :=
  let digits := (text.take width).takeWhile Char.isDigit
  if digits.isEmpty then none else some (natOfDigits digits, text.drop digits.length)

/-- A number of exactly `width` digits, and the text behind it. -/
def digitsOf (width : Nat) (text : List Char) : Option (Nat × List Char) :=
  let digits := (text.take width).takeWhile Char.isDigit
  if digits.length = width then some (natOfDigits digits, text.drop width) else none

/-- A character, and the text behind it. -/
def mark (c : Char) : List Char → Option (List Char)
  | d :: rest => if d = c then some rest else none
  | [] => none

/-- The nanoseconds behind a point, if there is one. Digits behind the ninth are dropped. -/
def fractionPart : List Char → Option (Nat × List Char)
  | '.' :: rest =>
    let digits := rest.takeWhile Char.isDigit
    if digits.isEmpty then none
    else
      let nine := digits.take 9
      some (natOfDigits nine * Nat.pow 10 (9 - nine.length), rest.dropWhile Char.isDigit)
  | text => some (0, text)

/-- An offset from UTC in seconds: `Z`, or a sign with hours and minutes. -/
def offsetPart (text : List Char) : Option (Int × List Char) :=
  match text with
  | [] => none
  | c :: rest =>
    if c = 'Z' ∨ c = 'z' then some (0, rest)
    else if c = '+' ∨ c = '-' ∨ c = '−' then do
      let (hours, rest) ← digitsOf 2 rest
      let rest ← mark ':' rest
      let (minutes, rest) ← digitsOf 2 rest
      if hours ≤ 23 ∧ minutes ≤ 59 then
        let seconds : Int := hours * 3600 + minutes * 60
        some (if c = '+' then seconds else -seconds, rest)
      else none
    else none

/-- The instant of a date and a time of day, if both exist. The sixtieth second is a leap second. -/
def ofParts? (date : Date) (hour minute second nanos : Nat) (offset : Int) : Option Instant :=
  if date.isValid ∧ hour < 24 ∧ minute < 60 ∧ second ≤ 60 then
    let leap := second = 60
    let seconds : Int := hour * 3600 + minute * 60 + (if leap then 59 else second)
    some (ofSeconds date.dayNumber (seconds - offset) (if leap then nanos + secondNanos else nanos))
  else none

/-- A full time stamp with fields of fixed width and an offset. -/
def readStamp? (text : List Char) : Option Instant := do
  let (year, text) ← digitsOf 4 text
  let text ← mark '-' text
  let (month, text) ← digitsOf 2 text
  let text ← mark '-' text
  let (day, text) ← digitsOf 2 text
  let text ←
    match text with
    | c :: rest => if c = 'T' ∨ c = 't' ∨ c = ' ' then some rest else none
    | [] => none
  let (hour, text) ← digitsOf 2 text
  let text ← mark ':' text
  let (minute, text) ← digitsOf 2 text
  let text ← mark ':' text
  let (second, text) ← digitsOf 2 text
  let (nanos, text) ← fractionPart text
  let (offset, text) ← offsetPart text
  if text.isEmpty then ofParts? ⟨year, month, day⟩ hour minute second nanos offset else none

/-- A field of at most two digits with blanks in front. -/
def looseField (text : List Char) : Option (Nat × List Char) :=
  digitsUpTo 2 (Text.trimStart text)

/-- A year with blanks in front: at most four digits, or any number of them behind a sign. -/
def looseYear (text : List Char) : Option (Int × List Char) :=
  match Text.trimStart text with
  | '-' :: rest => (digitsUpTo rest.length rest).map fun (n, rest) => (-(n : Int), rest)
  | '+' :: rest => (digitsUpTo rest.length rest).map fun (n, rest) => ((n : Int), rest)
  | text => (digitsUpTo 4 text).map fun (n, rest) => ((n : Int), rest)

/-- Year, month and day with dashes between them. -/
def looseDate (text : List Char) : Option (Date × List Char) := do
  let (year, text) ← looseYear text
  let text ← mark '-' text
  let (month, text) ← looseField text
  let text ← mark '-' text
  let (day, text) ← looseField text
  some (⟨year, month, day⟩, text)

/-- A date and time without an offset. -/
def readDateTime? (text : List Char) : Option Instant := do
  let (date, text) ← looseDate text
  let text ← mark 'T' text
  let (hour, text) ← looseField text
  let text ← mark ':' text
  let (minute, text) ← looseField text
  let text ← mark ':' text
  let (second, text) ← looseField text
  let (nanos, text) ← fractionPart text
  if text.isEmpty then ofParts? date hour minute second nanos 0 else none

/-- A date with the year in front. -/
def readDate? (text : List Char) : Option Instant := do
  let (date, text) ← looseDate text
  if text.isEmpty then ofParts? date 0 0 0 0 0 else none

/-- Month, day and year with slashes between them. -/
def readSlashDate? (text : List Char) : Option Instant := do
  let (month, text) ← looseField text
  let text ← mark '/' text
  let (day, text) ← looseField text
  let text ← mark '/' text
  let (year, text) ← looseYear text
  if text.isEmpty then ofParts? ⟨year, month, day⟩ 0 0 0 0 0 else none

/-- The instant that a text describes. -/
def readTrimmed? (text : List Char) : Option Instant :=
  (readStamp? text).orElse fun _ =>
    (readDateTime? text).orElse fun _ =>
      (readDate? text).orElse fun _ => readSlashDate? text

/-- The instant that a text describes, blanks around it apart. -/
def parse (text : String) : Except DateError Instant :=
  let trimmed := Text.trim text.toList
  match readTrimmed? trimmed with
  | some t => .ok t
  | none => .error (.unrecognised (String.ofList trimmed))

end Instant

end DocTemplate

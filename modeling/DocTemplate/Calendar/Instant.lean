import DocTemplate.Calendar.Date

/-!
# Instants

Points in time in UTC: a day, a second of that day and nanoseconds. The last second of a minute may
be followed by a leap second, whose nanoseconds are counted on from a full second.

## Main definitions

* `Instant` — a point in time.
* `Instant.add?` — the instant some seconds later, if its year is in range.
* `Instant.daysUntil` — the whole days between two instants.
* `Instant.text` — the instant as written in documents.
-/

namespace DocTemplate

/-- A point in time. The nanoseconds of a leap second are one second and more. -/
structure Instant where
  dayNumber : Int
  second : Nat
  nanos : Nat
deriving DecidableEq, Repr

namespace Instant

/-- The seconds of a day. -/
def daySeconds : Nat := 86400

/-- The nanoseconds of a second. -/
def secondNanos : Nat := 1000000000

/-- The date of an instant. -/
def date (t : Instant) : Date :=
  Date.ofDayNumber t.dayNumber

/-- The hour of the day. -/
def hour (t : Instant) : Nat := t.second / 3600

/-- The minute of the hour. -/
def minute (t : Instant) : Nat := t.second / 60 % 60

/-- The second of the minute; a leap second is the sixtieth. -/
def clockSecond (t : Instant) : Nat := t.second % 60 + t.nanos / secondNanos

/-- The nanoseconds behind the second. -/
def fraction (t : Instant) : Nat := t.nanos % secondNanos

/-- Whether an instant lies in a leap second. -/
def isLeap (t : Instant) : Bool := secondNanos ≤ t.nanos

/-- The instant of a day number and a count of seconds that may reach beyond the day. -/
def ofSeconds (dayNumber : Int) (seconds : Int) (nanos : Nat) : Instant :=
  ⟨dayNumber + seconds / daySeconds, (seconds % daySeconds).toNat, nanos⟩

/-- Whether the year of an instant is in range. -/
def inRange (t : Instant) : Bool :=
  Date.minYear ≤ t.date.year && t.date.year ≤ Date.maxYear

/-- The seconds that can be added to an instant. -/
def maxShift : Int := 9223372036854775

/-- The instant some seconds later. A step out of a leap second starts at the second before it when
it goes forward, and at the second behind it when it goes back. -/
def shift (t : Instant) (seconds : Int) : Instant :=
  if t.isLeap ∧ 0 < seconds then ofSeconds t.dayNumber (t.second + seconds) t.fraction
  else if t.isLeap ∧ seconds < 0 then ofSeconds t.dayNumber (t.second + 1 + seconds) t.fraction
  else ofSeconds t.dayNumber (t.second + seconds) t.nanos

/-- The instant some seconds later, unless the step or the resulting year is out of range. -/
def add? (t : Instant) (seconds : Int) : Option Instant :=
  if seconds.natAbs ≤ maxShift.natAbs ∧ (t.shift seconds).inRange then some (t.shift seconds)
  else none

/-- The nanoseconds from one time of day to another. A leap second that lies between them counts. -/
def clockDifference (a b : Instant) : Int :=
  let leap : Int :=
    if a.second < b.second ∧ a.isLeap then 1
    else if b.second < a.second ∧ b.isLeap then -1
    else 0
  ((b.second : Int) - a.second + leap) * secondNanos + ((b.nanos : Int) - a.nanos)

/-- The whole days from one instant to another. -/
def daysUntil (a b : Instant) : Int :=
  Int.tdiv ((b.dayNumber - a.dayNumber) * (daySeconds * secondNanos) + clockDifference a b)
    (daySeconds * secondNanos)

/-- A number with zeros in front up to a width. -/
def padded (width n : Nat) : List Char :=
  let digits := Nat.toDigits 10 n
  List.replicate (width - digits.length) '0' ++ digits

/-- A year of four digits; beyond them it has a sign. -/
def yearText (year : Int) : List Char :=
  if 0 ≤ year ∧ year ≤ 9999 then padded 4 year.toNat
  else (if year < 0 then '-' else '+') :: padded 4 year.natAbs

/-- The nanoseconds behind a point, in groups of three digits as far as they are needed. -/
def fractionText (nanos : Nat) : List Char :=
  if nanos = 0 then []
  else if nanos % 1000000 = 0 then '.' :: padded 3 (nanos / 1000000)
  else if nanos % 1000 = 0 then '.' :: padded 6 (nanos / 1000)
  else '.' :: padded 9 nanos

/-- The instant as written in documents: date and time with `T` between them and `Z` behind. -/
def text (t : Instant) : List Char :=
  let d := t.date
  yearText d.year ++ '-' :: padded 2 d.month ++ '-' :: padded 2 d.day
    ++ 'T' :: padded 2 t.hour ++ ':' :: padded 2 t.minute ++ ':' :: padded 2 t.clockSecond
    ++ fractionText t.fraction ++ ['Z']

end Instant

end DocTemplate

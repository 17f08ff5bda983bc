import DocTemplate.Calendar.Pattern
import DocTemplate.Calendar.Reading
import DocTemplate.Function.Builtin
import DocTemplate.Value.Coercion

/-!
# Functions on dates

Dates are texts. A value that is no date stands for the present.

## Main definitions

* `CalendarFunctions.all` — the functions by name, for a given present.
-/

namespace DocTemplate.CalendarFunctions

/-- The instant that a value describes; the present if it describes none. -/
def instantOf (now : Instant) : Value → Instant
  | .string s =>
    match Instant.parse s with
    | .ok t => t
    | .error _ => now
  | _ => now

/-- The pattern of dates that are written without one. -/
def defaultPattern : String := "yyyy-MM-dd"

/-- A date written by a pattern. -/
def formatDateTime (now : Instant) (date : Value) (pattern : Option Value) : Value :=
  .string (DatePattern.render ((pattern.bind Value.string?).getD defaultPattern)
    (instantOf now date))

/-- A date some units of seconds later. -/
def addUnits (now : Instant) (unit : Nat) (date count : Value) : Except CallError Value :=
  match (instantOf now date).add? (count.toInteger * unit) with
  | some t => .ok (.string (String.ofList t.text))
  | none => .error (.runtime DateError.outOfRange.message)

/-- An integer as a value. -/
def ofInt (n : Int) : Value :=
  .number (Float.ofInt n)

/-- The functions on dates. -/
def all (now : Instant) : List (String × Builtin) :=
  [("formatDateTime", .unaryOrBinary fun date pattern => .ok (formatDateTime now date pattern)),
    ("addDays", .binary (addUnits now 86400)),
    ("addHours", .binary (addUnits now 3600)),
    ("getYear", .total1 fun date => ofInt (instantOf now date).date.year),
    ("getMonth", .total1 fun date => ofInt (instantOf now date).date.month),
    ("getDay", .total1 fun date => ofInt (instantOf now date).date.day),
    ("dateDiff", .total2 fun a b => ofInt ((instantOf now a).daysUntil (instantOf now b))),
    ("utcNow", .nullary (.ok (.string (String.ofList now.text))))]

end DocTemplate.CalendarFunctions

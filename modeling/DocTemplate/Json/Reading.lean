import DocTemplate.Json.Basic
import DocTemplate.Text.Hexadecimal

/-!
# Reading JSON text

The strict grammar of JSON: no comma at the end, no zero in front of a number, no blanks but space,
tab and line ends.

## Main definitions

* `Json.read?` — a whole text.
* `Json.readValue` — the value at the start of a text, with the text behind it.
-/

namespace DocTemplate

namespace Json

/-- The blanks of JSON. -/
def isBlank (c : Char) : Bool :=
  c == ' ' || c == '\t' || c == '\n' || c == '\r'

/-- A text without the blanks at its start. -/
def skipBlanks (text : List Char) : List Char :=
  text.dropWhile isBlank

/-- What a character behind a backslash stands for, `u` apart. -/
def escaped? (c : Char) : Option Nat :=
  if c = '"' ∨ c = '\\' ∨ c = '/' then some c.toNat
  else if c = 'b' then some 8
  else if c = 'f' then some 12
  else if c = 'n' then some 10
  else if c = 'r' then some 13
  else if c = 't' then some 9
  else none

/-- The code units of a string up to its closing quote, and the text behind it. -/
def stringUnits : List Char → Option (List Nat × List Char)
  | [] => none
  | '"' :: rest => some ([], rest)
  | '\\' :: 'u' :: a :: b :: c :: d :: rest => do
    let unit ← Text.hexNumber? [a, b, c, d]
    let (units, rest) ← stringUnits rest
    some (unit :: units, rest)
  | '\\' :: c :: rest => do
    let unit ← escaped? c
    let (units, rest) ← stringUnits rest
    some (unit :: units, rest)
  | c :: rest =>
    if c.toNat < 32 ∨ c = '\\' then none
    else do
      let (units, rest) ← stringUnits rest
      some (c.toNat :: units, rest)

/-- Whether a code unit is the first half of a surrogate pair. -/
def isHighSurrogate (n : Nat) : Bool := 0xD800 ≤ n && n < 0xDC00

/-- Whether a code unit is the second half of a surrogate pair. -/
def isLowSurrogate (n : Nat) : Bool := 0xDC00 ≤ n && n < 0xE000

/-- The characters that code units stand for: surrogates count in pairs only. -/
def characters? : List Nat → Option (List Char)
  | [] => some []
  | high :: low :: rest =>
    if isHighSurrogate high then
      if isLowSurrogate low then
        (characters? rest).map
          (Char.ofNat (0x10000 + 0x400 * (high - 0xD800) + (low - 0xDC00)) :: ·)
      else none
    else if isLowSurrogate high then none
    else (characters? (low :: rest)).map (Char.ofNat high :: ·)
  | [unit] =>
    if isHighSurrogate unit || isLowSurrogate unit then none else some [Char.ofNat unit]

/-- The string behind an opening quote. -/
def readString (text : List Char) : Option (Option String × List Char) :=
  (stringUnits text).map fun (units, rest) => ((characters? units).map String.ofList, rest)

/-- The digits at the start of a text, at least one, and the text behind them. -/
def digits1 (text : List Char) : Option (List Char × List Char) :=
  match text.takeWhile Char.isDigit with
  | [] => none
  | ds => some (ds, text.dropWhile Char.isDigit)

/-- The digits before the point: no zero stands in front of others. -/
def wholeDigits (text : List Char) : Option (List Char × List Char) := do
  let (ds, rest) ← digits1 text
  match ds with
  | '0' :: _ :: _ => none
  | _ => some (ds, rest)

/-- The point and the digits behind it, if there is a point. -/
def fractionDigits : List Char → Option (List Char × List Char)
  | '.' :: rest => digits1 rest
  | rest => some ([], rest)

/-- An exponent behind its letter. -/
def exponentBody : List Char → Option (Int × List Char)
  | '-' :: rest => (digits1 rest).map fun (ds, rest) => (-(natOfDigits ds : Int), rest)
  | '+' :: rest => (digits1 rest).map fun (ds, rest) => ((natOfDigits ds : Int), rest)
  | rest => (digits1 rest).map fun (ds, rest) => ((natOfDigits ds : Int), rest)

/-- The exponent, if there is one. -/
def exponentPart : List Char → Option (Option Int × List Char)
  | 'e' :: rest => (exponentBody rest).map fun (n, rest) => (some n, rest)
  | 'E' :: rest => (exponentBody rest).map fun (n, rest) => (some n, rest)
  | rest => some (none, rest)

/-- The number at the start of a text. -/
def readNumber (text : List Char) : Option (JsonNumber × List Char) := do
  let (negative, text) :=
    match text with
    | '-' :: rest => (true, rest)
    | _ => (false, text)
  let (whole, text) ← wholeDigits text
  let (fraction, text) ← fractionDigits text
  let (exponent, text) ← exponentPart text
  some (⟨negative, whole, fraction, exponent⟩, text)

/-- One of the three words at the start of a text. -/
def readWord : List Char → Option (Json × List Char)
  | 'n' :: 'u' :: 'l' :: 'l' :: rest => some (.null, rest)
  | 't' :: 'r' :: 'u' :: 'e' :: rest => some (.boolean true, rest)
  | 'f' :: 'a' :: 'l' :: 's' :: 'e' :: rest => some (.boolean false, rest)
  | _ => none

mutual
/-- The value at the start of a text and the text behind it. -/
def readValue : (fuel : Nat) → List Char → Option (Json × List Char)
  | 0, _ => none
  | fuel + 1, text =>
    match skipBlanks text with
    | [] => none
    | c :: rest =>
      if c = '"' then (readString rest).map fun (s, rest) => (.string s, rest)
      else if c = '[' then
        match skipBlanks rest with
        | ']' :: rest => some (.array [], rest)
        | rest => (readItems fuel rest).map fun (vs, rest) => (.array vs, rest)
      else if c = '{' then
        match skipBlanks rest with
        | '}' :: rest => some (.object [], rest)
        | rest => (readMembers fuel rest).map fun (ms, rest) => (.object ms, rest)
      else if c = '-' ∨ c.isDigit then
        (readNumber (c :: rest)).map fun (n, rest) => (.number n, rest)
      else readWord (c :: rest)

/-- The items of an array, at least one, up to its closing bracket. -/
def readItems : (fuel : Nat) → List Char → Option (List Json × List Char)
  | 0, _ => none
  | fuel + 1, text => do
    let (v, text) ← readValue fuel text
    match skipBlanks text with
    | ',' :: rest => (readItems fuel rest).map fun (vs, rest) => (v :: vs, rest)
    | ']' :: rest => some ([v], rest)
    | _ => none

/-- The members of an object, at least one, up to its closing brace. -/
def readMembers : (fuel : Nat) → List Char → Option (List (Option String × Json) × List Char)
  | 0, _ => none
  | fuel + 1, text =>
    match skipBlanks text with
    | '"' :: rest => do
      let (key, rest) ← readString rest
      match skipBlanks rest with
      | ':' :: rest => do
        let (v, rest) ← readValue fuel rest
        match skipBlanks rest with
        | ',' :: rest => (readMembers fuel rest).map fun (ms, rest) => ((key, v) :: ms, rest)
        | '}' :: rest => some ([(key, v)], rest)
        | _ => none
      | _ => none
    | _ => none
end

/-- Reads a whole text: one value with nothing but blanks around it. Each step of the grammar but
two takes a character, so twice the length of the text is fuel enough. -/
def read? (text : String) : Option Json :=
  match readValue (2 * text.toList.length + 2) text.toList with
  | some (v, rest) => if (skipBlanks rest).isEmpty then some v else none
  | none => none

end Json

end DocTemplate

import DocTemplate.Json.Reading
import DocTemplate.Proofs.Decimal.Digits
import DocTemplate.Proofs.Text.Splitting
import DocTemplate.Value.Writing
import Mathlib.Data.List.Basic

/-!
# Numbers and strings in JSON text

What is written for a number and for a string, and that it is read back from there.

## Main definitions

* `JsonNumber.WellFormed` — the parts of a number that can be written.
* `JsonNumber.chars` — the text of a number.
* `Json.EndsNumber` — a text does not go on with a number.

## Main statements

* `Json.readNumber_chars` — a number is read back from its text.
* `Json.readString_append` — a string is read back from its text, whatever characters it holds.
-/

namespace DocTemplate

/-- The digits of a number that is written have no zero in front. -/
structure JsonNumber.WellFormed (n : JsonNumber) : Prop where
  whole_ne : n.whole ≠ []
  whole_digits : ∀ c ∈ n.whole, c.isDigit
  whole_zero : n.whole.head? = some '0' → n.whole = ['0']
  fraction_digits : ∀ c ∈ n.fraction, c.isDigit

namespace JsonNumber

/-- The point and the digits behind it, if there are any. -/
def fractionChars (n : JsonNumber) : List Char :=
  if n.fraction = [] then [] else '.' :: n.fraction

/-- The exponent with its sign, if there is one. -/
def exponentChars (n : JsonNumber) : List Char :=
  match n.exponent with
  | none => []
  | some e => 'e' :: (if e < 0 then '-' else '+') :: Nat.toDigits 10 e.natAbs

/-- The text of a number without its sign. -/
def unsignedChars (n : JsonNumber) : List Char :=
  n.whole ++ (n.fractionChars ++ n.exponentChars)

/-- The text of a number. -/
def chars (n : JsonNumber) : List Char :=
  if n.negative then '-' :: n.unsignedChars else n.unsignedChars

end JsonNumber

namespace Json

/-- A text does not go on with a number. -/
def EndsNumber (rest : List Char) : Prop :=
  ∀ c ∈ rest.head?, c.isDigit = false ∧ c ≠ '.' ∧ c ≠ 'e' ∧ c ≠ 'E'

section Numbers

theorem digits1_append {ds rest : List Char} (hne : ds ≠ []) (hds : ∀ c ∈ ds, c.isDigit)
    (hrest : ∀ c ∈ rest.head?, c.isDigit = false) : digits1 (ds ++ rest) = some (ds, rest) := by
  have htake := Text.takeWhile_append_of_head hds hrest
  have hdrop := Text.dropWhile_append_of_head hds hrest
  unfold digits1
  rw [htake, hdrop]
  cases ds with
  | nil => exact absurd rfl hne
  | cons c ds => rfl

variable {n : JsonNumber} (h : n.WellFormed) {rest : List Char} (hrest : EndsNumber rest)

include h in
theorem wholeDigits_append (hrest : ∀ c ∈ rest.head?, c.isDigit = false) :
    wholeDigits (n.whole ++ rest) = some (n.whole, rest) := by
  have hzero := h.whole_zero
  rw [wholeDigits, digits1_append h.whole_ne h.whole_digits hrest, Option.bind_eq_bind,
    Option.bind_some]
  dsimp only
  split
  · simp_all
  · rfl

theorem exponentPart_append (hrest : EndsNumber rest) :
    exponentPart (n.exponentChars ++ rest) = some (n.exponent, rest) := by
  unfold JsonNumber.exponentChars
  cases n.exponent with
  | none =>
    cases rest with
    | nil => rfl
    | cons c rest =>
      obtain ⟨-, -, he, hE⟩ := hrest c rfl
      simp [exponentPart, he, hE]
  | some e =>
    have hdigits : digits1 (Nat.toDigits 10 e.natAbs ++ rest) =
        some (Nat.toDigits 10 e.natAbs, rest) :=
      digits1_append Nat.toDigits_ne_nil
        (fun c hc => Nat.isDigit_of_mem_toDigits (by decide) (by decide) hc)
        fun c hc => (hrest c hc).1
    by_cases he : e < 0
    · have habs : -(e.natAbs : Int) = e := by omega
      have hbody : exponentBody ('-' :: (Nat.toDigits 10 e.natAbs ++ rest)) = some (e, rest) := by
        rw [exponentBody, hdigits, Option.map_some]
        simp only [natOfDigits_toDigits, habs]
      simp [exponentPart, he, hbody]
    · have habs : (e.natAbs : Int) = e := by omega
      have hbody : exponentBody ('+' :: (Nat.toDigits 10 e.natAbs ++ rest)) = some (e, rest) := by
        rw [exponentBody, hdigits, Option.map_some]
        simp only [natOfDigits_toDigits, habs]
      simp [exponentPart, he, hbody]

theorem head?_exponentChars (hrest : EndsNumber rest) :
    ∀ c ∈ (n.exponentChars ++ rest).head?, c.isDigit = false ∧ c ≠ '.' := by
  unfold JsonNumber.exponentChars
  cases n.exponent with
  | none => exact fun c hc => ⟨(hrest c hc).1, (hrest c hc).2.1⟩
  | some e => simp

include h hrest

theorem fractionDigits_append :
    fractionDigits (n.fractionChars ++ (n.exponentChars ++ rest)) =
      some (n.fraction, n.exponentChars ++ rest) := by
  have hhead := head?_exponentChars (n := n) hrest
  unfold JsonNumber.fractionChars
  split
  · rename_i hempty
    rw [List.nil_append, hempty]
    generalize n.exponentChars ++ rest = behind at hhead
    cases behind with
    | nil => rfl
    | cons c behind => simp [fractionDigits, (hhead c rfl).2]
  · rename_i hne
    exact digits1_append hne h.fraction_digits fun c hc => (hhead c hc).1

/-- A number is read back from its text, if the text behind it does not go on with it. -/
theorem readNumber_chars : readNumber (n.chars ++ rest) = some (n, rest) := by
  have hbehind : ∀ c ∈ (n.fractionChars ++ (n.exponentChars ++ rest)).head?, c.isDigit = false := by
    unfold JsonNumber.fractionChars
    split
    · exact fun c hc => (head?_exponentChars hrest c hc).1
    · simp
  have hunsigned : n.unsignedChars ++ rest =
      n.whole ++ (n.fractionChars ++ (n.exponentChars ++ rest)) := by
    simp [JsonNumber.unsignedChars]
  have hwhole := wholeDigits_append h hbehind
  have hfraction := fractionDigits_append h hrest
  have hexponent := exponentPart_append (n := n) hrest
  cases hnegative : n.negative with
  | true =>
    rw [JsonNumber.chars, if_pos hnegative, List.cons_append, hunsigned, readNumber]
    simp [hwhole, hfraction, hexponent, ← hnegative]
  | false =>
    have hsign : ∀ more, n.unsignedChars ++ rest ≠ '-' :: more := by
      have hne := h.whole_ne
      have hdigits := h.whole_digits
      rw [hunsigned]
      cases hw : n.whole with
      | nil => exact absurd hw hne
      | cons d ds =>
        rintro more hmore
        obtain ⟨rfl, -⟩ := List.cons_eq_cons.mp hmore
        simp [hw] at hdigits
    rw [JsonNumber.chars, if_neg (by simp [hnegative]), readNumber]
    · simp [hunsigned, hwhole, hfraction, hexponent, ← hnegative]
    · exact hsign

end Numbers

section Strings

section Units

variable {e : Char} {unit : Nat} (text : List Char)

theorem stringUnits_escape (hu : e ≠ 'u') (h : escaped? e = some unit) :
    stringUnits ('\\' :: e :: text) =
      (stringUnits text).map fun (units, rest) => (unit :: units, rest) := by
  rw [stringUnits, h]
  · cases stringUnits text <;> rfl
  · rintro a b c d rest rfl
    exact fun _ => absurd rfl hu

theorem stringUnits_hex {a b c d : Char} (h : Text.hexNumber? [a, b, c, d] = some unit) :
    stringUnits ('\\' :: 'u' :: a :: b :: c :: d :: text) =
      (stringUnits text).map fun (units, rest) => (unit :: units, rest) := by
  rw [stringUnits, h]
  cases stringUnits text <;> rfl

theorem stringUnits_plain (hquote : e ≠ '"') (hescape : e ≠ '\\') (hcontrol : 32 ≤ e.toNat) :
    stringUnits (e :: text) =
      (stringUnits text).map fun (units, rest) => (e.toNat :: units, rest) := by
  have hplain : ¬(e.toNat < 32 ∨ e = '\\') := by
    simp [hescape, hcontrol]
  rw [stringUnits, if_neg hplain]
  · cases stringUnits text <;> rfl
  all_goals simp_all

end Units

/-- A character is read back from what is written for it inside a string. -/
theorem stringUnits_jsonChar (c : Char) (text : List Char) :
    stringUnits (jsonChar c ++ text) =
      (stringUnits text).map fun (units, rest) => (c.toNat :: units, rest) := by
  have hcontrol : ∀ n < 32, Text.hexNumber? ['0', '0', hexDigit (n / 16), hexDigit (n % 16)] =
      some n := by
    decide
  unfold jsonChar
  split_ifs with hquote hescape hline hreturn htab hback hfeed hspace
  · exact stringUnits_escape text (by decide) (by subst hquote; rfl)
  · exact stringUnits_escape text (by decide) (by subst hescape; rfl)
  · exact stringUnits_escape text (by decide) (by subst hline; rfl)
  · exact stringUnits_escape text (by decide) (by subst hreturn; rfl)
  · exact stringUnits_escape text (by decide) (by subst htab; rfl)
  · exact stringUnits_escape text (by decide) (by rw [hback]; rfl)
  · exact stringUnits_escape text (by decide) (by rw [hfeed]; rfl)
  · exact stringUnits_hex text (hcontrol c.toNat hspace)
  · exact stringUnits_plain text hquote hescape (by omega)

theorem characters?_cons {n : Nat} (hhigh : isHighSurrogate n = false)
    (hlow : isLowSurrogate n = false) (units : List Nat) :
    characters? (n :: units) = (characters? units).map (Char.ofNat n :: ·) := by
  cases units with
  | nil => simp [characters?, hhigh, hlow]
  | cons m units => simp [characters?, hhigh, hlow]

/-- No character is half of a surrogate pair. -/
theorem isSurrogate_eq_false (c : Char) :
    isHighSurrogate c.toNat = false ∧ isLowSurrogate c.toNat = false := by
  have hvalid : c.toNat < 0xD800 ∨ 0xDFFF < c.toNat ∧ c.toNat < 0x110000 := c.valid
  simp only [isHighSurrogate, isLowSurrogate, Bool.and_eq_false_iff, decide_eq_false_iff_not]
  omega

theorem characters?_map_toNat (s : List Char) : characters? (s.map Char.toNat) = some s := by
  induction s with
  | nil => rfl
  | cons c s ih =>
    obtain ⟨hhigh, hlow⟩ := isSurrogate_eq_false c
    rw [List.map_cons, characters?_cons hhigh hlow, ih, Option.map_some, Char.ofNat_toNat]

theorem stringUnits_flatMap_jsonChar (s rest : List Char) :
    stringUnits (s.flatMap jsonChar ++ '"' :: rest) = some (s.map Char.toNat, rest) := by
  induction s with
  | nil => rfl
  | cons c s ih =>
    rw [List.flatMap_cons, List.append_assoc, stringUnits_jsonChar, ih]
    rfl

/-- A string is read back from behind its opening quote. -/
theorem readString_append (s : String) (rest : List Char) :
    readString (s.toList.flatMap jsonChar ++ '"' :: rest) = some (some s, rest) := by
  rw [readString, stringUnits_flatMap_jsonChar]
  simp only [Option.map_some, characters?_map_toNat, String.ofList_toList]

end Strings

end Json

end DocTemplate

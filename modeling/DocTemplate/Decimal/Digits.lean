/-!
# Digits

The natural number that a list of decimal digits spells.

## Main definitions

* `natOfDigits` — the number of a list of digits.
-/

namespace DocTemplate

/-- The number a digit stands for. -/
def digitValue (c : Char) : Nat :=
  c.toNat - '0'.toNat

/-- The number that a list of digits spells. -/
def natOfDigits (digits : List Char) : Nat :=
  digits.foldl (fun n c => 10 * n + digitValue c) 0

end DocTemplate

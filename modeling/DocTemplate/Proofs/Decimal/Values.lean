import DocTemplate.Proofs.Decimal.Digits
import DocTemplate.Proofs.Decimal.Numerals
import DocTemplate.Proofs.Decimal.Shortest
import DocTemplate.Value.Writing

/-!
# The values of written numbers

A numeral stands for a rational. Written out without an exponent an integer or a decimal is a
numeral that stands for the same rational, wherever the point goes.

## Main definitions

* `Numeral.size` — the number that a numeral stands for, without its sign.
* `Numeral.Writes` — a text that spells a numeral of a sign and a size.

## Main statements

* `writes_integerText`, `Decimal.writes_positional` — writing a number out keeps its value.
-/

namespace DocTemplate

namespace Numeral

/-- The number that a numeral stands for, without its sign. -/
def size (n : Numeral) : ℚ :=
  natOfDigits (n.whole ++ n.fraction) * 10 ^ (n.exponent - n.fraction.length)

/-- A text spells a numeral of a sign and a size. -/
def Writes (text : List Char) (negative : Bool) (v : ℚ) : Prop :=
  ∃ n : Numeral, n.Spelled text ∧ n.negative = negative ∧ n.size = v

/-- A text of digits with a point among them and perhaps a sign is a numeral. -/
theorem writes_of_digits {whole fraction text : List Char} (hne : whole ≠ [])
    (hwhole : ∀ c ∈ whole, c.isDigit) (hfraction : FractionSpelled fraction text)
    (negative : Bool) : Writes (if negative then '-' :: (whole ++ text) else whole ++ text) negative
      (natOfDigits (whole ++ fraction) * 10 ^ (-(fraction.length : Int))) := by
  refine ⟨⟨negative, whole, fraction, 0⟩, ?_, rfl, ?_⟩
  · refine .intro hwhole hfraction (by simp [hne]) .none ?_
    rw [List.append_nil]
    cases negative with
    | true => exact .minus
    | false => exact .none
  · rw [size, zero_sub]

/-- A text spells one number only. -/
theorem Writes.unique {text : List Char} {negative negative' : Bool} {v w : ℚ}
    (h : Writes text negative v) (h' : Writes text negative' w) : negative = negative' ∧ v = w := by
  obtain ⟨n, hn, rfl, rfl⟩ := h
  obtain ⟨n', hn', rfl, rfl⟩ := h'
  obtain rfl : n = n' := Option.some.inj ((read?_of_spelled hn).symm.trans (read?_of_spelled hn'))
  exact ⟨rfl, rfl⟩

end Numeral

theorem writes_integerText (n : Int) : Numeral.Writes (integerText n) (n < 0) n.natAbs := by
  have hwrites := Numeral.writes_of_digits (Nat.toDigits_ne_nil (b := 10) (n := n.natAbs))
    (fun c hc => isDigit_of_mem_toDigits hc) .none (n < 0)
  simpa [integerText, natOfDigits_toDigits] using hwrites

namespace Decimal

/-- Written out a decimal falls into digits on either side of a point. -/
theorem exists_digits_positional (d : Decimal) :
    ∃ whole fraction text, whole ≠ [] ∧ (∀ c ∈ whole, c.isDigit) ∧
      Numeral.FractionSpelled fraction text ∧ d.positional false = whole ++ text ∧
      (natOfDigits (whole ++ fraction) * 10 ^ (-(fraction.length : Int)) : ℚ) = d.value := by
  have hdigits : ∀ c ∈ d.digitText, c.isDigit := fun c hc => isDigit_of_mem_toDigits hc
  have hne : d.digitText ≠ [] := Nat.toDigits_ne_nil
  have hvalue : natOfDigits d.digitText = d.digits := natOfDigits_toDigits d.digits
  have hzeros (k : Nat) : ∀ c ∈ List.replicate k '0', c.isDigit := fun c hc =>
    isDigit_of_mem_zeros hc
  simp only [positional, Bool.false_eq_true, if_false]
  split_ifs with hexponent hplaces
  · -- An integer.
    refine ⟨d.digitText ++ List.replicate d.exponent.toNat '0', [], [], by simp [hne],
      List.forall_mem_append.mpr ⟨hdigits, hzeros _⟩, .none, rfl, ?_⟩
    have hpow : (10 : ℚ) ^ d.exponent.toNat = 10 ^ d.exponent := by
      rw [← zpow_natCast, Int.toNat_of_nonneg hexponent]
    rw [List.append_nil, natOfDigits_append_zeros, hvalue, value, ← hpow]
    simp
  · -- The point stands among the digits.
    have hpow : -((-d.exponent).toNat : Int) = d.exponent := by omega
    generalize (-d.exponent).toNat = places at hplaces hpow
    have hlength : (d.digitText.drop (d.digitText.length - places)).length = places := by
      rw [List.length_drop]
      omega
    refine ⟨d.digitText.take (d.digitText.length - places),
      d.digitText.drop (d.digitText.length - places), _, ?_,
      fun c hc => hdigits c (List.mem_of_mem_take hc),
      .point fun c hc => hdigits c (List.mem_of_mem_drop hc), rfl, ?_⟩
    · rw [Ne, List.take_eq_nil_iff]
      simp [hne]
      omega
    · rw [List.take_append_drop, hlength, hpow, hvalue, value]
  · -- The digits stand behind the point.
    have hpow : -((-d.exponent).toNat : Int) = d.exponent := by omega
    generalize (-d.exponent).toNat = places at hplaces hpow
    have hlength : (List.replicate (places - d.digitText.length) '0' ++ d.digitText).length =
        places := by
      rw [List.length_append, List.length_replicate]
      omega
    refine ⟨['0'], List.replicate (places - d.digitText.length) '0' ++ d.digitText, _,
      by simp, by simp, .point (List.forall_mem_append.mpr ⟨hzeros _, hdigits⟩), rfl, ?_⟩
    have hzero : natOfDigits (['0'] ++ (List.replicate (places - d.digitText.length) '0' ++
        d.digitText)) = d.digits := by
      rw [← List.append_assoc, ← List.replicate_one, List.replicate_append_replicate,
        natOfDigits_zeros_append, hvalue]
    rw [hzero, hlength, hpow, value]

/-- Writing a decimal out keeps its value. -/
theorem writes_positional (d : Decimal) (negative : Bool) :
    Numeral.Writes (if negative then '-' :: d.positional false else d.positional false)
      negative d.value := by
  obtain ⟨whole, fraction, text, hne, hwhole, hfraction, htext, hvalue⟩ :=
    exists_digits_positional d
  rw [htext, ← hvalue]
  exact Numeral.writes_of_digits hne hwhole hfraction negative

end Decimal

end DocTemplate

import DocTemplate.Proofs.Decimal.Shortest
import DocTemplate.Proofs.Json.Scalars
import DocTemplate.Proofs.Number.Integers

/-!
# The texts of doubles

The text of a finite double is a number of JSON, in each of its forms: a plain integer, digits with
a point among them or in front of them, and digits with an exponent. A plain integer is read as the
double that it was.

## Main definitions

* `JsonNumber.ofInt` — an integer as a number of JSON.

## Main statements

* `Layout.exists_chars_eq_render` — a laid out double is a number, in every layout.
* `JsonNumber.nearby?_ofInt` — an integer that fits the mantissa of a double is read as this double.
* `exists_chars_eq_jsonNumber` — the JSON text of a finite double is a number.
-/

namespace DocTemplate

/-- An integer as a number of JSON. -/
def JsonNumber.ofInt (n : Int) : JsonNumber where
  negative := n < 0
  whole := Nat.toDigits 10 n.natAbs
  fraction := []
  exponent := none

theorem JsonNumber.wellFormed_ofInt (n : Int) : (ofInt n).WellFormed where
  whole_ne := Nat.toDigits_ne_nil
  whole_digits := fun _ hc => isDigit_of_mem_toDigits hc
  whole_zero := by
    intro hzero
    obtain hn | hn := Nat.eq_zero_or_pos n.natAbs
    · exact congrArg (Nat.toDigits 10) hn
    · exact absurd hzero (head?_toDigits_ne_zero hn)
  fraction_digits := List.forall_mem_nil _

theorem JsonNumber.chars_ofInt (n : Int) : (ofInt n).chars = integerText n := by
  by_cases hn : n < 0
  · simp [chars, unsignedChars, fractionChars, exponentChars, ofInt, integerText, hn]
  · simp [chars, unsignedChars, fractionChars, exponentChars, ofInt, integerText, hn]

theorem JsonNumber.wellFormed_cons {c : Char} {whole fraction : List Char} (hc : c.isDigit)
    (hzero : c ≠ '0') (hwhole : ∀ d ∈ whole, d.isDigit) (hfraction : ∀ d ∈ fraction, d.isDigit)
    (negative : Bool) (exponent : Option Int) :
    WellFormed ⟨negative, c :: whole, fraction, exponent⟩ where
  whole_ne := List.cons_ne_nil c whole
  whole_digits := List.forall_mem_cons.mpr ⟨hc, hwhole⟩
  whole_zero := fun h => absurd (Option.some.inj h) hzero
  fraction_digits := hfraction

theorem JsonNumber.wellFormed_zero {fraction : List Char} (hfraction : ∀ d ∈ fraction, d.isDigit)
    (negative : Bool) (exponent : Option Int) :
    WellFormed ⟨negative, ['0'], fraction, exponent⟩ where
  whole_ne := List.cons_ne_nil '0' []
  whole_digits := by simp
  whole_zero := fun _ => rfl
  fraction_digits := hfraction

namespace Decimal

variable {d : Decimal} (h : 0 < d.digits) (negative : Bool)

include h

/-- The digits of a decimal that is not zero start with a digit that is not zero. -/
theorem exists_cons_digitText :
    ∃ c more, d.digitText = c :: more ∧ c.isDigit ∧ c ≠ '0' ∧ ∀ x ∈ more, x.isDigit := by
  have hhead : d.digitText.head? ≠ some '0' := head?_toDigits_ne_zero h
  have hdigits : ∀ x ∈ d.digitText, x.isDigit := fun x hx => isDigit_of_mem_toDigits hx
  cases htext : d.digitText with
  | nil => exact absurd htext Nat.toDigits_ne_nil
  | cons c more =>
    rw [htext] at hhead hdigits
    obtain ⟨hc, hmore⟩ := List.forall_mem_cons.mp hdigits
    exact ⟨c, more, rfl, hc, by simpa using hhead, hmore⟩

theorem exists_unsignedChars_eq_positional (pointZero : Bool) :
    ∃ n : JsonNumber, n.WellFormed ∧ n.negative = negative ∧
      n.unsignedChars = d.positional pointZero := by
  obtain ⟨c, more, htext, hc, hzero, hmore⟩ := exists_cons_digitText h
  unfold positional
  rw [htext]
  dsimp only
  split_ifs with hexponent hpoint hplaces
  · -- An integer with a zero behind the point.
    refine ⟨⟨negative, c :: (more ++ List.replicate d.exponent.toNat '0'), ['0'], none⟩,
      JsonNumber.wellFormed_cons hc hzero ?_ (by simp) _ _, rfl, ?_⟩
    · exact List.forall_mem_append.mpr ⟨hmore, fun x hx => isDigit_of_mem_zeros hx⟩
    · simp [JsonNumber.unsignedChars, JsonNumber.fractionChars, JsonNumber.exponentChars]
  · refine ⟨⟨negative, c :: (more ++ List.replicate d.exponent.toNat '0'), [], none⟩,
      JsonNumber.wellFormed_cons hc hzero ?_ (by simp) _ _, rfl, ?_⟩
    · exact List.forall_mem_append.mpr ⟨hmore, fun x hx => isDigit_of_mem_zeros hx⟩
    · simp [JsonNumber.unsignedChars, JsonNumber.fractionChars, JsonNumber.exponentChars]
  · -- The point stands among the digits.
    obtain ⟨k, hk⟩ : ∃ k, (c :: more).length - (-d.exponent).toNat = k + 1 :=
      Nat.exists_eq_add_one_of_ne_zero (by omega)
    have hfraction : more.drop k ≠ [] := by
      rw [Ne, List.drop_eq_nil_iff]
      simp at hk
      omega
    refine ⟨⟨negative, c :: more.take k, more.drop k, none⟩,
      JsonNumber.wellFormed_cons hc hzero (fun x hx => hmore x (List.mem_of_mem_take hx))
        (fun x hx => hmore x (List.mem_of_mem_drop hx)) _ _, rfl, ?_⟩
    rw [hk]
    simp [JsonNumber.unsignedChars, JsonNumber.fractionChars, JsonNumber.exponentChars, hfraction]
  · -- The digits stand behind the point.
    refine ⟨⟨negative, ['0'],
      List.replicate ((-d.exponent).toNat - (c :: more).length) '0' ++ c :: more, none⟩,
      JsonNumber.wellFormed_zero ?_ _ _, rfl, ?_⟩
    · exact List.forall_mem_append.mpr
        ⟨fun x hx => isDigit_of_mem_zeros hx, List.forall_mem_cons.mpr ⟨hc, hmore⟩⟩
    · simp [JsonNumber.unsignedChars, JsonNumber.fractionChars, JsonNumber.exponentChars]

theorem exists_unsignedChars_eq_scientific :
    ∃ n : JsonNumber, n.WellFormed ∧ n.negative = negative ∧ n.unsignedChars = d.scientific := by
  obtain ⟨c, more, htext, hc, hzero, hmore⟩ := exists_cons_digitText h
  refine ⟨⟨negative, [c], more, some d.leadingExponent⟩,
    JsonNumber.wellFormed_cons hc hzero (by simp) hmore _ _, rfl, ?_⟩
  unfold scientific
  rw [htext]
  cases more with
  | nil => simp [JsonNumber.unsignedChars, JsonNumber.fractionChars, JsonNumber.exponentChars]
  | cons c' more =>
    simp [JsonNumber.unsignedChars, JsonNumber.fractionChars, JsonNumber.exponentChars]

end Decimal

/-- The text of a double in a layout is a number, if the double is not zero. -/
theorem Layout.exists_chars_eq_render (l : Layout) {f : BinaryFraction} (h : 0 < f.mantissa)
    (hcanonical : f.IsCanonical) : ∃ n : JsonNumber, n.WellFormed ∧ n.chars = l.render f := by
  have hdigits := Decimal.digits_shortest_pos h hcanonical l.tie
  obtain ⟨n, hn, hnegative, hchars⟩ : ∃ n : JsonNumber, n.WellFormed ∧ n.negative = f.negative ∧
      n.unsignedChars = if l.isPlain (Decimal.shortest f l.tie).leadingExponent then
        (Decimal.shortest f l.tie).positional l.pointZero
      else (Decimal.shortest f l.tie).scientific := by
    split
    · exact Decimal.exists_unsignedChars_eq_positional hdigits f.negative l.pointZero
    · exact Decimal.exists_unsignedChars_eq_scientific hdigits f.negative
  refine ⟨n, hn, ?_⟩
  rw [JsonNumber.chars, hnegative, hchars, render]

namespace JsonNumber

theorem le_foldl_digits (n : Nat) (ds : List Char) :
    n ≤ ds.foldl (fun n c => 10 * n + digitValue c) n := by
  induction ds generalizing n with
  | nil => exact Nat.le_refl n
  | cons c ds ih =>
    have hle := ih (10 * n + digitValue c)
    rw [List.foldl_cons]
    omega

/-- Digits that fit 64 bits are taken to the last. -/
theorem takeWhole_eq (n : Nat) (ds : List Char)
    (h : ds.foldl (fun n c => 10 * n + digitValue c) n ≤ maxWord) :
    takeWhole n ds = (ds.foldl (fun n c => 10 * n + digitValue c) n, 0) := by
  induction ds generalizing n with
  | nil => rfl
  | cons c ds ih =>
    have hnext := le_foldl_digits (10 * n + digitValue c) ds
    rw [List.foldl_cons] at h ⊢
    rw [takeWhole, if_pos (by omega), ih _ h]

theorem scaledWord_ofInt {n : Int} (h : n.natAbs ≤ maxWord) :
    (ofInt n).scaledWord = (n.natAbs, 0) := by
  have hvalue : (Nat.toDigits 10 n.natAbs).foldl (fun n c => 10 * n + digitValue c) 0 = n.natAbs :=
    natOfDigits_toDigits n.natAbs
  have hwhole := takeWhole_eq 0 (Nat.toDigits 10 n.natAbs) (by omega)
  rw [hvalue] at hwhole
  simp [scaledWord, ofInt, hwhole, takeFraction]

theorem scale_zero {x : Float} (hone : x * powerOfTen 0 = x) (hinf : x.isInf = false) :
    scale x 0 = some x := by
  rw [scale, if_pos (Int.le_refl 0), if_neg (by decide), Int.toNat_zero, hone]
  simp [hinf]

/-- An integer that fits the mantissa of a double is read as this double. -/
theorem nearby?_ofInt {n : Int} (hn : 0 < n.natAbs) (hlt : n.natAbs < 2 ^ 53) :
    (ofInt n).nearby? =
      some (if n < 0 then -Float.ofNat n.natAbs else Float.ofNat n.natAbs) := by
  have hpower : powerOfTen 0 = Float.ofBits 0x3FF0000000000000 := by decide +kernel
  have hfits : n.natAbs ≤ maxWord := by
    rw [maxWord]
    omega
  have hone : Float.ofNat n.natAbs * powerOfTen 0 = Float.ofNat n.natAbs := by
    rw [hpower, BinaryFraction.ofNat_mul_one hn hlt]
  have hscale := scale_zero hone (BinaryFraction.isInf_ofNat hn hlt)
  rw [nearby?, scaledWord_ofInt hfits]
  simp [hscale, ofInt]

theorem nearby?_ofInt_zero : (ofInt 0).nearby? = some 0 := by
  have hone : (0 : Float) * powerOfTen 0 = 0 := by decide +kernel
  have hscale := scale_zero hone (by decide +kernel)
  rw [nearby?, scaledWord_ofInt (by decide)]
  exact congrArg (Option.map _) hscale

end JsonNumber

/-- The JSON text of a finite double is a number. -/
theorem exists_chars_eq_jsonNumber {x : Float} {f : BinaryFraction}
    (h : BinaryFraction.ofFloat? x = some f) :
    ∃ n : JsonNumber, n.WellFormed ∧ n.chars = jsonNumber x := by
  rw [jsonNumber, h]
  dsimp only
  unfold numberText
  split
  · exact ⟨_, JsonNumber.wellFormed_ofInt _, JsonNumber.chars_ofInt f.truncate⟩
  · rename_i hlarge
    have hmantissa : 0 < f.mantissa := by
      rw [Nat.pos_iff_ne_zero]
      intro hzero
      obtain ⟨hintegral, htruncate⟩ := BinaryFraction.of_mantissa_eq_zero hzero
      simp [hintegral, htruncate] at hlarge
    exact jsonLayout.exists_chars_eq_render hmantissa (BinaryFraction.isCanonical_of_ofFloat? h)

end DocTemplate

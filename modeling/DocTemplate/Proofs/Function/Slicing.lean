import DocTemplate.Function.TextFunctions
import DocTemplate.Proofs.Number.Packing
import DocTemplate.Proofs.Text.Places

/-!
# Slices of texts

A slice starts at a place of a text and has as many characters as asked for and there are. Start and
count come from values of any kind. All arithmetic on them stays within words of 64 bits, and slices
that stand next to each other put together give the slice of both.

## Main definitions

* `TextFunctions.available` — the number of characters of a slice.
* `TextFunctions.substringInWords?` — a slice computed in words of 64 bits, if nothing overflows.

## Main statements

* `TextFunctions.substringInWords?_eq` — nothing overflows.
* `TextFunctions.substring_slices` — what a slice is, and how slices are put together.
-/

namespace DocTemplate.TextFunctions

open Text (StandsAt)

variable {s : String} {start : Value} {length : Option Value}

/-! ### Starts and counts -/

theorem toInteger_of_finite {v : Value} {f : BinaryFraction}
    (h : BinaryFraction.ofFloat? v.toNumber = some f) :
    v.toInteger = max (-2 ^ 63) (min f.truncate (2 ^ 63 - 1)) := by
  simp only [Value.toInteger, Number.toInt64, h]
  rfl

theorem toInteger_of_not_finite {v : Value} (h : BinaryFraction.ofFloat? v.toNumber = none) :
    v.toInteger = 0 := by
  simp only [Value.toInteger, Number.toInt64, h]

theorem toInteger_bounds (v : Value) : -2 ^ 63 ≤ v.toInteger ∧ v.toInteger < 2 ^ 63 := by
  cases h : BinaryFraction.ofFloat? v.toNumber with
  | none => simp [toInteger_of_not_finite h]
  | some f =>
    rw [toInteger_of_finite h]
    omega

/-- The number of characters of a slice that starts inside a text: as many as asked for, not less
than none and not more than there are. -/
def available (s : String) (start : Value) : Option Value → Int
  | none => s.toList.length - start.toInteger
  | some count => min (max count.toInteger 0) (s.toList.length - start.toInteger)

theorem available_bounds (h : start.toInteger < s.toList.length) (length : Option Value) :
    0 ≤ available s start length ∧
      available s start length ≤ s.toList.length - start.toInteger := by
  cases length <;> simp only [available] <;> omega

theorem substring_outside (h : start.toInteger < 0 ∨ s.toList.length ≤ start.toInteger)
    (length : Option Value) : substring (.string s) start length = .string s := by
  simp only [substring, if_pos h]

section Inside

variable (hlow : 0 ≤ start.toInteger) (hhigh : start.toInteger < s.toList.length)

include hlow hhigh

theorem substring_inside (length : Option Value) :
    substring (.string s) start length = .string (String.ofList
      ((s.toList.drop start.toInteger.toNat).take (available s start length).toNat)) := by
  have hinside : ¬(start.toInteger < 0 ∨ s.toList.length ≤ start.toInteger) := by omega
  simp only [substring, if_neg hinside]
  cases length with
  | none => rfl
  | some count =>
    have hcount : max 0 (min count.toInteger (s.toList.length - start.toInteger)) =
        available s start (some count) := by
      rw [available]
      omega
    simp only [hcount]

/-- Without a count a slice has all characters up to the end. -/
theorem substring_to_end : substring (.string s) start none =
    .string (String.ofList (s.toList.drop start.toInteger.toNat)) := by
  have hall : (available s start none).toNat =
      (s.toList.drop start.toInteger.toNat).length := by
    rw [available, List.length_drop]
    omega
  rw [substring_inside hlow hhigh, hall, List.take_length]

/-- A slice that starts inside a text stands where it starts and has as many characters as it is to
have. -/
theorem exists_substring_inside (length : Option Value) :
    ∃ piece, substring (.string s) start length = .string piece ∧
      StandsAt piece.toList s.toList start.toInteger.toNat ∧
      (piece.toList.length : Int) = available s start length := by
  obtain ⟨hnonneg, hle⟩ := available_bounds hhigh length
  refine ⟨_, substring_inside hlow hhigh length, ?_, ?_⟩
  · rw [String.toList_ofList]
    exact Text.standsAt_take_drop (by omega) _
  · rw [String.toList_ofList, List.length_take, List.length_drop]
    omega

end Inside

/-! ### Slices next to each other -/

/-- The slice of so many characters and the one behind it are the slice up to the end. -/
theorem concat_substring {first count next : Value} (hfirst : 0 ≤ first.toInteger)
    (hcount : 0 ≤ count.toInteger) (hnext : next.toInteger = first.toInteger + count.toInteger)
    (hlt : next.toInteger < s.toList.length) :
    concat [substring (.string s) first (some count), substring (.string s) next none] =
      substring (.string s) first none := by
  have hfirstlt : first.toInteger < s.toList.length := by omega
  have hkept : (available s first (some count)).toNat = count.toInteger.toNat := by
    rw [available]
    omega
  have hsum : next.toInteger.toNat = first.toInteger.toNat + count.toInteger.toNat := by omega
  rw [substring_inside hfirst hfirstlt, substring_to_end hfirst hfirstlt,
    substring_to_end (by omega) hlt, hkept, hsum, ← List.drop_drop]
  simp [concat, Value.display]

/-! ### Arithmetic in words -/

/-- An integer, if it is a signed word of 64 bits. -/
def word? (n : Int) : Option Int :=
  if -2 ^ 63 ≤ n ∧ n < 2 ^ 63 then some n else none

/-- A word kept between two bounds, if they do not cross. -/
def between? (low high n : Int) : Option Int :=
  if low ≤ high then some (max low (min n high)) else none

/-- A word as a number of characters, if it is not negative. -/
def count? (n : Int) : Option Nat :=
  if 0 ≤ n then some n.toNat else none

/-- A slice computed in words of 64 bits. There is none if a difference is no word, if the bounds
for the count cross, or if what is passed over or taken is negative. -/
def substringInWords? (s : String) (start : Value) (length : Option Value) : Option Value := do
  let count ← word? (s.toList.length : Int)
  let first ← word? start.toInteger
  if first < 0 ∨ count ≤ first then
    return .string s
  else
    let available ← word? (count - first)
    let taken ←
      match length with
      | some n => word? n.toInteger >>= between? 0 available
      | none => some available
    let skipped ← count? first
    let kept ← count? taken
    return .string (String.ofList ((s.toList.drop skipped).take kept))

theorem word?_eq_some {n : Int} (hlow : -2 ^ 63 ≤ n) (hhigh : n < 2 ^ 63) : word? n = some n :=
  if_pos ⟨hlow, hhigh⟩

theorem word?_toInteger (v : Value) : word? v.toInteger = some v.toInteger :=
  word?_eq_some (toInteger_bounds v).1 (toInteger_bounds v).2

/-- Nothing overflows, if the characters of the text can be counted in a word. -/
theorem substringInWords?_eq (hs : s.toList.length < 2 ^ 63) (start : Value)
    (length : Option Value) :
    substringInWords? s start length = some (substring (.string s) start length) := by
  have hlength : word? (s.toList.length : Int) = some (s.toList.length : Int) :=
    word?_eq_some (by omega) (by omega)
  simp only [substringInWords?, hlength, word?_toInteger, Option.bind_eq_bind, Option.bind_some]
  split_ifs with houtside
  · rw [substring_outside houtside]
    rfl
  · obtain ⟨hlow, hhigh⟩ : 0 ≤ start.toInteger ∧ start.toInteger < s.toList.length := by omega
    have hrest : word? (s.toList.length - start.toInteger) =
        some (s.toList.length - start.toInteger) := word?_eq_some (by omega) (by omega)
    have hskipped : count? start.toInteger = some start.toInteger.toNat := if_pos hlow
    rw [hrest, substring_inside hlow hhigh]
    cases length with
    | none =>
      have hkept : count? (s.toList.length - start.toInteger) =
          some (s.toList.length - start.toInteger).toNat := if_pos (by omega)
      simp [hskipped, hkept, available]
    | some n =>
      have hbetween : between? 0 (s.toList.length - start.toInteger) n.toInteger =
          some (available s start (some n)) := by
        rw [between?, if_pos (by omega), available, Option.some.injEq]
        omega
      have hkept : count? (available s start (some n)) = some (available s start (some n)).toNat :=
        if_pos (available_bounds hhigh (some n)).1
      simp [hskipped, hkept, hbetween]

/-- Start and count are the integer parts of values as numbers, kept within 64 bits and 0 for those
that are not finite. A slice that starts outside the text is the whole text. Any other stands where
it starts and has the characters that are asked for and there are, and no arithmetic on the way
overflows. A slice and the one behind it are the slice up to the end, or the whole text if the first
one starts with it. -/
theorem substring_slices (s : String) :
    (∀ v : Value, (v.toNumber.isFinite = false → v.toInteger = 0) ∧
      ∀ f, BinaryFraction.ofFloat? v.toNumber = some f →
        v.toInteger = max (-2 ^ 63) (min f.truncate (2 ^ 63 - 1))) ∧
    (∀ (start : Value) (length : Option Value),
      start.toInteger < 0 ∨ s.toList.length ≤ start.toInteger →
        substring (.string s) start length = .string s) ∧
    (∀ (start : Value) (length : Option Value),
      0 ≤ start.toInteger → start.toInteger < s.toList.length →
        ∃ piece, substring (.string s) start length = .string piece ∧
          StandsAt piece.toList s.toList start.toInteger.toNat ∧
          (piece.toList.length : Int) =
            match length with
            | some count => min (max count.toInteger 0) (s.toList.length - start.toInteger)
            | none => s.toList.length - start.toInteger) ∧
    (s.toList.length < 2 ^ 63 → ∀ (start : Value) (length : Option Value),
      substringInWords? s start length = some (substring (.string s) start length)) ∧
    (∀ zero k : Value, zero.toInteger = 0 → 0 ≤ k.toInteger → k.toInteger < s.toList.length →
      concat [substring (.string s) zero (some k), substring (.string s) k none] = .string s) ∧
    ∀ k m l : Value, 0 ≤ k.toInteger → 0 ≤ m.toInteger →
      l.toInteger = k.toInteger + m.toInteger → l.toInteger < s.toList.length →
        concat [substring (.string s) k (some m), substring (.string s) l none] =
          substring (.string s) k none := by
  refine ⟨fun v => ⟨fun h => ?_, fun f h => toInteger_of_finite h⟩,
    fun start length h => substring_outside h length, fun start length hlow hhigh => ?_,
    fun hs start length => substringInWords?_eq hs start length,
    fun zero k hzero hlow hhigh => ?_, fun k m l hk hm hl hlt => concat_substring hk hm hl hlt⟩
  · rw [Double.isFinite, BinaryFraction.isFinite_eq, Option.isSome_eq_false_iff,
      Option.isNone_iff_eq_none] at h
    exact toInteger_of_not_finite h
  · obtain ⟨piece, hpiece, hstands, hcount⟩ := exists_substring_inside hlow hhigh length
    refine ⟨piece, hpiece, hstands, hcount.trans ?_⟩
    cases length <;> rfl
  · rw [concat_substring (by omega) hlow (by omega) hhigh, substring_to_end (by omega) (by omega),
      hzero, Int.toNat_zero, List.drop_zero, String.ofList_toList]

/-- Slices with characters of two bytes: a start below zero, a start that is no integer with a count
that is kept within 64 bits, and neighbours whose starts are null and a truth value. -/
theorem substring_slices_umlauts :
    substring (.string "grüße") (.number (-1)) none = .string "grüße" ∧
      (∃ piece, substring (.string "grüße") (.string " 1.9") (some (.string "1e30")) =
        .string piece ∧ StandsAt piece.toList "grüße".toList 1 ∧ piece.toList.length = 4) ∧
      substringInWords? "grüße" (.string " 1.9") (some (.string "1e30")) =
        some (substring (.string "grüße") (.string " 1.9") (some (.string "1e30"))) ∧
      concat [substring (.string "grüße") .null (some (.number 2)),
        substring (.string "grüße") (.number 2) none] = .string "grüße" ∧
      concat [substring (.string "grüße") (.boolean true) (some (.number 2)),
        substring (.string "grüße") (.number 3) none] =
          substring (.string "grüße") (.boolean true) none := by
  obtain ⟨-, houtside, hinside, hwords, hwhole, hnext⟩ := substring_slices "grüße"
  have hstart : (Value.string " 1.9").toInteger = 1 := by decide +kernel
  have hcount : (Value.string "1e30").toInteger = 2 ^ 63 - 1 := by decide +kernel
  obtain ⟨piece, hpiece, hstands, hlength⟩ := hinside (.string " 1.9") (some (.string "1e30"))
    (by rw [hstart]; decide) (by rw [hstart]; decide)
  refine ⟨houtside _ _ (.inl (by decide +kernel)), ⟨piece, hpiece, ?_, ?_⟩,
    hwords (by decide) _ _, hwhole _ _ (by decide +kernel) (by decide +kernel) (by decide +kernel),
    hnext _ _ _ (by decide +kernel) (by decide +kernel) (by decide +kernel) (by decide +kernel)⟩
  · rwa [hstart] at hstands
  · have hcharacters : "grüße".toList.length = 5 := rfl
    simp only [hstart, hcount, hcharacters] at hlength
    omega

end DocTemplate.TextFunctions

import DocTemplate.Pattern.Matching

/-!
# What regular expressions match

Which pieces of a text a regular expression matches is defined piece by piece, and matching with
sets of places finds just these pieces. Repetitions are cut off after as many times as the text has
places; this loses nothing, since a repetition that goes on for longer takes nothing at some times.

## Main definitions

* `Regex.Matches` — the pieces of a text that a regular expression matches.
* `Takes` — a move of sets of places that takes the steps of a relation.

## Main statements

* `Regex.takes_reach` — matching finds the pieces that a regular expression matches.
* `occursIn_iff` — a pattern occurs in a text if it matches a piece of it.
-/

namespace DocTemplate.Pattern

/-! ### Pieces of a text -/

/-- Exactly `n` steps of a relation. -/
def Steps (R : Nat → Nat → Prop) : Nat → Nat → Nat → Prop
  | 0, i, j => i = j
  | n + 1, i, j => ∃ k, R i k ∧ Steps R n k j

/-- The character in front of a place; `before` is the one in front of the text. -/
def charBefore (before : Option Char) (text : List Char) : Nat → Option Char
  | 0 => before
  | i + 1 => text[i]?

/-- The pieces of a text that a regular expression matches, by the places around them. A bound of a
repetition that is less than its least count is no bound. -/
def Regex.Matches (text : List Char) : Regex Leaf → Nat → Nat → Prop
  | .empty, i, j => i = j
  | .leaf (.char s), i, j => j = i + 1 ∧ ∃ c, text[i]? = some c ∧ s.contains c = true
  | .leaf (.position p), i, j =>
    i = j ∧ i ≤ text.length ∧ p.holds (charBefore none text i) text[i]? = true
  | .seq r s, i, j => ∃ k, r.Matches text i k ∧ s.Matches text k j
  | .alt r s, i, j => r.Matches text i j ∨ s.Matches text i j
  | .times r least greatest, i, j =>
    ∃ n, least ≤ n ∧ (∀ g ∈ greatest, n ≤ least.max g) ∧ Steps (r.Matches text) n i j

/-! ### Steps -/

variable {R : Nat → Nat → Prop} {move : Nat → Nat} {size i j k n : Nat}

theorem steps_add {m : Nat} : Steps R (m + n) i j ↔ ∃ k, Steps R m i k ∧ Steps R n k j := by
  induction m generalizing i with
  | zero => simp [Steps]
  | succ m ih =>
    rw [Nat.succ_add]
    simp only [Steps, ih]
    constructor
    · rintro ⟨l, hl, k, hk, h⟩
      exact ⟨k, ⟨l, hl, hk⟩, h⟩
    · rintro ⟨k, ⟨l, hl, hk⟩, h⟩
      exact ⟨l, hl, k, hk, h⟩

/-- Steps go forward, and not beyond the end of a text. -/
def Forward (size : Nat) (R : Nat → Nat → Prop) : Prop :=
  ∀ i j, R i j → i ≤ j ∧ (i < j → j ≤ size)

theorem Forward.steps (h : Forward size R) (n : Nat) : Forward size (Steps R n) := by
  intro i j hij
  induction n generalizing i with
  | zero =>
    obtain rfl : i = j := hij
    omega
  | succ n ih =>
    obtain ⟨k, hik, hkj⟩ := hij
    have := h i k hik
    have := ih k hkj
    omega

/-- Steps that stay at their place can be left out. -/
theorem Forward.shorten (h : Forward size R) (hij : Steps R n i j) :
    ∃ m, m ≤ n ∧ m ≤ j - i ∧ Steps R m i j := by
  induction n generalizing i with
  | zero => exact ⟨0, Nat.le_refl 0, Nat.zero_le _, hij⟩
  | succ n ih =>
    obtain ⟨k, hik, hkj⟩ := hij
    have hle := (h i k hik).1
    have hle' := (h.steps n k j hkj).1
    obtain ⟨m, hn, hm, hsteps⟩ := ih hkj
    by_cases hstay : i = k
    · subst hstay
      exact ⟨m, by omega, hm, hsteps⟩
    · exact ⟨m + 1, by omega, by omega, k, hik, hsteps⟩

/-- Within a text, more steps than it has places reach no other places. -/
theorem Forward.shorten_size (h : Forward size R) (hij : Steps R n i j) :
    ∃ m, m ≤ n ∧ m ≤ size ∧ Steps R m i j := by
  obtain ⟨m, hn, hm, hsteps⟩ := h.shorten hij
  have := h.steps n i j hij
  exact ⟨m, hn, by omega, hsteps⟩

/-! ### Moves of sets of places -/

/-- A move of sets of places takes the steps of a relation. -/
def Takes (move : Nat → Nat) (R : Nat → Nat → Prop) : Prop :=
  ∀ s j, (move s).testBit j = true ↔ ∃ i, s.testBit i = true ∧ R i j

theorem Takes.steps_of_eq {s : Nat} (h : Takes move R) (hs : move s = s) (n j : Nat) :
    s.testBit j = true ↔ ∃ i, s.testBit i = true ∧ Steps R n i j := by
  induction n generalizing j with
  | zero => simp [Steps]
  | succ n ih =>
    rw [ih]
    constructor
    · rintro ⟨k, hk, hkj⟩
      rw [← hs] at hk
      obtain ⟨i, hi, hik⟩ := (h s k).mp hk
      exact ⟨i, hi, k, hik, hkj⟩
    · rintro ⟨i, hi, k, hik, hkj⟩
      exact ⟨k, hs ▸ (h s k).mpr ⟨i, hi, hik⟩, hkj⟩

theorem Takes.reachedIn (h : Takes move R) (n : Nat) : Takes (reachedIn move n) (Steps R n) := by
  induction n with
  | zero =>
    intro s j
    simp [Pattern.reachedIn, Steps]
  | succ n ih =>
    intro s j
    unfold Pattern.reachedIn
    dsimp only
    split
    · exact h.steps_of_eq ‹_› (n + 1) j
    · rw [ih]
      constructor
      · rintro ⟨k, hk, hkj⟩
        obtain ⟨i, hi, hik⟩ := (h s k).mp hk
        exact ⟨i, hi, k, hik, hkj⟩
      · rintro ⟨i, hi, k, hik, hkj⟩
        exact ⟨k, (h s k).mpr ⟨i, hi, hik⟩, hkj⟩

theorem testBit_withoutPlaces_iff {s t : Nat} :
    (withoutPlaces s t).testBit i = true ↔ s.testBit i = true ∧ ¬t.testBit i = true := by
  rw [withoutPlaces, Nat.testBit_xor, Nat.testBit_and]
  cases s.testBit i <;> cases t.testBit i <;> decide

theorem testBit_or_withoutPlaces_iff {s t : Nat} :
    (t ||| withoutPlaces s t).testBit i = true ↔ t.testBit i = true ∨ s.testBit i = true := by
  rw [Nat.testBit_or, Bool.or_eq_true, testBit_withoutPlaces_iff]
  by_cases ht : t.testBit i = true <;> simp [ht]

/-- The places of a search: the latest ones have been reached, and every step from another place
leads to a place that has been reached. -/
structure Searched (R : Nat → Nat → Prop) (latest reached : Nat) : Prop where
  latest_reached : ∀ i, latest.testBit i = true → reached.testBit i = true
  closed : ∀ i j, reached.testBit i = true → R i j →
    latest.testBit i = true ∨ reached.testBit j = true

/-- What can be reached from places that have been reached is reached from the latest ones. -/
theorem Searched.steps {latest reached : Nat} (h : Searched R latest reached)
    (hi : reached.testBit i = true) (hij : Steps R n i j) :
    reached.testBit j = true ∨
      ∃ m k, m ≤ n ∧ latest.testBit k = true ∧ Steps R m k j := by
  induction n generalizing i with
  | zero => exact .inl (hij ▸ hi)
  | succ n ih =>
    obtain ⟨k, hik, hkj⟩ := hij
    obtain hlatest | hreached := h.closed i k hi hik
    · exact .inr ⟨n + 1, i, Nat.le_refl _, hlatest, k, hik, hkj⟩
    · obtain hj | ⟨m, l, hm, hl, hlj⟩ := ih hreached hkj
      · exact .inl hj
      · exact .inr ⟨m, l, Nat.le_succ_of_le hm, hl, hlj⟩

/-- The places that one more step reaches from the latest ones are the latest ones then. -/
theorem Searched.next {latest reached : Nat} (hmove : Takes move R)
    (h : Searched R latest reached) :
    Searched R (withoutPlaces (move latest) reached)
      (reached ||| withoutPlaces (move latest) reached) where
  latest_reached i hi := testBit_or_withoutPlaces_iff.mpr (.inr (testBit_withoutPlaces_iff.mp hi).1)
  closed i j hi hij := by
    rw [testBit_or_withoutPlaces_iff] at hi ⊢
    by_cases hreached : reached.testBit i = true
    · obtain hlatest | hj := h.closed i j hreached hij
      · exact .inr (.inr ((hmove latest j).mpr ⟨i, hlatest, hij⟩))
      · exact .inr (.inl hj)
    · exact .inl (testBit_withoutPlaces_iff.mpr ⟨hi.resolve_left hreached, hreached⟩)

/-- What at most `n + 1` steps reach from the latest places has been reached after the next step of
the search, or at most `n` steps reach it from the places that are the latest ones then. -/
theorem Searched.next_steps {latest reached m : Nat} (hmove : Takes move R)
    (h : Searched R latest reached) (hm : m ≤ n + 1) (hi : latest.testBit i = true)
    (hij : Steps R m i j) :
    (reached ||| withoutPlaces (move latest) reached).testBit j = true ∨
      ∃ m i, m ≤ n ∧ (withoutPlaces (move latest) reached).testBit i = true ∧ Steps R m i j := by
  cases m with
  | zero => exact .inl (testBit_or_withoutPlaces_iff.mpr (.inl (hij ▸ h.latest_reached i hi)))
  | succ m =>
    obtain ⟨k, hik, hkj⟩ := hij
    have hk : (reached ||| withoutPlaces (move latest) reached).testBit k = true :=
      testBit_or_withoutPlaces_iff.mpr (.inr ((hmove latest k).mpr ⟨i, hi, hik⟩))
    obtain hj | ⟨l, i', hl, hi', hsteps⟩ := (h.next hmove).steps hk hkj
    · exact .inl hj
    · exact .inr ⟨l, i', by omega, hi', hsteps⟩

/-- The search finds what is reached in at most `n` steps. -/
theorem Takes.testBit_reachedWithin (hmove : Takes move R) {latest reached : Nat}
    (h : Searched R latest reached) (n j : Nat) :
    (reachedWithin move n latest reached).testBit j = true ↔
      reached.testBit j = true ∨
        ∃ m i, m ≤ n ∧ latest.testBit i = true ∧ Steps R m i j := by
  induction n generalizing latest reached with
  | zero =>
    unfold reachedWithin
    constructor
    · exact .inl
    · rintro (hj | ⟨m, i, hm, hi, hij⟩)
      · exact hj
      · obtain rfl : m = 0 := by omega
        exact hij ▸ h.latest_reached i hi
  | succ n ih =>
    unfold reachedWithin
    dsimp only
    split
    · rename_i hzero
      constructor
      · exact .inl
      · rintro (hj | ⟨m, i, hm, hi, hij⟩)
        · exact hj
        · simpa [hzero] using h.next_steps hmove hm hi hij
    · rw [ih (h.next hmove)]
      constructor
      · rintro (hj | ⟨m, k, hm, hk, hkj⟩)
        · obtain hj | hj := testBit_or_withoutPlaces_iff.mp hj
          · exact .inl hj
          · obtain ⟨i, hi, hij⟩ := (hmove latest j).mp hj
            exact .inr ⟨1, i, by omega, hi, j, hij, rfl⟩
        · obtain ⟨i, hi, hik⟩ := (hmove latest k).mp (testBit_withoutPlaces_iff.mp hk).1
          exact .inr ⟨m + 1, i, by omega, hi, k, hik, hkj⟩
      · rintro (hj | ⟨m, i, hm, hi, hij⟩)
        · exact .inl (testBit_or_withoutPlaces_iff.mpr (.inl hj))
        · exact h.next_steps hmove hm hi hij

/-- From the places of a set, the search finds what is reached in at most `n` steps. -/
theorem Takes.reachedWithin (hmove : Takes move R) (n : Nat) :
    Takes (fun s => reachedWithin move n s s) fun i j => ∃ m, m ≤ n ∧ Steps R m i j := by
  intro s j
  have hsearched : Searched R s s := ⟨fun _ hi => hi, fun _ _ hi _ => .inl hi⟩
  rw [hmove.testBit_reachedWithin hsearched]
  constructor
  · rintro (hj | ⟨m, i, hm, hi, hij⟩)
    · exact ⟨j, hj, 0, Nat.zero_le n, rfl⟩
    · exact ⟨i, hi, m, hm, hij⟩
  · rintro ⟨i, hi, m, hm, hij⟩
    exact .inr ⟨m, i, hm, hi, hij⟩

/-! ### Leaves -/

theorem testBit_two_mul_add_toNat (x : Nat) (b : Bool) (i : Nat) :
    (2 * x + b.toNat).testBit i = if i = 0 then b else x.testBit (i - 1) := by
  cases i with
  | zero => cases b <;> simp [Nat.testBit_zero]
  | succ i =>
    have hhalf : (2 * x + b.toNat) / 2 = x := by
      have := b.toNat_le
      omega
    simp [Nat.testBit_succ, hhalf]

theorem testBit_placesBefore (p : Char → Bool) (text : List Char) (i : Nat) :
    (placesBefore p text).testBit i = text[i]?.any p := by
  induction text generalizing i with
  | nil => simp [placesBefore]
  | cons c rest ih =>
    rw [placesBefore, testBit_two_mul_add_toNat]
    cases i with
    | zero => rfl
    | succ i => simp [ih]

theorem testBit_placesBetween (p : Option Char → Option Char → Bool) (before : Option Char)
    (text : List Char) (i : Nat) :
    (placesBetween p before text).testBit i =
      (decide (i ≤ text.length) && p (charBefore before text i) text[i]?) := by
  induction text generalizing before i with
  | nil =>
    have h := testBit_two_mul_add_toNat 0 (p before none) i
    rw [Nat.mul_zero, Nat.zero_add] at h
    rw [placesBetween, h]
    cases i with
    | zero => rfl
    | succ i => simp
  | cons c rest ih =>
    rw [placesBetween, testBit_two_mul_add_toNat]
    cases i with
    | zero => rfl
    | succ i =>
      have hbefore : charBefore (some c) rest i = (c :: rest)[i]? := by
        cases i <;> rfl
      rw [if_neg (Nat.succ_ne_zero i), Nat.add_sub_cancel, ih, hbefore]
      simp [charBefore]

theorem takes_move (text : List Char) (l : Leaf) :
    Takes (l.move text).apply ((Regex.leaf l).Matches text) := by
  intro s j
  cases l with
  | char set =>
    simp only [Leaf.move, Move.apply, Regex.Matches, Nat.testBit_shiftLeft, Nat.testBit_and,
      testBit_placesBefore, Bool.and_eq_true, decide_eq_true_eq, Option.any_eq_true]
    constructor
    · rintro ⟨hj, hs, c, hc, hset⟩
      exact ⟨j - 1, hs, by omega, c, hc, hset⟩
    · rintro ⟨i, hi, rfl, c, hc, hset⟩
      exact ⟨by omega, hi, c, hc, hset⟩
  | position p =>
    simp only [Leaf.move, Move.apply, Regex.Matches, Nat.testBit_and, testBit_placesBetween,
      Bool.and_eq_true, decide_eq_true_eq]
    constructor
    · rintro ⟨hs, hj, hp⟩
      exact ⟨j, hs, rfl, hj, hp⟩
    · rintro ⟨i, hi, rfl, hj, hp⟩
      exact ⟨hi, hj, hp⟩

/-! ### Regular expressions -/

theorem Regex.forward_matches (text : List Char) (r : Regex Leaf) :
    Forward text.length (r.Matches text) := by
  intro i j h
  induction r generalizing i j with
  | empty =>
    obtain rfl : i = j := h
    omega
  | leaf l =>
    cases l with
    | char set =>
      obtain ⟨rfl, c, hc, -⟩ := h
      obtain ⟨hlt, -⟩ := List.getElem?_eq_some_iff.mp hc
      omega
    | position p =>
      obtain ⟨rfl, -⟩ := h
      omega
  | seq r s ihr ihs =>
    obtain ⟨k, hr, hs⟩ := h
    have := ihr i k hr
    have := ihs k j hs
    omega
  | alt r s ihr ihs =>
    obtain h | h := h
    · exact ihr i j h
    · exact ihs i j h
  | times r least greatest ih =>
    obtain ⟨n, -, -, h⟩ := h
    exact Forward.steps ih n i j h

/-- A repetition is its least number of times and then as many more as there is room for. -/
theorem Regex.matches_times_iff {text : List Char} {r : Regex Leaf} {least : Nat}
    {greatest : Option Nat} :
    (Regex.times r least greatest).Matches text i j ↔
      ∃ k, Steps (r.Matches text) least i k ∧
        ∃ m, m ≤ (match greatest with
            | none => text.length + 1
            | some greatest => (greatest - least).min (text.length + 1)) ∧
          Steps (r.Matches text) m k j := by
  constructor
  · rintro ⟨n, hleast, hgreatest, h⟩
    obtain ⟨n, rfl⟩ := Nat.exists_eq_add_of_le hleast
    obtain ⟨k, hk, h⟩ := steps_add.mp h
    obtain ⟨m, hn, hsize, h⟩ := (r.forward_matches text).shorten_size h
    refine ⟨k, hk, m, ?_, h⟩
    cases greatest with
    | none => exact Nat.le_succ_of_le hsize
    | some g =>
      have := hgreatest g rfl
      simp only [Nat.max_def, Nat.min_def] at this ⊢
      grind
  · rintro ⟨k, hk, m, hm, h⟩
    refine ⟨least + m, Nat.le_add_right _ _, fun g hg => ?_, steps_add.mpr ⟨k, hk, h⟩⟩
    cases hg
    simp only [Nat.max_def, Nat.min_def] at hm ⊢
    grind

/-- Matching finds the pieces that a regular expression matches. -/
theorem Regex.takes_reach (text : List Char) (r : Regex Leaf) :
    Takes ((r.map (Leaf.move text)).reach text.length) (r.Matches text) := by
  induction r with
  | empty =>
    intro s j
    simp [Regex.map, Regex.reach, Regex.Matches]
  | leaf l => exact takes_move text l
  | seq r s ihr ihs =>
    intro places j
    simp only [Regex.map, Regex.reach, ihs _ _, ihr _ _, Regex.Matches]
    constructor
    · rintro ⟨k, ⟨i, hi, hik⟩, hkj⟩
      exact ⟨i, hi, k, hik, hkj⟩
    · rintro ⟨i, hi, k, hik, hkj⟩
      exact ⟨k, ⟨i, hi, hik⟩, hkj⟩
  | alt r s ihr ihs =>
    intro places j
    simp only [Regex.map, Regex.reach, Nat.testBit_or, Bool.or_eq_true, ihr _ _, ihs _ _,
      Regex.Matches]
    constructor
    · rintro (⟨i, hi, hij⟩ | ⟨i, hi, hij⟩)
      · exact ⟨i, hi, .inl hij⟩
      · exact ⟨i, hi, .inr hij⟩
    · rintro ⟨i, hi, hij | hij⟩
      · exact .inl ⟨i, hi, hij⟩
      · exact .inr ⟨i, hi, hij⟩
  | times r least greatest ih =>
    intro places j
    simp only [Regex.map, Regex.reach, matches_times_iff]
    rw [ih.reachedWithin _ _ j]
    simp only [ih.reachedIn least _ _]
    constructor
    · rintro ⟨k, ⟨i, hi, hik⟩, hkj⟩
      exact ⟨i, hi, k, hik, hkj⟩
    · rintro ⟨i, hi, k, hik, hkj⟩
      exact ⟨k, ⟨i, hi, hik⟩, hkj⟩

/-- A pattern occurs in a text if it matches a piece of it. -/
theorem occursIn_iff (p : Pattern) (text : String) :
    p.occursIn text = true ↔
      ∃ i j, i ≤ text.toList.length ∧ p.regex.Matches text.toList i j := by
  have hplaces : ∀ i, (Nat.pow 2 (text.toList.length + 1) - 1).testBit i = true ↔
      i ≤ text.toList.length := by
    intro i
    rw [Nat.pow_eq, Nat.testBit_two_pow_sub_one, decide_eq_true_eq, Nat.lt_succ_iff]
  simp only [occursIn, bne_iff_ne, ne_eq]
  constructor
  · intro h
    obtain ⟨j, hj⟩ := Nat.exists_testBit_of_ne_zero h
    obtain ⟨i, hi, hij⟩ := (p.regex.takes_reach text.toList _ j).mp hj
    exact ⟨i, j, (hplaces i).mp hi, hij⟩
  · rintro ⟨i, j, hi, hij⟩ hzero
    have := (p.regex.takes_reach text.toList _ j).mpr ⟨i, (hplaces i).mpr hi, hij⟩
    rw [hzero] at this
    simp at this

end DocTemplate.Pattern

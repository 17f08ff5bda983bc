import DocTemplate.Proofs.Text.Occurrences

/-!
# Places in a text

A place is counted in characters. A piece that is cut out of a text stands where it was cut out, and
a search finds the first place where a pattern stands.

## Main definitions

* `Text.StandsAt` — a piece stands at a place of a text.

## Main statements

* `Text.StandsAt.eq_take_drop` — what stands at a place is what is cut out there.
* `Text.find?_eq_some_iff` — a search finds the first place.
-/

namespace DocTemplate.Text

/-- A piece stands in a text behind as many characters as the place says. -/
def StandsAt (piece text : List Char) (place : Nat) : Prop :=
  ∃ before behind, before ++ piece ++ behind = text ∧ before.length = place

variable {c : Char} {piece pattern text : List Char} {place : Nat}

theorem standsAt_take_drop (h : place ≤ text.length) (count : Nat) :
    StandsAt ((text.drop place).take count) text place := by
  refine ⟨text.take place, (text.drop place).drop count, ?_, List.length_take_of_le h⟩
  rw [List.append_assoc, List.take_append_drop, List.take_append_drop]

/-- What stands at a place is what is cut out there. -/
theorem StandsAt.eq_take_drop (h : StandsAt piece text place) :
    (text.drop place).take piece.length = piece := by
  obtain ⟨before, behind, rfl, rfl⟩ := h
  simp

theorem StandsAt.length_le (h : StandsAt piece text place) :
    place + piece.length ≤ text.length := by
  obtain ⟨before, behind, rfl, rfl⟩ := h
  simp

theorem standsAt_zero_iff : StandsAt piece text 0 ↔ piece <+: text := by
  constructor
  · rintro ⟨before, behind, rfl, hbefore⟩
    obtain rfl := List.length_eq_zero_iff.mp hbefore
    exact List.prefix_append piece behind
  · rintro ⟨behind, rfl⟩
    exact ⟨[], behind, rfl, rfl⟩

theorem standsAt_cons_iff : StandsAt piece (c :: text) (place + 1) ↔ StandsAt piece text place := by
  constructor
  · rintro ⟨_ | ⟨a, before⟩, behind, htext, hbefore⟩
    · cases hbefore
    · obtain ⟨-, hrest⟩ : a = c ∧ before ++ piece ++ behind = text := by simpa using htext
      exact ⟨before, behind, hrest, Nat.succ.inj hbefore⟩
  · rintro ⟨before, behind, rfl, rfl⟩
    exact ⟨c :: before, behind, rfl, rfl⟩

theorem exists_standsAt_iff : (∃ place, StandsAt piece text place) ↔ piece <:+: text := by
  constructor
  · rintro ⟨place, before, behind, htext, -⟩
    exact ⟨before, behind, htext⟩
  · rintro ⟨before, behind, htext⟩
    exact ⟨before.length, before, behind, htext, rfl⟩

/-! ### The first place -/

theorem find?_eq_none_iff : find? pattern text = none ↔ ¬pattern <:+: text := by
  rw [find?, Option.map_eq_none_iff, cut?_eq_none_iff]

theorem standsAt_of_find? (h : find? pattern text = some place) : StandsAt pattern text place := by
  obtain ⟨⟨before, behind⟩, hcut, rfl⟩ := Option.map_eq_some_iff.mp h
  exact ⟨before, behind, append_of_cut? hcut, rfl⟩

/-- A search finds no pattern that stands at an earlier place as well. -/
theorem le_of_find? (h : find? pattern text = some place) {other : Nat}
    (hother : StandsAt pattern text other) : place ≤ other := by
  rw [find?] at h
  fun_induction cut? pattern text generalizing place other with
  | case1 text hp =>
    obtain rfl : 0 = place := by simpa using h
    exact Nat.zero_le other
  | case2 => cases h
  | case3 c rest hp ih =>
    obtain ⟨⟨before, behind⟩, hcut, rfl⟩ :
        ∃ p, cut? pattern rest = some p ∧ p.1.length + 1 = place := by
      simpa using h
    cases other with
    | zero => exact absurd (List.isPrefixOf_iff_prefix.mpr (standsAt_zero_iff.mp hother)) hp
    | succ other =>
      apply Nat.succ_le_succ
      exact ih (by rw [hcut]; rfl) (standsAt_cons_iff.mp hother)

/-- A search finds the first place where the pattern stands. -/
theorem find?_eq_some_iff : find? pattern text = some place ↔
    StandsAt pattern text place ∧ ∀ other < place, ¬StandsAt pattern text other := by
  constructor
  · intro h
    refine ⟨standsAt_of_find? h, fun other hlt hother => ?_⟩
    exact absurd (le_of_find? h hother) (Nat.not_le_of_lt hlt)
  · rintro ⟨hplace, hfirst⟩
    cases hfind : find? pattern text with
    | none => exact absurd (exists_standsAt_iff.mp ⟨place, hplace⟩) (find?_eq_none_iff.mp hfind)
    | some first =>
      obtain hlt | rfl := Nat.lt_or_eq_of_le (le_of_find? hfind hplace)
      · exact absurd (standsAt_of_find? hfind) (hfirst first hlt)
      · rfl

end DocTemplate.Text

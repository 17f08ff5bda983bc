import DocTemplate.Proofs.Json.Scalars

/-!
# Compact JSON text

What a compact JSON text says, in the order in which it is written, and that it is read so: each
value is followed by a comma or by what closes the array or object around it.

## Main definitions

* `Json.Spelled` — a compact text spells a JSON document.

## Main statements

* `Json.read?_of_spelled` — a compact text is read as the document that it spells.
-/

namespace DocTemplate.Json

mutual

/-- A compact text, without blanks, spells a JSON document. -/
inductive Spelled : List Char → Json → Prop
  | null : Spelled "null".toList .null
  | boolean (b : Bool) : Spelled (toString b).toList (.boolean b)
  | number {n : JsonNumber} (h : n.WellFormed) : Spelled n.chars (.number n)
  | string (s : String) : Spelled (jsonString s) (.string (some s))
  | emptyArray : Spelled ['[', ']'] (.array [])
  | array {text : List Char} {items : List Json} (h : SpelledItems text items) :
      Spelled ('[' :: text) (.array items)
  | emptyObject : Spelled ['{', '}'] (.object [])
  | object {text : List Char} {members : List (Option String × Json)}
      (h : SpelledMembers text members) : Spelled ('{' :: text) (.object members)

/-- A text spells the items of an array, at least one, and its closing bracket. -/
inductive SpelledItems : List Char → List Json → Prop
  | last {text : List Char} {j : Json} (h : Spelled text j) : SpelledItems (text ++ [']']) [j]
  | cons {text more : List Char} {j : Json} {items : List Json} (h : Spelled text j)
      (hmore : SpelledItems more items) : SpelledItems (text ++ ',' :: more) (j :: items)

/-- A text spells the members of an object, at least one, and its closing brace. -/
inductive SpelledMembers : List Char → List (Option String × Json) → Prop
  | last {key : String} {text : List Char} {j : Json} (h : Spelled text j) :
      SpelledMembers (jsonString key ++ ':' :: text ++ ['}']) [(some key, j)]
  | cons {key : String} {text more : List Char} {j : Json} {members : List (Option String × Json)}
      (h : Spelled text j) (hmore : SpelledMembers more members) :
      SpelledMembers (jsonString key ++ ':' :: text ++ ',' :: more) ((some key, j) :: members)

end

/-- The first character of a number is its sign or a digit. -/
theorem exists_cons_chars {n : JsonNumber} (h : n.WellFormed) :
    ∃ c more, n.chars = c :: more ∧ (c = '-' ∨ c.isDigit) := by
  have hne := h.whole_ne
  have hdigits := h.whole_digits
  unfold JsonNumber.chars
  split
  · exact ⟨'-', _, rfl, .inl rfl⟩
  · unfold JsonNumber.unsignedChars
    cases hwhole : n.whole with
    | nil => exact absurd hwhole hne
    | cons c more => exact ⟨c, _, rfl, .inr (hdigits c (by simp [hwhole]))⟩

theorem isBlank_eq_false_of_isDigit {c : Char} (h : c.isDigit) : isBlank c = false := by
  by_contra hblank
  simp only [isBlank, Bool.not_eq_false, Bool.or_eq_true, beq_iff_eq] at hblank
  obtain ((rfl | rfl) | rfl) | rfl := hblank <;> exact absurd h (by decide)

/-- The first character of a compact text is neither a blank nor a closing bracket. -/
theorem Spelled.exists_cons {text : List Char} {j : Json} (h : Spelled text j) :
    ∃ c more, text = c :: more ∧ isBlank c = false ∧ c ≠ ']' := by
  cases h with
  | null => exact ⟨'n', _, rfl, by decide, by decide⟩
  | boolean b =>
    cases b with
    | true => exact ⟨'t', _, rfl, by decide, by decide⟩
    | false => exact ⟨'f', _, rfl, by decide, by decide⟩
  | number h =>
    obtain ⟨c, more, hchars, hc⟩ := exists_cons_chars h
    refine ⟨c, more, hchars, ?_⟩
    obtain rfl | hdigit := hc
    · exact ⟨by decide, by decide⟩
    · exact ⟨isBlank_eq_false_of_isDigit hdigit, by rintro rfl; exact absurd hdigit (by decide)⟩
  | string s => exact ⟨'"', _, rfl, by decide, by decide⟩
  | emptyArray => exact ⟨'[', _, rfl, by decide, by decide⟩
  | array h => exact ⟨'[', _, rfl, by decide, by decide⟩
  | emptyObject => exact ⟨'{', _, rfl, by decide, by decide⟩
  | object h => exact ⟨'{', _, rfl, by decide, by decide⟩

theorem SpelledItems.exists_cons {text : List Char} {items : List Json}
    (h : SpelledItems text items) :
    ∃ c more, text = c :: more ∧ isBlank c = false ∧ c ≠ ']' := by
  cases h with
  | last h | cons h _ =>
    obtain ⟨c, more, rfl, hc⟩ := h.exists_cons
    exact ⟨c, _, rfl, hc⟩

theorem SpelledMembers.exists_cons {text : List Char} {members : List (Option String × Json)}
    (h : SpelledMembers text members) : ∃ more, text = '"' :: more := by
  cases h with
  | last h | cons h _ => exact ⟨_, rfl⟩

theorem skipBlanks_cons {c : Char} (h : isBlank c = false) (text : List Char) :
    skipBlanks (c :: text) = c :: text :=
  List.dropWhile_cons_of_neg (by simp [h])

section Reading

variable {fuel : Nat} {rest : List Char}

theorem readValue_number {n : JsonNumber} (h : n.WellFormed) (hrest : EndsNumber rest) :
    readValue (fuel + 1) (n.chars ++ rest) = some (.number n, rest) := by
  have hread := readNumber_chars h hrest
  obtain ⟨c, more, hchars, hc⟩ := exists_cons_chars h
  have hblank : isBlank c = false := by
    obtain rfl | hdigit := hc
    · decide
    · exact isBlank_eq_false_of_isDigit hdigit
  have hother : c ≠ '"' ∧ c ≠ '[' ∧ c ≠ '{' := by
    refine ⟨?_, ?_, ?_⟩
    all_goals
      rintro rfl
      exact absurd hc (by decide)
  rw [hchars, List.cons_append] at hread ⊢
  rw [readValue, skipBlanks_cons hblank]
  simp [hother, hc, hread]

theorem readValue_string (s : String) :
    readValue (fuel + 1) (jsonString s ++ rest) = some (.string (some s), rest) := by
  have htext : jsonString s ++ rest = '"' :: (s.toList.flatMap jsonChar ++ '"' :: rest) := by
    simp [jsonString]
  rw [htext, readValue, skipBlanks_cons (by decide)]
  simp [readString_append]

theorem readValue_array {c : Char} (hblank : isBlank c = false) (hc : c ≠ ']')
    {text : List Char} {items : List Json} (h : readItems fuel (c :: text) = some (items, rest)) :
    readValue (fuel + 1) ('[' :: c :: text) = some (.array items, rest) := by
  rw [readValue, skipBlanks_cons (by decide)]
  simp [skipBlanks_cons hblank, hc, h]

theorem readValue_object {text : List Char} {members : List (Option String × Json)}
    (h : readMembers fuel ('"' :: text) = some (members, rest)) :
    readValue (fuel + 1) ('{' :: '"' :: text) = some (.object members, rest) := by
  rw [readValue, skipBlanks_cons (by decide)]
  simp [skipBlanks_cons (by decide : isBlank '"' = false), h]

/-- A closing bracket, a closing brace and a comma do not go on with a number. -/
theorem endsNumber_cons {c : Char} (hc : c = ']' ∨ c = '}' ∨ c = ',') (text : List Char) :
    EndsNumber (c :: text) := by
  obtain rfl | rfl | rfl := hc
  all_goals
    rintro _ ⟨⟩
    decide

theorem readItems_last {text : List Char} {j : Json}
    (h : readValue fuel text = some (j, ']' :: rest)) :
    readItems (fuel + 1) text = some ([j], rest) := by
  simp [readItems, h, skipBlanks_cons (by decide : isBlank ']' = false)]

theorem readItems_cons {text more : List Char} {j : Json} {items : List Json}
    (h : readValue fuel text = some (j, ',' :: more))
    (hmore : readItems fuel more = some (items, rest)) :
    readItems (fuel + 1) text = some (j :: items, rest) := by
  simp [readItems, h, hmore, skipBlanks_cons (by decide : isBlank ',' = false)]

section Members

variable {key : String} {text : List Char} {j : Json}

theorem readMembers_last (h : readValue fuel text = some (j, '}' :: rest)) :
    readMembers (fuel + 1) (jsonString key ++ ':' :: text) = some ([(some key, j)], rest) := by
  have hkey : jsonString key ++ ':' :: text =
      '"' :: (key.toList.flatMap jsonChar ++ '"' :: ':' :: text) := by
    simp [jsonString]
  rw [hkey, readMembers, skipBlanks_cons (by decide)]
  simp [readString_append, h, skipBlanks_cons (by decide : isBlank ':' = false),
    skipBlanks_cons (by decide : isBlank '}' = false)]

theorem readMembers_cons {more : List Char} {members : List (Option String × Json)}
    (h : readValue fuel text = some (j, ',' :: more))
    (hmore : readMembers fuel more = some (members, rest)) :
    readMembers (fuel + 1) (jsonString key ++ ':' :: text) =
      some ((some key, j) :: members, rest) := by
  have hkey : jsonString key ++ ':' :: text =
      '"' :: (key.toList.flatMap jsonChar ++ '"' :: ':' :: text) := by
    simp [jsonString]
  rw [hkey, readMembers, skipBlanks_cons (by decide)]
  simp [readString_append, h, hmore, skipBlanks_cons (by decide : isBlank ':' = false),
    skipBlanks_cons (by decide : isBlank ',' = false)]

end Members

mutual

/-- What a compact text spells is read back from it. -/
theorem Spelled.readValue_eq {text : List Char} {j : Json} (h : Spelled text j)
    {fuel : Nat} {rest : List Char} (hfuel : 2 * text.length ≤ fuel) (hrest : EndsNumber rest) :
    readValue fuel (text ++ rest) = some (j, rest) := by
  obtain ⟨fuel, rfl⟩ : ∃ f, fuel = f + 1 := by
    obtain ⟨c, more, rfl, -⟩ := h.exists_cons
    exact Nat.exists_eq_add_one_of_ne_zero (by simp at hfuel; omega)
  cases h with
  | null => rfl
  | boolean b => cases b <;> rfl
  | number h => exact readValue_number h hrest
  | string s => exact readValue_string s
  | emptyArray => rfl
  | array h =>
    have hitems : readItems fuel (_ ++ rest) = some (_, rest) :=
      h.readItems_eq (by simp at hfuel; omega)
    obtain ⟨c, more, rfl, hblank, hc⟩ := h.exists_cons
    exact readValue_array hblank hc hitems
  | emptyObject => rfl
  | object h =>
    have hmembers : readMembers fuel (_ ++ rest) = some (_, rest) :=
      h.readMembers_eq (by simp at hfuel; omega)
    obtain ⟨more, rfl⟩ := h.exists_cons
    exact readValue_object hmembers

theorem SpelledItems.readItems_eq {text : List Char} {items : List Json}
    (h : SpelledItems text items) {fuel : Nat} {rest : List Char}
    (hfuel : 2 * text.length ≤ fuel + 1) :
    readItems fuel (text ++ rest) = some (items, rest) := by
  obtain ⟨fuel, rfl⟩ : ∃ f, fuel = f + 1 := by
    obtain ⟨c, more, rfl, -⟩ := h.exists_cons
    exact Nat.exists_eq_add_one_of_ne_zero (by simp at hfuel; omega)
  cases h with
  | last h =>
    rw [List.append_assoc, List.singleton_append]
    refine readItems_last (h.readValue_eq ?_ (endsNumber_cons (by simp) rest))
    simp at hfuel
    omega
  | cons h hmore =>
    rw [List.append_assoc, List.cons_append]
    refine readItems_cons (h.readValue_eq ?_ (endsNumber_cons (by simp) _))
      (hmore.readItems_eq ?_)
    all_goals
      simp at hfuel
      omega

theorem SpelledMembers.readMembers_eq {text : List Char} {members : List (Option String × Json)}
    (h : SpelledMembers text members) {fuel : Nat} {rest : List Char}
    (hfuel : 2 * text.length ≤ fuel + 1) :
    readMembers fuel (text ++ rest) = some (members, rest) := by
  obtain ⟨fuel, rfl⟩ : ∃ f, fuel = f + 1 := by
    obtain ⟨more, rfl⟩ := h.exists_cons
    exact Nat.exists_eq_add_one_of_ne_zero (by simp at hfuel; omega)
  cases h with
  | last h =>
    rw [List.append_assoc, List.append_assoc, List.cons_append, List.singleton_append]
    refine readMembers_last (h.readValue_eq ?_ (endsNumber_cons (by simp) rest))
    simp at hfuel
    omega
  | cons h hmore =>
    rw [List.append_assoc, List.append_assoc, List.cons_append]
    refine readMembers_cons (h.readValue_eq ?_ (endsNumber_cons (by simp) _))
      (hmore.readMembers_eq ?_)
    all_goals
      simp at hfuel
      omega

end

/-- A compact text is read as the document that it spells. -/
theorem read?_of_spelled {text : String} {j : Json} (h : Spelled text.toList j) :
    read? text = some j := by
  have hread : readValue (2 * text.toList.length + 2) (text.toList ++ []) = some (j, []) :=
    h.readValue_eq (by omega) (by simp [EndsNumber])
  rw [List.append_nil] at hread
  rw [read?, hread]
  rfl

end Reading

end DocTemplate.Json

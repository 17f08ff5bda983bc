/-!
# Searching texts

Where a text occurs in another one, and what is done at its occurrences. Occurrences are taken from
left to right and do not overlap. The empty text occurs before every character and at the end.

## Main definitions

* `cut?` — the text before and behind the first occurrence.
* `find?` — the place of the first occurrence.
* `split` — the pieces between the occurrences.
* `join` — pieces put together with a text between them.
* `replace` — every occurrence exchanged for another text.
-/

namespace DocTemplate.Text

/-- The text before and behind the first occurrence of `pattern`. -/
def cut? (pattern : List Char) (text : List Char) : Option (List Char × List Char) :=
  if pattern.isPrefixOf text then some ([], text.drop pattern.length)
  else
    match text with
    | [] => none
    | c :: rest => (cut? pattern rest).map fun (before, behind) => (c :: before, behind)

/-- The number of characters before the first occurrence of `pattern`. -/
def find? (pattern text : List Char) : Option Nat :=
  (cut? pattern text).map (·.1.length)

/-- Whether `pattern` occurs in a text. -/
def occurs (pattern text : List Char) : Bool :=
  (cut? pattern text).isSome

theorem length_of_cut? {pattern text before behind : List Char}
    (h : cut? pattern text = some (before, behind)) :
    before.length + pattern.length + behind.length = text.length := by
  fun_induction cut? pattern text generalizing before behind with
  | case1 text hp =>
    obtain ⟨rfl, rfl⟩ : [] = before ∧ text.drop pattern.length = behind := by simpa using h
    have := (List.isPrefixOf_iff_prefix.mp hp).length_le
    simp
    omega
  | case2 => simp at h
  | case3 c rest _ ih =>
    obtain ⟨⟨b, r⟩, hb, he⟩ := Option.map_eq_some_iff.mp h
    obtain ⟨rfl, rfl⟩ : c :: b = before ∧ r = behind := by simpa using he
    have := ih hb
    simp
    omega

/-- The pieces of a text between the occurrences of a pattern that is not empty. -/
def splitNonempty (pattern : List Char) (nonempty : pattern ≠ []) (text : List Char) :
    List (List Char) :=
  match _h : cut? pattern text with
  | none => [text]
  | some (before, behind) => before :: splitNonempty pattern nonempty behind
termination_by text.length
decreasing_by
  have := length_of_cut? _h
  have := List.length_pos_iff.mpr nonempty
  omega

/-- The pieces of a text between the occurrences of a pattern. The empty pattern leaves single
characters, with an empty piece at either end. -/
def split (pattern text : List Char) : List (List Char) :=
  if h : pattern = [] then [] :: (text.map ([·]) ++ [[]]) else splitNonempty pattern h text

/-- The pieces put together with `delimiter` between them. -/
def join (delimiter : List Char) : List (List Char) → List Char
  | [] => []
  | [piece] => piece
  | piece :: more => piece ++ delimiter ++ join delimiter more

/-- Every occurrence of a pattern that is not empty exchanged for another text. -/
def replaceNonempty (pattern : List Char) (nonempty : pattern ≠ [])
    (replacement text : List Char) : List Char :=
  match _h : cut? pattern text with
  | none => text
  | some (before, behind) =>
    before ++ replacement ++ replaceNonempty pattern nonempty replacement behind
termination_by text.length
decreasing_by
  have := length_of_cut? _h
  have := List.length_pos_iff.mpr nonempty
  omega

/-- Every occurrence of a pattern exchanged for another text. What is exchanged is not searched
again. -/
def replace (pattern replacement text : List Char) : List Char :=
  if h : pattern = [] then replacement ++ text.flatMap (· :: replacement)
  else replaceNonempty pattern h replacement text

/-- The number of bytes of a text in UTF-8. -/
def utf8Size : List Char → Nat
  | [] => 0
  | c :: rest => c.utf8Size + utf8Size rest

theorem utf8Size_append (text more : List Char) :
    utf8Size (text ++ more) = utf8Size text + utf8Size more := by
  induction text with
  | nil => simp [utf8Size]
  | cons c text ih =>
    simp [utf8Size, ih]
    omega

/-- The text before and behind a byte position that lies between two characters. -/
def splitAtByte (position : Nat) : List Char → List Char × List Char
  | [] => ([], [])
  | c :: rest =>
    if position < c.utf8Size then ([], c :: rest)
    else
      let (before, behind) := splitAtByte (position - c.utf8Size) rest
      (c :: before, behind)

end DocTemplate.Text

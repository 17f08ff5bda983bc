import DocTemplate.Token.Lexing

/-!
# The words of a text

What the tokens of a text can be: each is read from some place of the text, and the names among
them are words.

## Main statements

* `Token.exists_lexeme_of_mem` — a token of a text is what is read at some place.
* `Token.not_mem_of_identifier` — a name holds no point.
-/

namespace DocTemplate.Token

/-- A token of a text is what is read at some place. -/
theorem exists_lexeme_of_mem {text : List Char} {ts : List Token} (h : scan text = .ok ts)
    {t : Token} (ht : t ∈ ts) : ∃ c rest behind, lexeme c rest = .ok (t, behind) := by
  fun_induction scan text generalizing ts with
  | case1 => simp_all
  | case2 => simp at h
  | case3 => simp at h
  | case4 text c rest _ t' behind hl ts' hscan ih =>
    obtain rfl : t' :: ts' = ts := by simpa using h
    obtain rfl | ht := List.mem_cons.mp ht
    · exact ⟨c, rest, behind, hl⟩
    · exact ih hscan ht

theorem eq_of_ofWord {word name : String} (h : ofWord word = .identifier name) : word = name := by
  unfold ofWord at h
  split at h
  · cases h
  split at h
  · cases h
  split at h
  · cases h
  · exact Token.identifier.inj h

theorem ofMark?_ne_identifier {c : Char} {name : String} : ofMark? c ≠ some (.identifier name) := by
  unfold ofMark?
  split <;> simp

/-- A name is a word that starts like one. -/
theorem eq_word_of_lexeme {c : Char} {rest behind : List Char} {name : String}
    (h : lexeme c rest = .ok (.identifier name, behind)) :
    isNameStart c ∧ String.ofList (c :: rest.takeWhile isNamePart) = name := by
  unfold lexeme at h
  split at h
  · split at h <;> simp at h
  split at h
  · split at h <;> simp at h
  split at h
  · rename_i hc
    injection h with h
    exact ⟨hc, eq_of_ofWord (congrArg Prod.fst h)⟩
  split at h
  · rename_i mark hm
    injection h with h
    obtain rfl : mark = .identifier name := congrArg Prod.fst h
    exact absurd hm ofMark?_ne_identifier
  split at h <;> simp at h

/-- A name holds no point. -/
theorem not_mem_of_identifier {text name : String} {ts : List Token} (h : ofText text = .ok ts)
    (hname : .identifier name ∈ ts) : '.' ∉ name.toList := by
  obtain ⟨c, rest, behind, hl⟩ := exists_lexeme_of_mem h hname
  obtain ⟨hc, rfl⟩ := eq_word_of_lexeme hl
  have hrest : ∀ x ∈ rest.takeWhile isNamePart, isNamePart x :=
    List.all_eq_true.mp List.all_takeWhile
  rw [String.toList_ofList, List.mem_cons]
  rintro (rfl | hpoint)
  · exact absurd hc (by decide)
  · exact absurd (hrest _ hpoint) (by decide)

end DocTemplate.Token

import DocTemplate.Calendar.Pattern
import DocTemplate.Proofs.Text.Splitting
import Mathlib.Data.List.TakeWhile

/-!
# What date patterns show

A pattern is carried out as a format with percent directives. The format is read back piece by piece
and has no other percent signs, so that carrying it out never fails. What it shows is told by rules
for the runs of letters, the quoted texts and the other characters of the pattern.

## Main definitions

* `DatePattern.readFormat?` — the pieces of a format.
* `DatePattern.renderFormat?` — an instant written by a format.
* `DatePattern.IsToken` — the parts that formats are made of.
* `DatePattern.Shows` — the rules by which a pattern shows an instant.

## Main statements

* `DatePattern.readFormat?_format` — the pieces of a format are read back.
* `DatePattern.shows_iff` — the rules show one text for each pattern.
* `DatePattern.format_valid_and_literal` — formats of patterns are valid and keep literal text.
-/

namespace DocTemplate

namespace DateField

/-- The letters that ask for fields. -/
def letters : List Char :=
  ['y', 'M', 'd', 'H', 'h', 'm', 's', 'a']

/-- Whether a run asks for a field is up to its letter. -/
theorem ofRun?_eq_none_iff {c : Char} {length : Nat} : ofRun? c length = none ↔ c ∉ letters := by
  unfold ofRun?
  split <;> simp_all [letters]

/-- The field of a directive that is padded. -/
def ofDirective? : Char → Option DateField
  | 'Y' => some .year
  | 'y' => some .yearOfCentury
  | 'm' => some .monthTwoDigits
  | 'b' => some .monthShort
  | 'B' => some .monthLong
  | 'd' => some .dayTwoDigits
  | 'H' => some .hourTwoDigits
  | 'I' => some .clockHourTwoDigits
  | 'M' => some .minuteTwoDigits
  | 'S' => some .secondTwoDigits
  | 'p' => some .halfDay
  | _ => none

/-- The field of a directive behind a minus sign, which leaves out the padding. -/
def ofUnpadded? : Char → Option DateField
  | 'm' => some .month
  | 'd' => some .day
  | 'H' => some .hour
  | 'I' => some .clockHour
  | 'M' => some .minute
  | 'S' => some .second
  | _ => none

end DateField

namespace DatePattern

variable {t : Instant} {c : Char} {text rest shown : List Char}

/-! ### Formats -/

/-- The pieces of a format. Two percent signs are one, and every other percent sign has to start the
directive of a field. Readers that know more directives read such formats alike. -/
def readFormat? : List Char → Option (List Piece)
  | [] => some []
  | '%' :: '%' :: rest => (readFormat? rest).map (.character '%' :: ·)
  | '%' :: '-' :: c :: rest =>
    (DateField.ofUnpadded? c).bind fun f => (readFormat? rest).map (.field f :: ·)
  | '%' :: c :: rest =>
    (DateField.ofDirective? c).bind fun f => (readFormat? rest).map (.field f :: ·)
  | ['%'] => none
  | c :: rest => (readFormat? rest).map (.character c :: ·)

/-- An instant written by a format, unless the format is no valid one. -/
def renderFormat? (t : Instant) (format : String) : Option String :=
  (readFormat? format.toList).map fun pieces => String.ofList (pieces.flatMap (Piece.render t))

/-- The parts that formats are made of: the percent sign written twice, a directive, or another
character. -/
def IsToken (token : List Char) : Prop :=
  token = ['%', '%'] ∨ (∃ f : DateField, token = f.directive) ∨ ∃ c, c ≠ '%' ∧ token = [c]

theorem isToken_format (piece : Piece) : IsToken piece.format := by
  cases piece with
  | field f => exact .inr (.inl ⟨f, rfl⟩)
  | character c =>
    by_cases h : c = '%'
    · exact .inl (by rw [Piece.format, if_pos h])
    · exact .inr (.inr ⟨c, h, by rw [Piece.format, if_neg h]⟩)

theorem readFormat?_field (f : DateField) (rest : List Char) :
    readFormat? (f.directive ++ rest) = (readFormat? rest).map (.field f :: ·) := by
  cases f <;> rfl

theorem readFormat?_character (c : Char) (rest : List Char) :
    readFormat? ((Piece.character c).format ++ rest) =
      (readFormat? rest).map (.character c :: ·) := by
  by_cases h : c = '%'
  · subst h
    rfl
  · rw [Piece.format, if_neg h, List.singleton_append, readFormat?]
    all_goals simp [h]

/-- The pieces of a format are read back. -/
theorem readFormat?_format (pieces : List Piece) :
    readFormat? (pieces.flatMap Piece.format) = some pieces := by
  induction pieces with
  | nil => rfl
  | cons piece pieces ih =>
    rw [List.flatMap_cons]
    cases piece with
    | field f => rw [Piece.format, readFormat?_field, ih, Option.map_some]
    | character c => rw [readFormat?_character, ih, Option.map_some]

/-! ### Pieces of patterns -/

theorem pieces_quote (rest : List Char) :
    pieces ('\'' :: '\'' :: rest) = .character '\'' :: pieces rest := by
  rw [pieces]

theorem bne_quote_of_not_mem (h : '\'' ∉ text) : ∀ c ∈ text, (c != '\'') = true :=
  fun _ hc => bne_iff_ne.mpr fun heq => h (heq ▸ hc)

theorem pieces_quoted (hne : text ≠ []) (h : '\'' ∉ text) (rest : List Char) :
    pieces ('\'' :: (text ++ '\'' :: rest)) = text.map .character ++ pieces rest := by
  have hrun := bne_quote_of_not_mem h
  have htake : (text ++ '\'' :: rest).takeWhile (· != '\'') = text :=
    Text.takeWhile_append_of_head hrun (by simp)
  have hdrop : (text ++ '\'' :: rest).dropWhile (· != '\'') = '\'' :: rest :=
    Text.dropWhile_append_of_head hrun (by simp)
  obtain ⟨first, more, rfl⟩ := List.exists_cons_of_ne_nil hne
  rw [pieces, htake, hdrop, List.tail_cons]
  rintro behind hbehind
  exact h (by rw [← (List.cons.inj hbehind).1]; exact List.mem_cons_self)

theorem pieces_unclosed (h : '\'' ∉ text) : pieces ('\'' :: text) = text.map .character := by
  have hrun := bne_quote_of_not_mem h
  have htake : text.takeWhile (· != '\'') = text := List.takeWhile_eq_self_iff.mpr hrun
  have hdrop : text.dropWhile (· != '\'') = [] := List.dropWhile_eq_nil_iff.mpr hrun
  rw [pieces, htake, hdrop, List.tail_nil, pieces, List.append_nil]
  rintro behind rfl
  exact h List.mem_cons_self

/-- A run that asks for a field and that the text behind it does not go on with. -/
theorem pieces_run {length : Nat} {f : DateField} (hf : DateField.ofRun? c (length + 1) = some f)
    (hrest : rest.head? ≠ some c) :
    pieces (List.replicate (length + 1) c ++ rest) = .field f :: pieces rest := by
  have hquote : c ≠ '\'' := by
    rintro rfl
    cases hf
  have hrun : ∀ d ∈ List.replicate length c, (d == c) = true := fun d hd =>
    beq_iff_eq.mpr (List.eq_of_mem_replicate hd)
  have hhead : ∀ d ∈ rest.head?, (d == c) = false := fun d hd =>
    beq_eq_false_iff_ne.mpr fun heq => hrest (heq ▸ hd)
  have htake := Text.takeWhile_append_of_head hrun hhead
  have hdrop := Text.dropWhile_append_of_head hrun hhead
  rw [List.replicate_succ, List.cons_append, pieces]
  · rw [htake, hdrop, List.length_replicate, hf]
  · exact fun _ heq _ => hquote heq
  · exact hquote

/-- A character that asks for no field stands for itself, also in a run. -/
theorem pieces_plain (hc : c ∉ DateField.letters) (hquote : c ≠ '\'') (rest : List Char) :
    pieces (c :: rest) = .character c :: pieces rest := by
  have hrun : ∀ rest, pieces (c :: rest) =
      (c :: rest.takeWhile (· == c)).map .character ++ pieces (rest.dropWhile (· == c)) := by
    intro rest
    rw [pieces, DateField.ofRun?_eq_none_iff.mpr hc]
    · exact fun _ heq _ => hquote heq
    · exact hquote
  cases rest with
  | nil => simp [hrun]
  | cons d rest =>
    by_cases hd : d = c
    · subst hd
      simp [hrun]
    · rw [hrun]
      simp [hd]

/-! ### Rules -/

/-- The rules by which a pattern shows an instant. A run is maximal, since the text behind it does
not go on with its letter. -/
inductive Shows (t : Instant) : List Char → List Char → Prop
  /-- Nothing is shown of an empty pattern. -/
  | nil : Shows t [] []
  /-- A run of a letter shows the field that it asks for. -/
  | run {c : Char} {length : Nat} {f : DateField} {rest shown : List Char}
    (hf : DateField.ofRun? c (length + 1) = some f) (hrest : rest.head? ≠ some c)
    (h : Shows t rest shown) :
    Shows t (List.replicate (length + 1) c ++ rest) (f.render t ++ shown)
  /-- Any other character, the percent sign among them, is shown as it is. -/
  | plain {c : Char} {rest shown : List Char} (hc : c ∉ DateField.letters) (hquote : c ≠ '\'')
    (h : Shows t rest shown) : Shows t (c :: rest) (c :: shown)
  /-- Two quotes show one. -/
  | quote {rest shown : List Char} (h : Shows t rest shown) :
    Shows t ('\'' :: '\'' :: rest) ('\'' :: shown)
  /-- A text between quotes is shown as it is. -/
  | quoted {text rest shown : List Char} (hne : text ≠ []) (hquote : '\'' ∉ text)
    (h : Shows t rest shown) : Shows t ('\'' :: (text ++ '\'' :: rest)) (text ++ shown)
  /-- A quote that is not closed reaches to the end of the pattern. -/
  | unclosed {text : List Char} (hquote : '\'' ∉ text) : Shows t ('\'' :: text) text

theorem flatMap_render_characters (t : Instant) (text : List Char) :
    (text.map Piece.character).flatMap (Piece.render t) = text := by
  simp [List.flatMap_map, Piece.render]

/-- What the rules show is what the pieces show. -/
theorem Shows.eq_flatMap (h : Shows t text shown) :
    (pieces text).flatMap (Piece.render t) = shown := by
  induction h with
  | nil => rw [pieces, List.flatMap_nil]
  | run hf hrest _ ih => rw [pieces_run hf hrest, List.flatMap_cons, ih, Piece.render]
  | plain hc hquote _ ih => rw [pieces_plain hc hquote, List.flatMap_cons, ih]; rfl
  | quote _ ih => rw [pieces_quote, List.flatMap_cons, ih]; rfl
  | quoted hne hquote _ ih =>
    rw [pieces_quoted hne hquote, List.flatMap_append, flatMap_render_characters, ih]
  | unclosed hquote => rw [pieces_unclosed hquote, flatMap_render_characters]

/-- A text is a run of a character, which may be empty, and a text that does not go on with it. -/
theorem exists_run (c : Char) (text : List Char) : ∃ length behind,
    text = List.replicate length c ++ behind ∧ behind.head? ≠ some c := by
  refine ⟨(text.takeWhile (· == c)).length, text.dropWhile (· == c), ?_, fun h => ?_⟩
  · have hrun : text.takeWhile (· == c) = List.replicate (text.takeWhile (· == c)).length c :=
      List.eq_replicate_of_mem fun d hd =>
        beq_iff_eq.mp (List.all_eq_true.mp List.all_takeWhile d hd)
    rw [← hrun, List.takeWhile_append_dropWhile]
  · have hstop := List.head?_dropWhile_not (· == c) text
    rw [h] at hstop
    simp at hstop

/-- There is a rule for every pattern. -/
theorem exists_shows (t : Instant) (text : List Char) : ∃ shown, Shows t text shown := by
  induction hlength : text.length using Nat.strongRecOn generalizing text with
  | ind length ih =>
    subst hlength
    cases text with
    | nil => exact ⟨[], .nil⟩
    | cons c rest =>
      by_cases hquote : c = '\''
      · subst hquote
        by_cases hclosed : '\'' ∈ rest
        · obtain ⟨text, behind, rfl, htext⟩ := List.eq_append_cons_of_mem hclosed
          have hshorter : behind.length < ('\'' :: (text ++ '\'' :: behind)).length := by
            simp only [List.length_cons, List.length_append]
            omega
          obtain ⟨shown, h⟩ := ih _ hshorter behind rfl
          cases text with
          | nil => exact ⟨_, .quote h⟩
          | cons first more => exact ⟨_, .quoted (List.cons_ne_nil _ _) htext h⟩
        · exact ⟨_, .unclosed hclosed⟩
      · by_cases hc : c ∈ DateField.letters
        · obtain ⟨length, behind, rfl, hbehind⟩ := exists_run c rest
          have hsome : DateField.ofRun? c (length + 1) ≠ none := fun hnone =>
            DateField.ofRun?_eq_none_iff.mp hnone hc
          obtain ⟨f, hf⟩ := Option.ne_none_iff_exists'.mp hsome
          have hshorter :
              behind.length < (c :: (List.replicate length c ++ behind)).length := by
            simp only [List.length_cons, List.length_append]
            omega
          obtain ⟨shown, h⟩ := ih _ hshorter behind rfl
          exact ⟨_, .run hf hbehind h⟩
        · obtain ⟨shown, h⟩ := ih rest.length (Nat.lt_succ_self _) rest rfl
          exact ⟨_, .plain hc hquote h⟩

/-- The rules show one text for each pattern: that of its pieces. -/
theorem shows_iff : Shows t text shown ↔ shown = (pieces text).flatMap (Piece.render t) := by
  constructor
  · exact fun h => h.eq_flatMap.symm
  · rintro rfl
    obtain ⟨shown, h⟩ := exists_shows t text
    rwa [h.eq_flatMap]

/-! ### Patterns as formats -/

/-- The format of a pattern is valid: it falls apart into percent signs written twice, directives
and other characters, and carrying it out succeeds. What it shows is what the rules for runs, quoted
texts and other characters show of the pattern. -/
theorem format_valid_and_literal (pattern : String) :
    (∃ tokens : List (List Char), (∀ token ∈ tokens, IsToken token) ∧
      (format pattern).toList = tokens.flatten) ∧
    ∀ t, renderFormat? t (format pattern) = some (render pattern t) ∧
      ∀ shown, Shows t pattern.toList shown ↔ shown = (render pattern t).toList := by
  refine ⟨⟨(pieces pattern.toList).map Piece.format, ?_, ?_⟩, fun t => ⟨?_, fun shown => ?_⟩⟩
  · rintro token htoken
    obtain ⟨piece, -, rfl⟩ := List.mem_map.mp htoken
    exact isToken_format piece
  · rw [format, String.toList_ofList, List.flatMap_def]
  · rw [renderFormat?, format, String.toList_ofList, readFormat?_format, Option.map_some, render]
  · rw [shows_iff, render, String.toList_ofList]

/-- A percent sign between directives, and letters in a text that is not closed. -/
example : format "d%MMM 'on" = "%-d%%%b on" := by
  decide +kernel

end DatePattern

end DocTemplate

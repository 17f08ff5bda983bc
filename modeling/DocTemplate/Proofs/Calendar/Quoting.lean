import DocTemplate.Function.Calendar
import DocTemplate.Proofs.Calendar.Patterns

/-!
# Texts quoted in date patterns

A text is put between quotes with its own quotes written twice. Behind another character the first
of two quotes closes the quoted text, and the second one is taken together with what follows. So a
run of quotes between other characters loses one of them, and a text of nothing but quotes gains
one. Quotes at either end of a text are shown as they are.

## Main definitions

* `DatePattern.quoted` — a text between quotes, as a pattern.
* `DatePattern.shownQuoted` — what is shown of a quoted text.

## Main statements

* `DatePattern.pieces_quotedText` — the pieces of a quoted text.
* `DatePattern.quoted_shown_as_itself_iff` — which texts are shown as they are.
-/

namespace DocTemplate.DatePattern

variable {text rest : List Char} {c : Char}

/-- A text with its quotes written twice. -/
def doubled (text : List Char) : List Char :=
  text.flatMap fun c => if c = '\'' then ['\'', '\''] else [c]

/-- A text between quotes, its own quotes written twice. -/
def quotedText (text : List Char) : List Char :=
  '\'' :: (doubled text ++ ['\''])

/-- The pattern of a text between quotes. -/
def quoted (text : String) : String :=
  String.ofList (quotedText text.toList)

/-- What is shown of a quoted text, or of the rest of one. A quote behind another character is left
out, and all quotes but this one are shown, the closing one too if a quote is in front of it. -/
def shownQuoted (behindOther : Bool) : List Char → List Char
  | [] => if behindOther then [] else ['\'']
  | c :: rest =>
    if c = '\'' then
      if behindOther then shownQuoted false rest else '\'' :: shownQuoted false rest
    else c :: shownQuoted true rest

theorem doubled_quote (text : List Char) :
    doubled ('\'' :: text) = '\'' :: '\'' :: doubled text := by
  simp [doubled]

theorem doubled_cons_of_ne (hc : c ≠ '\'') (text : List Char) :
    doubled (c :: text) = c :: doubled text := by
  simp [doubled, hc]

theorem shownQuoted_cons_of_ne (hc : c ≠ '\'') (behindOther : Bool) (text : List Char) :
    shownQuoted behindOther (c :: text) = c :: shownQuoted true text := by
  rw [shownQuoted, if_neg hc]

/-! ### The pieces of quoted texts -/

/-- The quote that follows an opening one closes the text between them, or both are one quote. -/
theorem pieces_closing (h : '\'' ∉ text) (rest : List Char) :
    pieces ('\'' :: (text ++ '\'' :: rest)) =
      (if text = [] then ['\''] else text).map .character ++ pieces rest := by
  by_cases hne : text = []
  · rw [hne, if_pos rfl, List.nil_append, pieces_quote]
    rfl
  · rw [if_neg hne, pieces_quoted hne h]

/-- The pieces of a quoted text, some characters of which have been passed without a quote. -/
theorem pieces_quoted_behind (text before : List Char) (hbefore : '\'' ∉ before)
    {behindOther : Bool} (hother : behindOther = true ↔ before ≠ []) :
    pieces ('\'' :: (before ++ (doubled text ++ ['\'']))) =
      (before ++ shownQuoted behindOther text).map .character := by
  induction text generalizing before behindOther with
  | nil =>
    have hnil : doubled [] ++ ['\''] = '\'' :: [] := rfl
    rw [hnil, pieces_closing hbefore, pieces, shownQuoted]
    cases before <;> simp_all
  | cons c text ih =>
    by_cases hc : c = '\''
    · subst hc
      have hfalse : false = true ↔ ([] : List Char) ≠ [] := by simp
      have hnext := ih [] List.not_mem_nil hfalse
      rw [List.nil_append, List.nil_append] at hnext
      rw [doubled_quote, List.cons_append, pieces_closing hbefore, List.cons_append, hnext,
        shownQuoted, if_pos rfl]
      cases before <;> simp_all
    · have htrue : true = true ↔ before ++ [c] ≠ [] := by simp
      have hnext := ih (before ++ [c]) (by simp [hbefore, Ne.symm hc]) htrue
      rw [doubled_cons_of_ne hc, shownQuoted_cons_of_ne hc]
      simpa using hnext

theorem pieces_quotedText (text : List Char) :
    pieces (quotedText text) = (shownQuoted false text).map .character :=
  pieces_quoted_behind text [] List.not_mem_nil (by simp)

/-! ### Texts that are shown as they are -/

theorem shownQuoted_append (h : '\'' ∉ text) (rest : List Char) :
    shownQuoted true (text ++ rest) = text ++ shownQuoted true rest := by
  induction text with
  | nil => rfl
  | cons c text ih =>
    obtain ⟨hc, htext⟩ : '\'' ≠ c ∧ '\'' ∉ text := by simpa using h
    rw [List.cons_append, shownQuoted_cons_of_ne hc.symm, ih htext, List.cons_append]

theorem shownQuoted_quotes_append (k : Nat) (rest : List Char) :
    shownQuoted false (List.replicate k '\'' ++ rest) =
      List.replicate k '\'' ++ shownQuoted false rest := by
  induction k with
  | zero => rfl
  | succ k ih => rw [List.replicate_succ, List.cons_append, shownQuoted, ih]; rfl

/-- A text of quotes gains one. -/
theorem shownQuoted_quotes (k : Nat) :
    shownQuoted false (List.replicate k '\'') = List.replicate (k + 1) '\'' := by
  have hquotes := shownQuoted_quotes_append k []
  rw [List.append_nil] at hquotes
  rw [hquotes, List.replicate_succ']
  rfl

/-- Quotes at the end are shown as they are. -/
theorem shownQuoted_closing_quotes (k : Nat) :
    shownQuoted true (List.replicate k '\'') = List.replicate k '\'' := by
  cases k with
  | zero => rfl
  | succ k => rw [List.replicate_succ, shownQuoted, if_pos rfl, if_pos rfl, shownQuoted_quotes]; rfl

/-- Nothing is added behind another character. -/
theorem length_shownQuoted_le (behindOther : Bool) (text : List Char) :
    (shownQuoted behindOther text).length ≤ text.length + (if behindOther then 0 else 1) := by
  induction text generalizing behindOther with
  | nil => cases behindOther <;> simp [shownQuoted]
  | cons c text ih =>
    have hquote : (shownQuoted false text).length ≤ text.length + 1 := ih false
    have hother : (shownQuoted true text).length ≤ text.length := ih true
    rw [shownQuoted]
    split_ifs <;> simp only [List.length_cons] <;> omega

/-- A quote that is left out is missing, unless only quotes follow. -/
theorem eq_quotes_of_shownQuoted_eq (h : shownQuoted false text = '\'' :: text) :
    ∃ k, text = List.replicate k '\'' := by
  obtain ⟨k, behind, rfl, hbehind⟩ := exists_run '\'' text
  cases behind with
  | nil => exact ⟨k, by simp⟩
  | cons c behind =>
    have hc : c ≠ '\'' := by simpa using hbehind
    have hlength := congrArg List.length h
    have hle := length_shownQuoted_le true behind
    rw [shownQuoted_quotes_append, shownQuoted_cons_of_ne hc] at hlength
    simp at hlength hle
    omega

/-- Behind another character a text is shown as it is if its quotes are at the end. -/
theorem shownQuoted_true_eq_self_iff : shownQuoted true text = text ↔
    ∃ plain k, '\'' ∉ plain ∧ text = plain ++ List.replicate k '\'' := by
  constructor
  · intro h
    by_cases hquote : '\'' ∈ text
    · obtain ⟨plain, behind, rfl, hplain⟩ := List.eq_append_cons_of_mem hquote
      rw [shownQuoted_append hplain, List.append_cancel_left_eq, shownQuoted, if_pos rfl,
        if_pos rfl] at h
      obtain ⟨k, rfl⟩ := eq_quotes_of_shownQuoted_eq h
      exact ⟨plain, k + 1, hplain, by rw [List.replicate_succ]⟩
    · exact ⟨text, 0, hquote, by simp⟩
  · rintro ⟨plain, k, hplain, rfl⟩
    rw [shownQuoted_append hplain, shownQuoted_closing_quotes]

/-- A text is shown as it is if all its quotes are at its ends and it is not one of quotes only. -/
theorem shownQuoted_eq_self_iff : shownQuoted false text = text ↔
    ∃ j plain k, plain ≠ [] ∧ '\'' ∉ plain ∧
      text = List.replicate j '\'' ++ (plain ++ List.replicate k '\'') := by
  constructor
  · intro h
    obtain ⟨j, behind, rfl, hbehind⟩ := exists_run '\'' text
    rw [shownQuoted_quotes_append, List.append_cancel_left_eq] at h
    cases behind with
    | nil => cases h
    | cons c behind =>
      have hc : c ≠ '\'' := by simpa using hbehind
      rw [shownQuoted_cons_of_ne hc, List.cons_inj_right, shownQuoted_true_eq_self_iff] at h
      obtain ⟨plain, k, hplain, rfl⟩ := h
      exact ⟨j, c :: plain, k, List.cons_ne_nil _ _, by simp [hplain, hc.symm], rfl⟩
  · rintro ⟨j, plain, k, hne, hplain, rfl⟩
    obtain ⟨c, plain, rfl⟩ := List.exists_cons_of_ne_nil hne
    obtain ⟨hc, hmore⟩ : '\'' ≠ c ∧ '\'' ∉ plain := by simpa using hplain
    rw [shownQuoted_quotes_append, List.cons_append, shownQuoted_cons_of_ne hc.symm,
      shownQuoted_true_eq_self_iff.mpr ⟨plain, k, hmore, rfl⟩]

theorem formatDateTime_quoted (text : String) (now : Instant) (date : Value) :
    CalendarFunctions.formatDateTime now date (some (.string (quoted text))) =
      .string (String.ofList (shownQuoted false text.toList)) := by
  simp only [CalendarFunctions.formatDateTime, Option.bind_some, Value.string?, Option.getD_some,
    render, quoted, String.toList_ofList, pieces_quotedText, flatMap_render_characters]

/-- Whatever the date, a quoted text is shown without the quotes that close it early, and it is
shown as it is exactly if its own quotes are at its ends with something else between them. -/
theorem quoted_shown_as_itself_iff (text : String) (now : Instant) (date : Value) :
    CalendarFunctions.formatDateTime now date (some (.string (quoted text))) =
        .string (String.ofList (shownQuoted false text.toList)) ∧
      (CalendarFunctions.formatDateTime now date (some (.string (quoted text))) = .string text ↔
        ∃ j plain k, plain ≠ [] ∧ '\'' ∉ plain ∧
          text.toList = List.replicate j '\'' ++ (plain ++ List.replicate k '\'')) := by
  refine ⟨formatDateTime_quoted text now date, ?_⟩
  rw [formatDateTime_quoted, ← shownQuoted_eq_self_iff, Value.string.injEq, ← String.toList_inj,
    String.toList_ofList]

/-- The quote in the middle of a word is lost, and a single quote is shown twice. -/
theorem quoted_not_shown_as_itself :
    quoted "it's" = "'it''s'" ∧ quoted "'" = "''''" ∧ ∀ now date,
      CalendarFunctions.formatDateTime now date (some (.string "'it''s'")) = .string "its" ∧
      CalendarFunctions.formatDateTime now date (some (.string "''''")) = .string "''" := by
  have hword : quoted "it's" = "'it''s'" := by decide +kernel
  have hquote : quoted "'" = "''''" := by decide +kernel
  refine ⟨hword, hquote, fun now date => ⟨?_, ?_⟩⟩
  · rw [← hword, formatDateTime_quoted]
    exact congrArg Value.string (by decide +kernel)
  · rw [← hquote, formatDateTime_quoted]
    exact congrArg Value.string (by decide +kernel)

end DocTemplate.DatePattern

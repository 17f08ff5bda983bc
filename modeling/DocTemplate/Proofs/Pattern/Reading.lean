import DocTemplate.Proofs.Pattern.Scanning

/-!
# Reading a pattern in a group

A pattern is read from left to right, and what has been read of it is kept in a state. In a group
around the pattern the same tokens are read from the same states, but for the group that is open
there as well. So a pattern with the closing behind it can be read in a group only if the pattern
can be read alone or closes the group itself.

## Main definitions

* `LexState.Reads` — the tokens that are read up to some place of a text.
* `LexState.within` — a state in a group.
* `LexState.ClosesEarly` — the patterns that close a group which they have not opened.

## Main statements

* `LexState.tokens?_eq_some_iff` — the tokens of a text are those that are read up to its end.
* `LexState.Reads.append_closing` — reading in front of the closing.
* `LexState.exists_reads_of_within` — reading in a group.
-/

namespace DocTemplate.Pattern

open Text (isBlank)

/-- The tokens that stand outside brackets, the end of a group apart. -/
def PatternToken.isPlain : PatternToken → Bool
  | .groupEnd | .classStart _ | .classEnd | .classOperation _ | .classMember _ => false
  | _ => true

/-- How many groups a token opens. -/
def PatternToken.groupsOpened : PatternToken → Nat
  | .groupStart _ _ => 1
  | _ => 0

/-- How many groups a token closes. -/
def PatternToken.groupsClosed : PatternToken → Nat
  | .groupEnd => 1
  | _ => 0

/-- How many classes in brackets a token opens. -/
def PatternToken.classesOpened : PatternToken → Nat
  | .classStart _ => 1
  | _ => 0

/-- How many classes in brackets a token closes. -/
def PatternToken.classesClosed : PatternToken → Nat
  | .classEnd => 1
  | _ => 0

namespace LexState

variable {s next s' s'' : LexState} {c : Char} {rest text text' behind : List Char}
  {token : PatternToken} {ts us : List PatternToken}

/-- Whether a character starts a gap. -/
def StartsGap (s : LexState) (c : Char) : Prop :=
  s.verbose = true ∧ (isBlank c = true ∨ c = '#')

/-- From a state, the tokens are read at the start of a text; then there are another state and the
rest of the text. -/
inductive Reads : LexState → List Char → List PatternToken → LexState → List Char → Prop
  | stop (s : LexState) (text : List Char) : Reads s text [] s text
  | gap {s s' : LexState} {c : Char} {rest text : List Char} {ts : List PatternToken}
      (hgap : s.StartsGap c) (h : Reads s (skipGap true (c :: rest)) ts s' text) :
      Reads s (c :: rest) ts s' text
  | token {s next s' : LexState} {c : Char} {rest behind text : List Char} {token : PatternToken}
      {ts : List PatternToken} (hgap : ¬s.StartsGap c)
      (htoken : s.lexeme? c rest = some (token, next, behind)) (h : Reads next behind ts s' text) :
      Reads s (c :: rest) (token :: ts) s' text

/-! ### The tokens of a text -/

theorem suffix_of_gap (h : s.StartsGap c) (rest : List Char) :
    skipGap true (c :: rest) <:+ rest := by
  have hskips : ∀ inComment, afterGap inComment rest <:+ rest := fun inComment =>
    (skips_afterGap inComment rest).suffix rfl
  obtain ⟨-, hblank | rfl⟩ := h
  · simpa [skipGap, afterGap, hblank] using hskips false
  · simpa [skipGap, afterGap, show isBlank '#' = false by decide] using hskips true

theorem suffix_of_lexeme? (h : s.lexeme? c rest = some (token, next, behind)) : behind <:+ rest :=
  (scanner_lexeme? s c rest).suffix (Option.map_eq_some_iff.mpr ⟨_, h, rfl⟩)

/-- What belongs to the token before is passed over. -/
theorem tokens?_of_suffix (h : behind <:+ rest) :
    s.tokens? (rest.length - behind.length) rest = s.tokens? 0 behind := by
  obtain ⟨before, rfl⟩ := h
  rw [List.length_append, Nat.add_sub_cancel]
  induction before with
  | nil => rfl
  | cons c before ih => exact ih

theorem tokens?_of_gap (h : s.StartsGap c) :
    s.tokens? 0 (c :: rest) = s.tokens? 0 (skipGap true (c :: rest)) := by
  rw [tokens?]
  exact (if_pos h).trans (tokens?_of_suffix (suffix_of_gap h rest))

theorem tokens?_of_lexeme? (hgap : ¬s.StartsGap c)
    (h : s.lexeme? c rest = some (token, next, behind)) :
    s.tokens? 0 (c :: rest) = (next.tokens? 0 behind).map (token :: ·) := by
  rw [tokens?]
  refine (if_neg hgap).trans ?_
  simp only [h, tokens?_of_suffix (suffix_of_lexeme? h)]

theorem tokens?_of_lexeme?_eq_none (hgap : ¬s.StartsGap c) (h : s.lexeme? c rest = none) :
    s.tokens? 0 (c :: rest) = none := by
  rw [tokens?]
  refine (if_neg hgap).trans ?_
  simp only [h]

theorem Reads.tokens?_eq (h : Reads s text ts s' []) : s.tokens? 0 text = some ts := by
  generalize hnil : ([] : List Char) = last at h
  induction h with
  | stop s text =>
    subst hnil
    rfl
  | gap hgap h ih => rw [tokens?_of_gap hgap, ih hnil]
  | token hgap htoken h ih => rw [tokens?_of_lexeme? hgap htoken, ih hnil, Option.map_some]

/-- Gaps and tokens leave less of the text, on whose length the induction is. -/
theorem exists_reads_of_tokens? (h : s.tokens? 0 text = some ts) : ∃ s', Reads s text ts s' [] := by
  induction hlength : text.length using Nat.strongRecOn generalizing s text ts with
  | ind n ih =>
    cases text with
    | nil =>
      cases h
      exact ⟨s, .stop s []⟩
    | cons c rest =>
      rw [List.length_cons] at hlength
      by_cases hgap : s.StartsGap c
      · rw [tokens?_of_gap hgap] at h
        have hle := (suffix_of_gap hgap rest).length_le
        obtain ⟨s', hreads⟩ := ih _ (by omega) h rfl
        exact ⟨s', .gap hgap hreads⟩
      cases htoken : s.lexeme? c rest with
      | none =>
        rw [tokens?_of_lexeme?_eq_none hgap htoken] at h
        cases h
      | some p =>
        obtain ⟨token, next, behind⟩ := p
        rw [tokens?_of_lexeme? hgap htoken] at h
        obtain ⟨ts, hts, rfl⟩ := Option.map_eq_some_iff.mp h
        have hle := (suffix_of_lexeme? htoken).length_le
        obtain ⟨s', hreads⟩ := ih _ (by omega) hts rfl
        exact ⟨s', .token hgap htoken hreads⟩

/-- The tokens of a text are those that are read up to its end. -/
theorem tokens?_eq_some_iff : s.tokens? 0 text = some ts ↔ ∃ s', Reads s text ts s' [] :=
  ⟨exists_reads_of_tokens?, fun ⟨_, h⟩ => h.tokens?_eq⟩

/-- A text that is read to its end is read through every place up to which it can be read. -/
theorem Reads.split (h : Reads s text ts s' text') (hall : Reads s text us s'' []) :
    ∃ vs, us = ts ++ vs ∧ Reads s' text' vs s'' [] := by
  induction h generalizing us with
  | stop s text => exact ⟨us, rfl, hall⟩
  | gap hgap h ih =>
    cases hall with
    | gap _ hall => exact ih hall
    | token hno => exact absurd hgap hno
  | token hgap htoken h ih =>
    cases hall with
    | gap hyes => exact absurd hyes hgap
    | token _ htoken' hall =>
      rw [htoken] at htoken'
      cases htoken'
      obtain ⟨vs, rfl, hvs⟩ := ih hall
      exact ⟨vs, rfl, hvs⟩

theorem Reads.append (h : Reads s text ts s' text') (h' : Reads s' text' us s'' behind) :
    Reads s text (ts ++ us) s'' behind := by
  induction h with
  | stop s text => exact h'
  | gap hgap h ih => exact .gap hgap (ih h')
  | token hgap htoken h ih => exact .token hgap htoken (ih h')

theorem Reads.of_nil (h : Reads s [] ts s' text) : ts = [] ∧ s' = s ∧ text = [] := by
  cases h
  exact ⟨rfl, rfl, rfl⟩

/-! ### In front of the closing -/

theorem extend_lexeme? (h : s.lexeme? c rest = some (token, next, behind)) :
    s.lexeme? c (rest ++ wholeClosing) = some (token, next, behind ++ wholeClosing) ∨
      behind = [] ∧ s.lexeme? c (rest ++ wholeClosing) = some (token, next, []) := by
  have := (scanner_lexeme? s c rest).extend (Option.map_eq_some_iff.mpr ⟨_, h, rfl⟩)
  simpa [together_eq_iff] using this

theorem cut_lexeme?
    (h : s.lexeme? c (rest ++ wholeClosing) = some (token, next, behind ++ wholeClosing)) :
    s.lexeme? c rest = some (token, next, behind) := by
  have := (scanner_lexeme? s c rest).cut (Option.map_eq_some_iff.mpr ⟨_, h, rfl⟩)
  simpa [together_eq_iff] using this

/-- What is read up to the end of a text is read in front of the closing as well; a comment at the
end swallows the closing. -/
theorem Reads.append_closing (h : Reads s text ts s' []) :
    Reads s (text ++ wholeClosing) ts s' wholeClosing ∨
      Reads s (text ++ wholeClosing) ts s' [] := by
  generalize hnil : ([] : List Char) = last at h
  induction h with
  | stop s text =>
    subst hnil
    exact .inl (.stop s wholeClosing)
  | @gap s s' c rest text ts hgap h ih =>
    subst hnil
    obtain happend | ⟨hskip, hskip'⟩ := (skips_skipGap true).append (c :: rest)
    · rw [← happend] at ih
      exact (ih rfl).imp (.gap hgap) (.gap hgap)
    · rw [hskip] at h
      obtain ⟨rfl, rfl, -⟩ := h.of_nil
      have hstop : Reads s' (skipGap true (c :: (rest ++ wholeClosing))) [] s' [] := by
        rw [← List.cons_append, hskip']
        exact .stop s' []
      exact .inr (.gap hgap hstop)
  | token hgap htoken h ih =>
    subst hnil
    obtain htoken' | ⟨rfl, htoken'⟩ := extend_lexeme? htoken
    · exact (ih rfl).imp (.token hgap htoken') (.token hgap htoken')
    · obtain ⟨rfl, rfl, -⟩ := h.of_nil
      exact .inr (.token hgap htoken' (.stop _ []))

/-! ### Tokens outside brackets -/

theorem isPlain_of_flagToken? (h : flagToken? text = some (token, behind)) :
    token.isPlain = true := by
  obtain ⟨change, -, h⟩ := Option.bind_eq_some_iff.mp h
  simp only [flagEnd?] at h
  split at h
  · cases h
    rfl
  · split at h
    · cases h
    · cases h
      rfl
  · cases h

theorem isPlain_of_groupToken? (h : groupToken? text = some (token, behind)) :
    token.isPlain = true := by
  unfold groupToken? at h
  split at h
  · obtain ⟨_, -, heq⟩ := Option.map_eq_some_iff.mp h
    cases heq
    rfl
  · obtain ⟨_, -, heq⟩ := Option.map_eq_some_iff.mp h
    cases heq
    rfl
  · exact isPlain_of_flagToken? h
  · cases h
    rfl

theorem isPlain_of_countedToken? {verbose : Bool}
    (h : countedToken? verbose text = some (token, behind)) : token.isPlain = true := by
  obtain ⟨_, -, h⟩ := Option.bind_eq_some_iff.mp h
  obtain ⟨_, -, h⟩ := Option.bind_eq_some_iff.mp h
  simp only [closedCount?] at h
  split at h
  · split at h
    · cases h
      rfl
    · cases h
  · cases h

theorem isPlain_token (e : Escape) : e.token.isPlain = true := by
  cases e <;> rfl

/-- Only a closing parenthesis is read as the end of a group. -/
theorem of_outside? (h : s.outside? c rest = some (token, behind)) :
    token.isPlain = true ∨ c = ')' ∧ token = .groupEnd ∧ behind = rest := by
  unfold outside? at h
  split at h
  case h_1 => exact .inl (isPlain_of_groupToken? h)
  case h_2 =>
    cases h
    exact .inr ⟨rfl, rfl, rfl⟩
  case h_7 => exact .inl (isPlain_of_countedToken? h)
  case h_11 =>
    obtain ⟨⟨e, _⟩, -, heq⟩ := Option.map_eq_some_iff.mp h
    cases heq
    exact .inl (isPlain_token e)
  all_goals
    cases h
    exact .inl rfl

/-! ### In a group -/

/-- The same state in a group, around which nothing is verbose. -/
def within (s : LexState) : LexState :=
  { s with outer := s.outer ++ [false] }

/-- A closing parenthesis in this state closes no group that is open. -/
def ClosesNone (s : LexState) : Prop :=
  s.depth = 0 ∧ s.outer = []

theorem after?_of_isPlain (h : token.isPlain = true) (s : LexState) :
    ∃ next, s.after? token = some next ∧ s.within.after? token = some next.within := by
  cases token <;> first | exact absurd h (by decide) | exact ⟨_, rfl, rfl⟩

theorem openBracket_within (s : LexState) (rest : List Char) :
    s.within.openBracket rest =
      ((s.openBracket rest).1, (s.openBracket rest).2.1.within, (s.openBracket rest).2.2) := by
  simp only [openBracket, within]
  split <;> rfl

theorem inside?_within (s : LexState) (c : Char) (rest : List Char) :
    s.within.inside? c rest =
      (s.inside? c rest).map fun p => (p.1, p.2.1.within, p.2.2) := by
  have hplace : s.within.place = s.place := rfl
  have hverbose : s.within.verbose = s.verbose := rfl
  simp only [inside?, hplace, hverbose, openBracket_within]
  split
  · rfl
  split
  · split <;> rfl
  split
  · cases asciiClass? rest <;> rfl
  · cases setOperation? c rest with
    | none =>
      simp only [Option.map_map]
      rfl
    | some p => rfl

theorem lexeme?_of_depth_pos (h : 0 < s.depth) (c : Char) (rest : List Char) :
    s.lexeme? c rest = s.inside? c rest :=
  if_pos h

theorem lexeme?_bracket (h : s.depth = 0) (rest : List Char) :
    s.lexeme? '[' rest = some (s.openBracket rest) := by
  rw [lexeme?, if_neg (by omega), if_pos rfl]

theorem lexeme?_of_depth_zero (h : s.depth = 0) (hc : c ≠ '[') (rest : List Char) :
    s.lexeme? c rest = (s.outside? c rest).bind fun (token, behind) =>
      (s.after? token).bind fun next => some (token, next, behind) := by
  rw [lexeme?, if_neg (by omega), if_neg hc]
  rfl

/-- In a group, a token is read as it is alone, unless it closes the group. -/
theorem lexeme?_within (s : LexState) (c : Char) (rest : List Char) :
    s.within.lexeme? c rest = (s.lexeme? c rest).map (fun p => (p.1, p.2.1.within, p.2.2)) ∨
      c = ')' ∧ s.ClosesNone ∧ s.lexeme? c rest = none := by
  by_cases hdepth : 0 < s.depth
  · have hdepth' : 0 < s.within.depth := hdepth
    rw [lexeme?_of_depth_pos hdepth, lexeme?_of_depth_pos hdepth', inside?_within]
    exact .inl rfl
  have hzero : s.depth = 0 := by omega
  have hzero' : s.within.depth = 0 := hzero
  by_cases hc : c = '['
  · subst hc
    rw [lexeme?_bracket hzero, lexeme?_bracket hzero', openBracket_within]
    exact .inl rfl
  rw [lexeme?_of_depth_zero hzero hc, lexeme?_of_depth_zero hzero' hc]
  have hsame : s.within.outside? c rest = s.outside? c rest := rfl
  rw [hsame]
  cases houtside : s.outside? c rest with
  | none => exact .inl rfl
  | some p =>
    obtain ⟨token, behind⟩ := p
    simp only [Option.bind_some]
    obtain hplain | ⟨rfl, rfl, rfl⟩ := of_outside? houtside
    · obtain ⟨next, hnext, hnext'⟩ := after?_of_isPlain hplain s
      rw [hnext, hnext']
      exact .inl rfl
    · cases houter : s.outer with
      | nil => exact .inr ⟨rfl, ⟨hzero, houter⟩, by simp [after?, houter]⟩
      | cons verbose outer => exact .inl (by simp [after?, within, houter])

theorem Reads.within (h : Reads s text ts s' text') : Reads s.within text ts s'.within text' := by
  induction h with
  | stop s text => exact .stop s.within text
  | gap hgap h ih => exact .gap hgap ih
  | @token s next s' c rest behind text token ts hgap htoken h ih =>
    obtain hwithin | ⟨-, -, hnone⟩ := lexeme?_within s c rest
    · rw [htoken] at hwithin
      exact .token hgap hwithin ih
    · rw [htoken] at hnone
      cases hnone

/-! ### Open groups and classes -/

/-- What a token that is read from `c :: rest` does to the groups and classes that are open. -/
structure Effect (s : LexState) (c : Char) (rest : List Char) (token : PatternToken)
    (next : LexState) (behind : List Char) : Prop where
  groups : next.outer.length + token.groupsClosed = s.outer.length + token.groupsOpened
  classes : next.depth + token.classesClosed = s.depth + token.classesOpened
  groupEnd : token = .groupEnd → c = ')' ∧ behind = rest
  classEnd : token = .classEnd → c = ']'

theorem effect_openBracket (s : LexState) (c : Char) (rest : List Char) :
    Effect s c rest (s.openBracket rest).1 (s.openBracket rest).2.1 (s.openBracket rest).2.2 := by
  unfold openBracket
  dsimp only
  split <;> exact ⟨rfl, rfl, by simp, by simp⟩

theorem effect_inside? (hdepth : 0 < s.depth)
    (h : s.inside? c rest = some (token, next, behind)) : Effect s c rest token next behind := by
  simp only [inside?] at h
  split at h
  · cases h
    exact ⟨rfl, rfl, by simp, by simp⟩
  split at h
  · split at h
    · cases h
      exact ⟨rfl, rfl, by simp, by simp⟩
    · cases h
      exact ⟨rfl, Nat.sub_add_cancel hdepth, by simp, fun _ => ‹c = ']'›⟩
  split at h
  · split at h
    · cases h
      exact ⟨rfl, rfl, by simp, by simp⟩
    · have hopen := effect_openBracket s c rest
      rwa [Option.some.inj h] at hopen
  · split at h
    · cases h
      exact ⟨rfl, rfl, by simp, by simp⟩
    · obtain ⟨_, -, heq⟩ := Option.map_eq_some_iff.mp h
      cases heq
      exact ⟨rfl, rfl, by simp, by simp⟩

theorem effect_of_isPlain (hplain : token.isPlain = true) (hnext : s.after? token = some next) :
    Effect s c rest token next behind := by
  cases token <;> first
    | simp [PatternToken.isPlain] at hplain
      done
    | cases hnext
      exact ⟨rfl, rfl, by simp, by simp⟩

/-- What is read from a text opens and closes what its token says. -/
theorem effect_lexeme? (h : s.lexeme? c rest = some (token, next, behind)) :
    Effect s c rest token next behind := by
  by_cases hdepth : 0 < s.depth
  · rw [lexeme?_of_depth_pos hdepth] at h
    exact effect_inside? hdepth h
  have hzero : s.depth = 0 := by omega
  by_cases hc : c = '['
  · subst hc
    rw [lexeme?_bracket hzero] at h
    have hopen := effect_openBracket s '[' rest
    rwa [Option.some.inj h] at hopen
  rw [lexeme?_of_depth_zero hzero hc] at h
  obtain ⟨⟨token, behind⟩, houtside, h⟩ := Option.bind_eq_some_iff.mp h
  obtain ⟨next, hnext, heq⟩ := Option.bind_eq_some_iff.mp h
  cases heq
  obtain hplain | ⟨rfl, rfl, rfl⟩ := of_outside? houtside
  · exact effect_of_isPlain hplain hnext
  · simp only [after?] at hnext
    split at hnext
    · cases hnext
    · rename_i houter
      cases hnext
      exact ⟨by rw [houter]; rfl, rfl, fun _ => ⟨rfl, rfl⟩, by simp⟩

/-- Groups are closed by closing parentheses only. -/
theorem Effect.outer_le (h : Effect s c rest token next behind) (hc : c = ')' → behind ≠ rest) :
    s.outer.length ≤ next.outer.length := by
  have hgroups := h.groups
  cases token with
  | groupEnd =>
    obtain ⟨rfl, rfl⟩ := h.groupEnd rfl
    exact absurd rfl (hc rfl)
  | _ =>
    simp only [PatternToken.groupsClosed] at hgroups
    omega

/-- Classes are closed by closing brackets only. -/
theorem Effect.depth_le (h : Effect s c rest token next behind) (hc : c ≠ ']') :
    s.depth ≤ next.depth := by
  have hclasses := h.classes
  cases token with
  | classEnd => exact absurd (h.classEnd rfl) hc
  | _ =>
    simp only [PatternToken.classesClosed] at hclasses
    omega

theorem Reads.outer_le (h : Reads s text ts s' text') (htext : ')' ∉ text) :
    s.outer.length ≤ s'.outer.length := by
  induction h with
  | stop s text => exact Nat.le_refl _
  | gap hgap h ih =>
    exact ih fun hmem => htext (List.mem_cons_of_mem _ ((suffix_of_gap hgap _).subset hmem))
  | token hgap htoken h ih =>
    obtain ⟨hc, hrest⟩ := not_or.mp (mt List.mem_cons.mpr htext)
    exact Nat.le_trans ((effect_lexeme? htoken).outer_le fun heq => absurd heq.symm hc)
      (ih fun hmem => hrest ((suffix_of_lexeme? htoken).subset hmem))

theorem Reads.depth_le (h : Reads s text ts s' text') (htext : ']' ∉ text) :
    s.depth ≤ s'.depth := by
  induction h with
  | stop s text => exact Nat.le_refl _
  | gap hgap h ih =>
    exact ih fun hmem => htext (List.mem_cons_of_mem _ ((suffix_of_gap hgap _).subset hmem))
  | token hgap htoken h ih =>
    obtain ⟨hc, hrest⟩ := not_or.mp (mt List.mem_cons.mpr htext)
    exact Nat.le_trans ((effect_lexeme? htoken).depth_le (Ne.symm hc))
      (ih fun hmem => hrest ((suffix_of_lexeme? htoken).subset hmem))

/-! ### A pattern in a group -/

/-- From a state, a text closes a group that it has not opened. -/
def ClosesEarly (s : LexState) (text : List Char) : Prop :=
  ∃ ts s' rest, Reads s text ts s' (')' :: rest) ∧ s'.ClosesNone

theorem Reads.suffix (h : Reads s text ts s' text') : text' <:+ text := by
  induction h with
  | stop s text => exact List.suffix_refl text
  | gap hgap h ih => exact (ih.trans (suffix_of_gap hgap _)).trans (List.suffix_cons _ _)
  | token hgap htoken h ih =>
    exact (ih.trans (suffix_of_lexeme? htoken)).trans (List.suffix_cons _ _)

theorem not_closesEarly_of_notMem (h : ')' ∉ text) : ¬s.ClosesEarly text := by
  rintro ⟨ts, s', rest, hreads, -⟩
  exact h (hreads.suffix.subset List.mem_cons_self)

/-- Outside brackets the closing is read as the end of a group and the mark of the end. -/
theorem reads_closing {verbose : Bool} {outer : List Bool} (hdepth : s.depth = 0)
    (houter : s.outer = verbose :: outer) :
    Reads s wholeClosing [.groupEnd, .mark .lineEnd] { s with verbose := verbose, outer := outer }
      [] := by
  have hparen : ¬s.StartsGap ')' := by
    rintro ⟨-, hblank | heq⟩
    · exact absurd hblank (by decide)
    · cases heq
  have hdollar : ¬StartsGap { s with verbose := verbose, outer := outer } '$' := by
    rintro ⟨-, hblank | heq⟩
    · exact absurd hblank (by decide)
    · cases heq
  have hgroupEnd : s.lexeme? ')' ['$'] =
      some (.groupEnd, { s with verbose := verbose, outer := outer }, ['$']) := by
    rw [lexeme?_of_depth_zero hdepth (by decide)]
    simp only [outside?, Option.bind_some, after?, houter]
  have hdepth' : depth { s with verbose := verbose, outer := outer } = 0 := hdepth
  have hmark : lexeme? { s with verbose := verbose, outer := outer } '$' [] =
      some (.mark .lineEnd, { s with verbose := verbose, outer := outer }, []) :=
    lexeme?_of_depth_zero hdepth' (by decide) []
  exact .token hparen hgroupEnd (.token hdollar hmark (.stop _ []))

/-- If no group and no class is open behind the closing, then only the group around the text was
open in front of it. -/
theorem of_reads_within_closing (h : Reads s.within wholeClosing ts s' []) (hdepth : s'.depth = 0)
    (houter : s'.outer = []) : s.ClosesNone ∧ ts = [.groupEnd, .mark .lineEnd] := by
  have hzero : s.depth = 0 := Nat.eq_zero_of_le_zero (hdepth ▸ h.depth_le (by decide))
  obtain ⟨verbose, outer, hopen⟩ : ∃ verbose outer, s.within.outer = verbose :: outer :=
    List.exists_cons_of_ne_nil (by simp [within])
  obtain ⟨vs, rfl, hend⟩ := (reads_closing (s := s.within) hzero hopen).split h
  obtain ⟨rfl, rfl, -⟩ := hend.of_nil
  obtain rfl : outer = [] := houter
  have hlength : s.outer.length + 1 = 1 := by simpa [within] using congrArg List.length hopen
  exact ⟨⟨hzero, List.eq_nil_of_length_eq_zero (by omega)⟩, rfl⟩

/-- A text that is read in a group with the closing behind it can be read alone, or it closes the
group itself, or the group is still open at the end. -/
theorem of_reads_within (h : Reads s.within (text ++ wholeClosing) us s'' []) :
    (∃ ts s', Reads s text ts s' []) ∨ s.ClosesEarly text ∨ s''.outer ≠ [] := by
  generalize hall : text ++ wholeClosing = all at h
  generalize hstart : s.within = start at h
  generalize hnil : ([] : List Char) = last at h
  induction h generalizing s text with
  | stop start all =>
    subst hnil
    simp [wholeClosing] at hall
  | @gap start s'' c rest last us hgap h ih =>
    subst hstart hnil
    cases text with
    | nil => exact .inl ⟨[], s, .stop s []⟩
    | cons d text =>
      obtain ⟨rfl, rfl⟩ := List.cons.inj hall
      obtain happend | ⟨-, hskip⟩ := (skips_skipGap true).append (d :: text)
      · obtain ⟨ts, s', hreads⟩ | ⟨ts, s', rest, hreads, hnone⟩ | hopen :=
          ih happend.symm rfl rfl
        · exact .inl ⟨ts, s', .gap hgap hreads⟩
        · exact .inr (.inl ⟨ts, s', rest, .gap hgap hreads, hnone⟩)
        · exact .inr (.inr hopen)
      · have hread : Reads s.within (skipGap true (d :: text ++ wholeClosing)) us s'' [] := h
        rw [hskip] at hread
        obtain ⟨-, rfl, -⟩ := hread.of_nil
        exact .inr (.inr (by simp [within]))
  | @token start next s'' c rest behind last token us hgap htoken h ih =>
    subst hstart hnil
    cases text with
    | nil => exact .inl ⟨[], s, .stop s []⟩
    | cons d text =>
      obtain ⟨rfl, rfl⟩ := List.cons.inj hall
      obtain ⟨before, rfl, -⟩ | hshort := suffix_append_closing (suffix_of_lexeme? htoken)
      · have hcut := cut_lexeme? htoken
        obtain hwithin | ⟨rfl, hnone, -⟩ := lexeme?_within s d text
        · rw [hcut] at hwithin
          obtain ⟨⟨_, next, _⟩, hlexeme, heq⟩ := Option.map_eq_some_iff.mp hwithin.symm
          cases heq
          obtain ⟨ts, s', hreads⟩ | ⟨ts, s', rest, hreads, hnone⟩ | hopen := ih rfl rfl rfl
          · exact .inl ⟨_, s', .token hgap hlexeme hreads⟩
          · exact .inr (.inl ⟨_, s', rest, .token hgap hlexeme hreads, hnone⟩)
          · exact .inr (.inr hopen)
        · exact .inr (.inl ⟨[], s, text, .stop s _, hnone⟩)
      · -- The token reaches into the closing, so that nothing is left to close the group.
        have hlong : behind ≠ text ++ wholeClosing := by
          rintro rfl
          have := hshort.length_le
          simp [wholeClosing] at this
        have htoken_le := (effect_lexeme? htoken).outer_le fun _ => hlong
        have hreads_le := h.outer_le fun hmem => absurd (hshort.subset hmem) (by decide)
        have hwithin : s.within.outer.length = s.outer.length + 1 := List.length_append
        exact .inr (.inr (List.ne_nil_of_length_pos (by omega)))

/-- A text that closes no group which it has not opened is read in a group with the closing behind
it, so that nothing is open at the end, only as it is read alone: then comes the closing. -/
theorem exists_reads_of_within (h : Reads s.within (text ++ wholeClosing) us s'' [])
    (hclosed : s''.ClosesNone) (hcloses : ¬s.ClosesEarly text) :
    ∃ ts s', us = ts ++ [.groupEnd, .mark .lineEnd] ∧ Reads s text ts s' [] ∧
      Reads s (text ++ wholeClosing) ts s' wholeClosing ∧ s'.ClosesNone := by
  obtain ⟨ts, s', hreads⟩ | hearly | hopen := of_reads_within h
  · obtain hclosing | hswallowed := hreads.append_closing
    · obtain ⟨vs, rfl, hvs⟩ := hclosing.within.split h
      obtain ⟨hnone, rfl⟩ := of_reads_within_closing hvs hclosed.1 hclosed.2
      exact ⟨ts, s', rfl, hreads, hclosing, hnone⟩
    · obtain ⟨vs, rfl, hvs⟩ := hswallowed.within.split h
      obtain ⟨-, rfl, -⟩ := hvs.of_nil
      simp [within, ClosesNone] at hclosed
  · exact absurd hearly hcloses
  · exact absurd hclosed.2 hopen

end LexState

end DocTemplate.Pattern

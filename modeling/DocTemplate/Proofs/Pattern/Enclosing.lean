import DocTemplate.Pattern.Store
import DocTemplate.Proofs.Pattern.Matching
import DocTemplate.Proofs.Pattern.Reading

/-!
# Patterns of whole texts

A pattern that is to match a whole text is put into a group between the marks of the start and the
end. This is done with its text, so that the pattern may close the group itself, or swallow the
closing in a comment. Where it does neither, it is put together in the group as it is alone.

## Main definitions

* `Assembly.within` — what has been read, in a group.
* `Part.ofText?` — the part of a pattern text, however large it is.
* `Part.whole` — a part between the marks of the start and the end.
* `Enclosable` — the patterns that stay as they are in a group, unless they close it.

## Main statements

* `Part.ofText?_enclosed_iff` — what a pattern is between the marks.
* `isMatch_iff_matches` — a text is described by a pattern if the pattern matches it as a whole.
-/

namespace DocTemplate.Pattern

variable {a b : Assembly} {s s' : LexState} {frame : Flags × Branches} {token : PatternToken}
  {ts us : List PatternToken} {text text' : List Char} {part : Part}

namespace Assembly

/-- What has been read, in a group that is open around all of it. -/
def within (a : Assembly) (frame : Flags × Branches) : Assembly :=
  { a with outer := a.outer ++ [frame] }

/-- As many groups and classes are open as in the state of the reader. -/
structure Fits (a : Assembly) (s : LexState) : Prop where
  groups : a.outer.length = s.outer.length
  classes : a.classes.length = s.depth

theorem of_inClass? {f : OpenClass → OpenClass} (h : a.inClass? f = some b) :
    b.outer = a.outer ∧ b.classes.length = a.classes.length := by
  unfold inClass? at h
  split at h
  · cases h
  · rename_i hclasses
    cases h
    exact ⟨rfl, by rw [hclasses]; rfl⟩

/-- What a token adds opens and closes what the token says. -/
theorem effect_step? (h : a.step? token = some b) :
    b.outer.length + token.groupsClosed = a.outer.length + token.groupsOpened ∧
      b.classes.length + token.classesClosed = a.classes.length + token.classesOpened := by
  cases token with
  | groupStart name change =>
    simp only [step?, openGroup?] at h
    split at h
    · cases h
    · cases h
      exact ⟨rfl, rfl⟩
  | groupEnd =>
    simp only [step?, closeGroup?] at h
    split at h
    · cases h
    · rename_i houter
      cases h
      exact ⟨by rw [houter]; rfl, rfl⟩
  | repetition least greatest =>
    simp only [step?, repeated?] at h
    split at h
    · cases h
      exact ⟨rfl, rfl⟩
    · cases h
  | bar | setFlags _ | mark _ | classStart _ =>
    cases h
    exact ⟨rfl, rfl⟩
  | literal _ | dot | charClass _ _ =>
    obtain ⟨_, -, rfl⟩ := Option.map_eq_some_iff.mp h
    exact ⟨rfl, rfl⟩
  | classEnd =>
    simp only [step?, closeClass?] at h
    split at h
    · cases h
    · rename_i hclasses
      obtain ⟨_, -, rfl⟩ := Option.map_eq_some_iff.mp h
      rw [hclasses]
      split <;> exact ⟨rfl, rfl⟩
  | classOperation op =>
    obtain ⟨houter, hclasses⟩ := of_inClass? h
    exact ⟨congrArg List.length houter, hclasses⟩
  | classMember m =>
    obtain ⟨_, -, h⟩ := Option.bind_eq_some_iff.mp h
    obtain ⟨houter, hclasses⟩ := of_inClass? h
    exact ⟨congrArg List.length houter, hclasses⟩

theorem Fits.step? {c : Char} {rest behind : List Char} {next : LexState} (hfits : a.Fits s)
    (hread : s.lexeme? c rest = some (token, next, behind)) (h : a.step? token = some b) :
    b.Fits next := by
  obtain ⟨hgroups, hclasses, -, -⟩ := LexState.effect_lexeme? hread
  obtain ⟨hgroups', hclasses'⟩ := effect_step? h
  have := hfits.groups
  have := hfits.classes
  exact ⟨by omega, by omega⟩

/-- As nothing is open in what has been read, nothing is open for the reader. -/
theorem Fits.closesNone_iff (hfits : a.Fits s) :
    s.ClosesNone ↔ a.outer = [] ∧ a.classes = [] := by
  rw [LexState.ClosesNone, ← List.length_eq_zero_iff, ← hfits.groups, ← hfits.classes,
    List.length_eq_zero_iff, List.length_eq_zero_iff, and_comm]

theorem Fits.foldlM (hfits : a.Fits s) (hreads : LexState.Reads s text ts s' text')
    (h : ts.foldlM Assembly.step? a = some b) : b.Fits s' := by
  induction hreads generalizing a with
  | stop s text =>
    cases h
    exact hfits
  | gap hgap hreads ih => exact ih hfits h
  | token hgap htoken hreads ih =>
    rw [List.foldlM_cons] at h
    obtain ⟨a', ha', h⟩ := Option.bind_eq_some_iff.mp h
    exact ih (hfits.step? htoken ha') h

theorem inClass?_within (a : Assembly) (f : OpenClass → OpenClass) (frame : Flags × Branches) :
    (a.within frame).inClass? f = (a.inClass? f).map (·.within frame) := by
  simp only [inClass?, within]
  split <;> rfl

/-- In a group, a token adds what it adds alone, unless it closes the group. -/
theorem step?_within (hgroup : token = .groupEnd → a.outer ≠ []) (frame : Flags × Branches) :
    (a.within frame).step? token = (a.step? token).map (·.within frame) := by
  cases token with
  | groupStart name change =>
    by_cases htaken : name.any a.groupNames.contains = true
    · simp [step?, openGroup?, within, htaken]
    · simp [step?, openGroup?, within, htaken]
  | groupEnd =>
    obtain ⟨top, outer, houter⟩ := List.exists_cons_of_ne_nil (hgroup rfl)
    simp only [step?, closeGroup?, within, houter, List.cons_append]
    rfl
  | repetition least greatest =>
    simp only [step?, repeated?, within]
    split <;> rfl
  | bar | setFlags _ | mark _ | classStart _ => rfl
  | literal _ | dot | charClass _ _ =>
    simp only [step?, within, Option.map_map]
    rfl
  | classEnd =>
    simp only [step?, closeClass?, within]
    split
    · rfl
    · simp only [Option.map_map]
      congr 1
      funext p
      simp only [Function.comp_apply]
      split <;> rfl
  | classOperation op => exact inClass?_within a _ frame
  | classMember m =>
    simp only [step?, Option.map_bind, Function.comp_def, inClass?_within]
    rfl

/-- In a group, what is read alone is put together as it is alone. -/
theorem foldlM_within (hreads : LexState.Reads s text ts s' text') (hfits : a.Fits s)
    (frame : Flags × Branches) :
    ts.foldlM Assembly.step? (a.within frame) =
      (ts.foldlM Assembly.step? a).map (·.within frame) := by
  induction hreads generalizing a with
  | stop s text => rfl
  | gap hgap hreads ih => exact ih hfits
  | @token s next s' c rest behind text token ts hgap htoken hreads ih =>
    have hgroup : token = .groupEnd → a.outer ≠ [] := by
      rintro rfl
      have hgroups := (LexState.effect_lexeme? htoken).groups
      simp only [PatternToken.groupsClosed, PatternToken.groupsOpened] at hgroups
      have := hfits.groups
      exact List.ne_nil_of_length_pos (by omega)
    rw [List.foldlM_cons, List.foldlM_cons, step?_within hgroup]
    cases hstep : a.step? token with
    | none => rfl
    | some b => exact ih (hfits.step? htoken hstep)

theorem finished?_eq_some_iff :
    a.finished? = some part ↔ a.outer = [] ∧ a.classes = [] ∧ a.branches.part = part := by
  simp [finished?, and_assoc]

/-- What is around a pattern when the group of a whole text has been opened. -/
def wholeFrame : Flags × Branches :=
  (.initial, ⟨[], [some (Part.leaf (.position .textStart))]⟩)

end Assembly

/-! ### Parts -/

namespace Part

/-- The part of a pattern text, however large it is. -/
def ofText? (text : List Char) : Option Part := do
  let tokens ← PatternToken.ofText? text
  let assembly ← tokens.foldlM Assembly.step? Assembly.initial
  assembly.finished?

/-- A part between the marks of the start and the end of a text. -/
def whole (part : Part) : Part where
  regex :=
    .seq (.leaf (.position .textStart))
      (.seq part.regex (.seq (.leaf (.position .textEnd)) .empty))
  depth := part.depth + 2

/-- Whether a part is not nested too deep and not too large. -/
def IsSmall (part : Part) : Prop :=
  part.depth ≤ Assembly.depthLimit ∧ part.regex.room ≤ Regex.roomLimit

instance (part : Part) : Decidable part.IsSmall :=
  inferInstanceAs (Decidable (_ ∧ _))

theorem ofText?_eq_some_iff :
    ofText? text = some part ↔
      ∃ ts s' a, LexState.initial.Reads text ts s' [] ∧
        ts.foldlM Assembly.step? .initial = some a ∧ a.finished? = some part := by
  simp only [ofText?, Option.bind_eq_bind, Option.bind_eq_some_iff, PatternToken.ofText?,
    LexState.tokens?_eq_some_iff]
  constructor
  · rintro ⟨ts, ⟨s', hreads⟩, a, hfold, hfinished⟩
    exact ⟨ts, s', a, hreads, hfold, hfinished⟩
  · rintro ⟨ts, s', a, hreads, hfold, hfinished⟩
    exact ⟨ts, ⟨s', hreads⟩, a, hfold, hfinished⟩

end Part

theorem Regex.ofText?_eq_some_iff {r : Regex Leaf} :
    Regex.ofText? text = some r ↔ ∃ part, Part.ofText? text = some part ∧ part.IsSmall ∧
      part.regex = r := by
  simp only [Regex.ofText?, Part.ofText?, Option.bind_eq_bind, Option.bind_eq_some_iff]
  constructor
  · rintro ⟨ts, hts, a, ha, part, hpart, h⟩
    split at h
    · exact ⟨part, ⟨ts, hts, a, ha, hpart⟩, ‹_›, Option.some.inj h⟩
    · cases h
  · rintro ⟨part, ⟨ts, hts, a, ha, hpart⟩, hsmall, rfl⟩
    exact ⟨ts, hts, a, ha, part, hpart, if_pos hsmall⟩

/-! ### Between the marks -/

/-- The opening of a whole text is read as a mark and the start of a group. -/
theorem reads_opening (h : LexState.initial.within.Reads text ts s' text') :
    LexState.initial.Reads (wholeOpening ++ text) (.mark .lineStart :: .groupStart none [] :: ts)
      s' text' := by
  have hquiet : ∀ c, ¬LexState.initial.StartsGap c := fun c hc => absurd hc.1 (by decide)
  exact .token (hquiet _) rfl (.token (hquiet _) rfl h)

/-- What is read behind the opening is read in a group. -/
theorem of_reads_opening (h : LexState.initial.Reads (wholeOpening ++ text) ts s' []) :
    ∃ us, ts = .mark .lineStart :: .groupStart none [] :: us ∧
      LexState.initial.within.Reads text us s' [] :=
  (reads_opening (.stop _ text)).split h

namespace Assembly

theorem fits_initial : Assembly.initial.Fits LexState.initial :=
  ⟨rfl, rfl⟩

theorem foldlM_opening (ts : List PatternToken) :
    (PatternToken.mark .lineStart :: .groupStart none [] :: ts).foldlM step? initial =
      ts.foldlM step? (initial.within wholeFrame) :=
  rfl

theorem fits_within_initial : (Assembly.initial.within wholeFrame).Fits LexState.initial.within :=
  ⟨rfl, rfl⟩

/-- The closing makes what has been read in the group a part between the marks. -/
theorem foldlM_closing (houter : a.outer = []) (hclasses : a.classes = []) :
    ∃ b, [PatternToken.groupEnd, .mark .lineEnd].foldlM step? (a.within wholeFrame) = some b ∧
      b.finished? = some a.branches.part.whole := by
  obtain ⟨flags, branches, outer, classes, groupNames⟩ := a
  obtain rfl : outer = [] := houter
  obtain rfl : classes = [] := hclasses
  exact ⟨_, rfl, rfl⟩

end Assembly

namespace Part

/-- A pattern that is well-formed closes no group that it has not opened. -/
theorem not_closesEarly (h : ofText? text = some part) : ¬LexState.initial.ClosesEarly text := by
  rintro ⟨ts, s, rest, hreads, hdepth, houter⟩
  obtain ⟨us, s', -, hall, -, -⟩ := ofText?_eq_some_iff.mp h
  obtain ⟨vs, -, hrest⟩ := hreads.split hall
  cases hrest with
  | gap hgap => exact absurd hgap.2 (by decide)
  | token hgap htoken =>
    rw [LexState.lexeme?_of_depth_zero hdepth (by decide)] at htoken
    simp [LexState.outside?, LexState.after?, houter] at htoken

/-- A pattern that can be read between the marks can be read alone, unless it closes the group, and
it does not swallow the closing. -/
theorem exists_of_enclosed (hcloses : ¬LexState.initial.ClosesEarly text)
    (h : ofText? (wholeOpening ++ (text ++ wholeClosing)) = some part) :
    ∃ inner, ofText? text = some inner ∧ ofText? (text ++ wholeClosing) = none ∧
      part = inner.whole := by
  obtain ⟨all, s'', b, hall, hfold, hfinished⟩ := ofText?_eq_some_iff.mp h
  obtain ⟨us, rfl, hus⟩ := of_reads_opening hall
  rw [Assembly.foldlM_opening] at hfold
  obtain ⟨houter, hclasses, -⟩ := Assembly.finished?_eq_some_iff.mp hfinished
  have hclosed := (Assembly.fits_within_initial.foldlM hus hfold).closesNone_iff.mpr
    ⟨houter, hclasses⟩
  obtain ⟨ts, s', rfl, hreads, hclosing, hnone⟩ :=
    LexState.exists_reads_of_within hus hclosed hcloses
  rw [List.foldlM_append, Assembly.foldlM_within hreads Assembly.fits_initial] at hfold
  obtain ⟨_, hmap, hfold⟩ := Option.bind_eq_some_iff.mp hfold
  obtain ⟨a, ha, rfl⟩ := Option.map_eq_some_iff.mp hmap
  obtain ⟨ha_outer, ha_classes⟩ :=
    (Assembly.fits_initial.foldlM hreads ha).closesNone_iff.mp hnone
  obtain ⟨b', hb', hwhole⟩ := Assembly.foldlM_closing ha_outer ha_classes
  obtain rfl : b' = b := Option.some.inj (hb'.symm.trans hfold)
  refine ⟨a.branches.part, ?_, ?_, Option.some.inj (hfinished.symm.trans hwhole)⟩
  · exact ofText?_eq_some_iff.mpr
      ⟨ts, s', a, hreads, ha, Assembly.finished?_eq_some_iff.mpr ⟨ha_outer, ha_classes, rfl⟩⟩
  · refine Option.eq_none_iff_forall_ne_some.mpr fun longer hlonger => ?_
    exact not_closesEarly hlonger ⟨ts, s', ['$'], hclosing, hnone⟩

/-- A pattern that can be read alone, and not with the closing behind it, can be read between the
marks. -/
theorem ofText?_enclosed (h : ofText? text = some part)
    (hends : ofText? (text ++ wholeClosing) = none) :
    ofText? (wholeOpening ++ (text ++ wholeClosing)) = some part.whole := by
  obtain ⟨ts, s', a, hreads, ha, hfinished⟩ := ofText?_eq_some_iff.mp h
  obtain ⟨houter, hclasses, rfl⟩ := Assembly.finished?_eq_some_iff.mp hfinished
  have hfits := Assembly.fits_initial.foldlM hreads ha
  obtain hclosing | hswallowed := hreads.append_closing
  · obtain ⟨hdepth, hnil⟩ := hfits.closesNone_iff.mpr ⟨houter, hclasses⟩
    have hopen : s'.within.outer = [false] := by
      rw [LexState.within, hnil]
      rfl
    have hall := reads_opening (hclosing.within.append (LexState.reads_closing hdepth hopen))
    obtain ⟨b, hb, hwhole⟩ := Assembly.foldlM_closing houter hclasses
    refine ofText?_eq_some_iff.mpr ⟨_, _, b, hall, ?_, hwhole⟩
    rw [Assembly.foldlM_opening, List.foldlM_append,
      Assembly.foldlM_within hreads Assembly.fits_initial, ha]
    exact hb
  · have hlonger : ofText? (text ++ wholeClosing) = some a.branches.part :=
      ofText?_eq_some_iff.mpr ⟨ts, s', a, hswallowed, ha, hfinished⟩
    rw [hends] at hlonger
    cases hlonger

/-- Between the marks, a pattern that does not close the group is what it is alone; one that can be
read with the closing behind it has swallowed the closing. -/
theorem ofText?_enclosed_iff (hcloses : ¬LexState.initial.ClosesEarly text) :
    ofText? (wholeOpening ++ (text ++ wholeClosing)) = some part ↔
      ∃ inner, ofText? text = some inner ∧ ofText? (text ++ wholeClosing) = none ∧
        part = inner.whole := by
  constructor
  · exact exists_of_enclosed hcloses
  · rintro ⟨inner, hinner, hends, rfl⟩
    exact ofText?_enclosed hinner hends

theorem IsSmall.of_whole (h : part.whole.IsSmall) : part.IsSmall := by
  obtain ⟨hdepth, hroom⟩ := h
  simp only [whole, Regex.room] at hdepth hroom
  exact ⟨by omega, by omega⟩

theorem matches_textStart_iff {chars : List Char} {i j : Nat} :
    (Regex.leaf (.position .textStart)).Matches chars i j ↔ i = 0 ∧ j = 0 := by
  simp only [Regex.Matches, Position.holds, Option.isNone_iff_eq_none]
  constructor
  · rintro ⟨rfl, hle, hbefore⟩
    cases i with
    | zero => exact ⟨rfl, rfl⟩
    | succ i =>
      have := List.getElem?_eq_none_iff.mp hbefore
      omega
  · rintro ⟨rfl, rfl⟩
    exact ⟨rfl, Nat.zero_le _, rfl⟩

theorem matches_textEnd_iff {chars : List Char} {i j : Nat} :
    (Regex.leaf (.position .textEnd)).Matches chars i j ↔ i = chars.length ∧ j = chars.length := by
  simp only [Regex.Matches, Position.holds, Option.isNone_iff_eq_none, List.getElem?_eq_none_iff]
  omega

/-- Between the marks, a part matches a whole text or nothing. -/
theorem matches_whole_iff {chars : List Char} {i j : Nat} :
    part.whole.regex.Matches chars i j ↔
      i = 0 ∧ j = chars.length ∧ part.regex.Matches chars 0 chars.length := by
  constructor
  · rintro ⟨_, hstart, k, hpart, _, hend, hempty⟩
    obtain ⟨rfl, rfl⟩ := matches_textStart_iff.mp hstart
    obtain ⟨rfl, rfl⟩ := matches_textEnd_iff.mp hend
    exact ⟨rfl, hempty.symm, hpart⟩
  · rintro ⟨rfl, rfl, hpart⟩
    exact ⟨0, matches_textStart_iff.mpr ⟨rfl, rfl⟩, chars.length, hpart, chars.length,
      matches_textEnd_iff.mpr ⟨rfl, rfl⟩, rfl⟩

end Part

/-! ### Whole texts -/

/-- The patterns that stay as they are in a group, unless they close it. One that is not well-formed
has nothing to lose. -/
structure Enclosable (text : List Char) : Prop where
  /-- What is behind the pattern does not belong to it, as in a comment without an end. -/
  ends : ∀ part, Part.ofText? text = some part → Part.ofText? (text ++ wholeClosing) = none
  /-- There is room for the marks and the group. -/
  room : ∀ part, Part.ofText? text = some part → part.IsSmall → part.whole.IsSmall

theorem enclosable_of_eq_some (h : Part.ofText? text = some part)
    (hends : Part.ofText? (text ++ wholeClosing) = none)
    (hroom : part.IsSmall → part.whole.IsSmall) : Enclosable text where
  ends _ _ := hends
  room other hother := by
    obtain rfl : part = other := Option.some.inj (h.symm.trans hother)
    exact hroom

theorem enclosable_of_eq_none (h : Part.ofText? text = none) : Enclosable text where
  ends part hpart := by
    rw [h] at hpart
    cases hpart
  room part hpart := by
    rw [h] at hpart
    cases hpart

/-- Between the marks there is the pattern if it is well-formed and stays as it is in a group, and
nothing that is well-formed otherwise. -/
theorem Regex.ofText?_enclosed_iff (hcloses : ¬LexState.initial.ClosesEarly text)
    {r : Regex Leaf} :
    Regex.ofText? (wholeOpening ++ (text ++ wholeClosing)) = some r ↔
      Enclosable text ∧
        ∃ part, Part.ofText? text = some part ∧ part.IsSmall ∧ part.whole.regex = r := by
  rw [Regex.ofText?_eq_some_iff]
  constructor
  · rintro ⟨_, hwhole, hsmall, rfl⟩
    obtain ⟨part, hpart, hends, rfl⟩ := (Part.ofText?_enclosed_iff hcloses).mp hwhole
    exact ⟨enclosable_of_eq_some hpart hends fun _ => hsmall, part, hpart, hsmall.of_whole, rfl⟩
  · rintro ⟨h, part, hpart, hsmall, rfl⟩
    have hwhole := Part.ofText?_enclosed hpart (h.ends part hpart)
    exact ⟨part.whole, hwhole, h.room part hpart hsmall, rfl⟩

theorem isMatch_iff_enclosable {pattern : String}
    (hcloses : ¬LexState.initial.ClosesEarly pattern.toList) (text : String) :
    Value.isMatch (.string text) (.string pattern) = true ↔
      Enclosable pattern.toList ∧ ∃ r, Regex.ofText? pattern.toList = some r ∧
        r.Matches text.toList 0 text.toList.length := by
  simp only [Value.isMatch, isWhole, wholeText?, Option.any_eq_true, Option.map_eq_some_iff,
    List.append_assoc, Regex.ofText?_enclosed_iff hcloses]
  constructor
  · rintro ⟨_, ⟨_, ⟨h, part, hpart, hsmall, rfl⟩, rfl⟩, hoccurs⟩
    obtain ⟨i, j, -, hmatches⟩ := (occursIn_iff _ text).mp hoccurs
    exact ⟨h, part.regex, Regex.ofText?_eq_some_iff.mpr ⟨part, hpart, hsmall, rfl⟩,
      (Part.matches_whole_iff.mp hmatches).2.2⟩
  · rintro ⟨h, _, hread, hmatches⟩
    obtain ⟨part, hpart, hsmall, rfl⟩ := Regex.ofText?_eq_some_iff.mp hread
    refine ⟨_, ⟨_, ⟨h, part, hpart, hsmall, rfl⟩, rfl⟩, (occursIn_iff _ text).mpr ?_⟩
    exact ⟨0, _, Nat.zero_le _, Part.matches_whole_iff.mpr ⟨rfl, rfl, hmatches⟩⟩

end DocTemplate.Pattern

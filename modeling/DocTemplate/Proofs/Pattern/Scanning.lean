import DocTemplate.Pattern.Matching
import DocTemplate.Proofs.Text.Splitting

/-!
# Reading in front of a closing

A pattern that is to match a whole text is read with `)$` behind it. What is read at the start of a
text is the same, whether the closing stands behind the text or not, with two exceptions: a comment
at the end of the text swallows the closing, and what is cut short by the end of the text may go on
into the closing.

## Main definitions

* `Agree` — how a text is read alone and with the closing behind it.
* `Scanner` — the functions that read the start of every text in these ways.

## Main statements

* `LexState.scanner_lexeme?` — tokens are read in these ways.
-/

namespace DocTemplate.Pattern

open Text (isBlank)

variable {α β : Type} {text rest behind : List Char} {r r' : Option (α × List Char)}

/-- What is read at the start of a text, alone as `r` and with the closing behind it as `r'`. -/
structure Agree (text : List Char) (r r' : Option (α × List Char)) : Prop where
  suffix : ∀ {x behind}, r = some (x, behind) → behind <:+ text
  suffix_closing : ∀ {x behind}, r' = some (x, behind) → behind <:+ text ++ wholeClosing
  /-- What ends in front of the closing is read without the closing as well. -/
  cut : ∀ {x behind}, r' = some (x, behind ++ wholeClosing) → r = some (x, behind)
  /-- What is read alone is read in front of the closing as well, unless this is swallowed. -/
  extend : ∀ {x behind}, r = some (x, behind) →
    r' = some (x, behind ++ wholeClosing) ∨ behind = [] ∧ r' = some (x, [])

/-- Functions that read the start of a text. -/
def Scanner (f : List Char → Option (α × List Char)) : Prop :=
  ∀ text, Agree text (f text) (f (text ++ wholeClosing))

/-- An end of a text in front of the closing contains the closing, or the parenthesis is gone. -/
theorem suffix_append_closing (h : behind <:+ text ++ wholeClosing) :
    (∃ before, behind = before ++ wholeClosing ∧ before <:+ text) ∨ behind <:+ ['$'] := by
  obtain hclosing | hclosing := List.suffix_or_suffix_of_suffix (List.suffix_append _ _) h
  · obtain ⟨before, rfl⟩ := hclosing
    exact .inl ⟨before, rfl, List.suffix_append_self_iff.mp h⟩
  · obtain rfl | hshort := List.suffix_cons_iff.mp hclosing
    · exact .inl ⟨[], rfl, List.nil_suffix⟩
    · exact .inr hshort

namespace Agree

theorem done (x : α) (text : List Char) :
    Agree text (some (x, text)) (some (x, text ++ wholeClosing)) where
  suffix h := by
    cases h
    exact List.suffix_rfl
  suffix_closing h := by
    cases h
    exact List.suffix_rfl
  cut h := by
    simp only [Option.some.injEq, Prod.mk.injEq, List.append_cancel_right_eq] at h
    rw [h.1, h.2]
  extend h := by
    cases h
    exact .inl rfl

theorem fail (text : List Char) : Agree text (none : Option (α × List Char)) none where
  suffix h := by cases h
  suffix_closing h := by cases h
  cut h := by cases h
  extend h := by cases h

/-- Nothing is left by a comment. -/
theorem swallowed (x : α) (text : List Char) : Agree text (some (x, [])) (some (x, [])) where
  suffix h := by
    cases h
    exact List.nil_suffix
  suffix_closing h := by
    cases h
    exact List.nil_suffix
  cut h := by simp [wholeClosing] at h
  extend h := by
    cases h
    exact .inr ⟨rfl, rfl⟩

/-- What is cut short by the end of the text goes on into the closing. -/
theorem cross (h : ∀ {x behind}, r' = some (x, behind) → behind <:+ ['$']) (text : List Char) :
    Agree text none r' where
  suffix h := by cases h
  suffix_closing hr' := ((h hr').trans (List.suffix_cons ')' _)).trans (List.suffix_append _ _)
  cut hr' := by
    have := (h hr').length_le
    simp [wholeClosing] at this
  extend h := by cases h

theorem mono (h : Agree rest r r') (hrest : rest <:+ text) : Agree text r r' where
  suffix hr := (h.suffix hr).trans hrest
  suffix_closing hr' := (h.suffix_closing hr').trans (List.suffix_append_self_iff.mpr hrest)
  cut := h.cut
  extend := h.extend

theorem cons (h : Agree rest r r') (c : Char) : Agree (c :: rest) r r' :=
  h.mono (List.suffix_cons c rest)

theorem map {k : α × List Char → β × List Char} {j : α → β} (h : Agree text r r')
    (hk : ∀ x behind, k (x, behind) = (j x, behind)) : Agree text (r.map k) (r'.map k) where
  suffix hr := by
    obtain ⟨⟨x, behind⟩, rfl, hx⟩ := Option.map_eq_some_iff.mp hr
    rw [hk] at hx
    cases hx
    exact h.suffix rfl
  suffix_closing hr' := by
    obtain ⟨⟨x, behind⟩, rfl, hx⟩ := Option.map_eq_some_iff.mp hr'
    rw [hk] at hx
    cases hx
    exact h.suffix_closing rfl
  cut hr' := by
    obtain ⟨⟨x, behind⟩, rfl, hx⟩ := Option.map_eq_some_iff.mp hr'
    rw [hk] at hx
    cases hx
    rw [h.cut rfl, Option.map_some, hk]
  extend hr := by
    obtain ⟨⟨x, behind⟩, rfl, hx⟩ := Option.map_eq_some_iff.mp hr
    rw [hk] at hx
    cases hx
    obtain hr' | ⟨rfl, hr'⟩ := h.extend rfl
    · exact .inl (by rw [hr', Option.map_some, hk])
    · exact .inr ⟨rfl, by rw [hr', Option.map_some, hk]⟩

theorem bind {k : α × List Char → Option (β × List Char)} (h : Agree text r r')
    (hk : ∀ x, Scanner fun behind => k (x, behind)) : Agree text (r.bind k) (r'.bind k) where
  suffix hr := by
    obtain ⟨⟨x, behind⟩, rfl, hx⟩ := Option.bind_eq_some_iff.mp hr
    exact ((hk x behind).suffix hx).trans (h.suffix rfl)
  suffix_closing hr' := by
    obtain ⟨⟨x, behind⟩, rfl, hx⟩ := Option.bind_eq_some_iff.mp hr'
    exact ((hk x behind).suffix hx).trans (h.suffix_closing rfl)
  cut {y last} hr' := by
    obtain ⟨⟨x, behind⟩, rfl, hx⟩ := Option.bind_eq_some_iff.mp hr'
    obtain ⟨before, rfl, -⟩ | hshort := suffix_append_closing (h.suffix_closing rfl)
    · rw [h.cut rfl]
      exact (hk x before).cut hx
    · have := (((hk x behind).suffix hx).trans hshort).length_le
      simp [wholeClosing] at this
  extend {y last} hr := by
    obtain ⟨⟨x, behind⟩, rfl, hx⟩ := Option.bind_eq_some_iff.mp hr
    obtain hr' | ⟨rfl, hr'⟩ := h.extend rfl
    · rw [hr']
      exact (hk x behind).extend hx
    · have hlast : last = [] := List.suffix_nil.mp ((hk x []).suffix hx)
      exact .inr ⟨hlast, by rw [hr', Option.bind_some, hx, hlast]⟩

/-- What never reaches the closing is read with it exactly if it is read alone. -/
theorem both (h : Agree text r r')
    (hbefore : ∀ {x behind}, r' = some (x, behind) → ∃ before, behind = before ++ wholeClosing) :
    r = none ∧ r' = none ∨
      ∃ x before, r = some (x, before) ∧ r' = some (x, before ++ wholeClosing) := by
  cases hr' : r' with
  | none =>
    refine .inl ⟨Option.eq_none_iff_forall_ne_some.mpr fun (x, behind) hr => ?_, rfl⟩
    obtain hsome | ⟨-, hsome⟩ := h.extend hr
    · simp [hr'] at hsome
    · simp [hr'] at hsome
  | some p =>
    obtain ⟨before, hbehind⟩ := hbefore hr'
    have hp : r' = some (p.1, before ++ wholeClosing) := by rw [hr', ← hbehind]
    exact .inr ⟨p.1, before, h.cut hp, hr' ▸ hp⟩

end Agree

/-- Behind a character that the closing does not have, all of the closing is left. -/
theorem exists_of_cons_suffix {c : Char} (hc : c ∉ wholeClosing)
    (h : c :: behind <:+ text ++ wholeClosing) : ∃ before, behind = before ++ wholeClosing := by
  obtain hclosing | hclosing := List.suffix_or_suffix_of_suffix (List.suffix_append _ _) h
  · obtain ⟨_ | ⟨d, before⟩, heq⟩ := hclosing
    · rw [List.nil_append] at heq
      exact absurd (heq ▸ List.mem_cons_self) hc
    · exact ⟨before, (List.cons.inj heq).2.symm⟩
  · exact absurd (hclosing.subset List.mem_cons_self) hc

namespace Scanner

variable {f g : List Char → Option (α × List Char)}

theorem done (x : α) : Scanner fun text => some (x, text) :=
  Agree.done x

theorem fail : Scanner fun _ => (none : Option (α × List Char)) :=
  Agree.fail

/-- A result that does not depend on the text. -/
theorem option (o : Option β) (j : β → α) : Scanner fun text => o.map fun y => (j y, text) := by
  cases o with
  | none => exact fail
  | some y => exact done (j y)

/-- Functions that need a first character. -/
theorem next (hnil : f [] = none) (hcons : ∀ c, Scanner fun rest => f (c :: rest)) : Scanner f := by
  intro text
  cases text with
  | nil =>
    rw [hnil]
    exact .cross (fun h => (hcons ')' ['$']).suffix h) []
  | cons c rest => exact (hcons c rest).cons c

/-- Functions that ask for a first character, which the closing does not start with. -/
theorem byHead {c : Char} (hc : c ≠ ')')
    (hcons : ∀ rest, Agree (c :: rest) (f (c :: rest)) (f (c :: (rest ++ wholeClosing))))
    (hother : ∀ text, text.head? ≠ some c → f text = g text) (hg : Scanner g) : Scanner f := by
  intro text
  cases text with
  | nil =>
    rw [hother [] (by simp), hother _ (by simpa [wholeClosing] using hc.symm)]
    exact hg []
  | cons d rest =>
    by_cases hd : d = c
    · subst hd
      exact hcons rest
    · rw [hother _ (by simpa using hd), hother _ (by simpa using hd)]
      exact hg (d :: rest)

end Scanner

/-! ### Gaps -/

/-- Functions that leave out the start of a text. -/
def Skips (f : List Char → List Char) : Prop :=
  Scanner fun text => some ((), f text)

theorem Skips.then {f : List Char → List Char} {g : List Char → Option (α × List Char)}
    (hf : Skips f) (hg : Scanner g) : Scanner fun text => g (f text) := fun text =>
  (hf text).bind (k := fun p => g p.2) fun _ => hg

/-- What is left of a text goes on to the closing behind it, unless this is left out as well. -/
theorem Skips.append {f : List Char → List Char} (hf : Skips f) (text : List Char) :
    f (text ++ wholeClosing) = f text ++ wholeClosing ∨
      f text = [] ∧ f (text ++ wholeClosing) = [] := by
  simpa using (hf text).extend rfl

/-- Whether a character is what stands behind the start that is left out. -/
theorem Skips.head_cases {f : List Char → List Char} (hf : Skips f) {c : Char} (hc : c ≠ ')')
    (text : List Char) :
    (∃ rest, rest <:+ text ∧ f text = c :: rest ∧
        f (text ++ wholeClosing) = c :: (rest ++ wholeClosing)) ∨
      (f text).head? ≠ some c ∧ (f (text ++ wholeClosing)).head? ≠ some c := by
  obtain happend | ⟨hnil, hnil'⟩ := hf.append text
  · cases htext : f text with
    | nil =>
      rw [happend, htext]
      exact .inr ⟨by simp, by simpa [wholeClosing] using hc.symm⟩
    | cons d rest =>
      by_cases hd : d = c
      · subst hd
        have hsuffix : d :: rest <:+ text := htext ▸ (hf text).suffix rfl
        exact .inl ⟨rest, (List.suffix_cons d rest).trans hsuffix, rfl, by rw [happend, htext]; rfl⟩
      · exact .inr ⟨by simpa using hd, by simpa [happend, htext] using hd⟩
  · exact .inr ⟨by simp [hnil], by simp [hnil']⟩

theorem dropWhile_append_closing {p : Char → Bool} (hp : p ')' = false) (text : List Char) :
    (text ++ wholeClosing).dropWhile p = text.dropWhile p ++ wholeClosing := by
  induction text with
  | nil => simp [wholeClosing, hp]
  | cons c rest ih =>
    simp only [List.cons_append, List.dropWhile_cons]
    split
    · exact ih
    · rfl

theorem skips_dropWhile {p : Char → Bool} (hp : p ')' = false) : Skips (List.dropWhile p) := by
  intro text
  dsimp only
  rw [dropWhile_append_closing hp]
  exact (Agree.done () _).mono (List.dropWhile_suffix p)

theorem skips_afterGap (inComment : Bool) : Skips (afterGap inComment) := by
  intro text
  induction text generalizing inComment with
  | nil =>
    cases inComment with
    | false => exact .done () []
    | true => exact .swallowed () []
  | cons c rest ih =>
    simp only [List.cons_append, afterGap]
    split
    · exact (ih _).cons c
    split
    · exact (ih _).cons c
    split
    · exact (ih _).cons c
    · exact .done () (c :: rest)

theorem skips_skipGap (verbose : Bool) : Skips (skipGap verbose) := by
  cases verbose with
  | false => exact .done ()
  | true => exact skips_afterGap false

theorem peek?_append_closing (verbose : Bool) (text : List Char) :
    peek? verbose (text ++ wholeClosing) = (peek? verbose text).or (some ')') := by
  have hblank := dropWhile_append_closing (by decide : isBlank ')' = false)
  cases verbose with
  | false => exact List.head?_append
  | true =>
    simp only [peek?, hblank, if_true]
    cases text.dropWhile isBlank with
    | nil => rfl
    | cons c rest =>
      by_cases hc : c = '#'
      · subst hc
        change ((rest ++ wholeClosing).dropWhile isBlank).head? = _
        rw [hblank]
        exact List.head?_append
      · simp [hc]

theorem scanner_braced (verbose inComment : Bool) : Scanner (braced verbose inComment) := by
  intro text
  induction text generalizing inComment with
  | nil =>
    have hclosing : braced verbose inComment wholeClosing = none := by
      cases verbose <;> cases inComment <;> rfl
    rw [List.nil_append, hclosing]
    exact .fail []
  | cons c rest ih =>
    simp only [List.cons_append, braced]
    split
    · exact (ih _).cons c
    split
    · exact (ih _).cons c
    split
    · exact (ih _).cons c
    split
    · exact (Agree.done [] rest).cons c
    · exact ((ih _).map fun _ _ => rfl).cons c

/-! ### Numbers -/

theorem scanner_digits (verbose inComment : Bool) :
    Scanner fun text => some (digits verbose inComment text) := by
  intro text
  induction text generalizing inComment with
  | nil =>
    cases inComment with
    | false => cases verbose <;> exact .done [] []
    | true => cases verbose <;> exact .swallowed [] []
  | cons c rest ih =>
    simp only [List.cons_append, digits]
    split
    · exact (ih _).cons c
    split
    · exact ((ih false).map (k := fun p => (c :: p.1, p.2)) fun _ _ => rfl).cons c
    split
    · exact (ih _).cons c
    split
    · exact (ih _).cons c
    · exact .done [] (c :: rest)

theorem scanner_count? (verbose : Bool) : Scanner (count? verbose) := by
  have hblank : Skips (List.dropWhile isBlank) := skips_dropWhile (by decide)
  have hnumber : Scanner fun text => (some (digits verbose false text)).bind fun p =>
      if p.1.isEmpty || Nat.pow 2 32 ≤ natOfDigits p.1 then none
      else some (natOfDigits p.1, p.2.dropWhile isBlank) := by
    intro text
    refine (scanner_digits verbose false text).bind fun ds behind => ?_
    dsimp only
    split
    · exact .fail behind
    · exact (hblank behind).map (k := fun p => (natOfDigits ds, p.2)) fun _ _ => rfl
  exact hblank.then hnumber

theorem scanner_fixedDigits (verbose : Bool) (n : Nat) : Scanner (fixedDigits verbose n) := by
  induction n with
  | zero => exact .done []
  | succ n ih =>
    have hnext : Scanner fun text : List Char => text.head?.bind fun c =>
        (fixedDigits verbose n text.tail).map fun p => (c :: p.1, p.2) :=
      .next rfl fun c rest => (ih rest).map fun _ _ => rfl
    have hfixed : ∀ text, fixedDigits verbose (n + 1) text =
        (skipGap verbose text).head?.bind fun c =>
          (fixedDigits verbose n (skipGap verbose text).tail).map fun p => (c :: p.1, p.2) := by
      intro text
      rw [fixedDigits]
      cases skipGap verbose text <;> rfl
    rw [funext hfixed]
    exact (skips_skipGap verbose).then hnext

/-! ### Escapes -/

theorem scanner_hexEscape? (verbose : Bool) (width : Nat) :
    Scanner (hexEscape? verbose width) := by
  have hfixed : Scanner fun text => (fixedDigits verbose width text).bind fun p =>
      (hexChar? p.1).map fun c => ((⟨c, width == 2⟩ : Literal), p.2) := fun text =>
    (scanner_fixedDigits verbose width text).bind fun ds =>
      .option (hexChar? ds) fun c => (⟨c, width == 2⟩ : Literal)
  refine .byHead (by decide : '{' ≠ ')') (fun rest => ?_) (fun text htext => ?_) hfixed
  · refine ((scanner_braced verbose false rest).bind fun ds behind => ?_).cons '{'
    dsimp only
    split
    · exact .fail behind
    · exact Scanner.option _ _ behind
  · unfold hexEscape?
    split
    · simp at htext
    · rfl

theorem scanner_propertyEscape? (verbose : Bool) : Scanner (propertyEscape? verbose) := by
  refine .next rfl fun c => ?_
  by_cases hslash : c = '\\'
  · subst hslash
    exact .fail
  by_cases hbrace : c = '{'
  · subst hbrace
    exact fun rest => (scanner_braced verbose false rest).map fun _ _ => rfl
  have hletter : ∀ rest, propertyEscape? verbose (c :: rest) = some (.property [c], rest) := by
    intro rest
    unfold propertyEscape?
    split <;> simp_all
  simp only [hletter]
  exact .done _

/-- Whether braces hold a name does not depend on the closing. -/
theorem any_head?_skipGap (verbose : Bool) {p : Char → Bool} (hp : p ')' = false)
    (text : List Char) :
    (skipGap verbose (text ++ wholeClosing)).head?.any p = (skipGap verbose text).head?.any p := by
  obtain happend | ⟨hnil, hnil'⟩ := (skips_skipGap verbose).append text
  · rw [happend]
    cases skipGap verbose text with
    | nil => simpa [wholeClosing] using hp
    | cons c rest => rfl
  · rw [hnil, hnil']

theorem scanner_boundaryEscape? (verbose : Bool) : Scanner (boundaryEscape? verbose) := by
  refine .byHead (by decide : '{' ≠ ')') (fun rest => ?_) (fun text htext => ?_)
    (.done Mark.wordBoundary)
  · simp only [boundaryEscape?, any_head?_skipGap verbose (by decide : isBoundaryPart ')' = false)]
    split
    · refine ((scanner_braced verbose false rest).bind fun name behind => ?_).cons '{'
      exact Scanner.option ((_ : List (String × Mark)).lookup (String.ofList name)) id behind
    · exact .done Mark.wordBoundary ('{' :: rest)
  · unfold boundaryEscape?
    split
    · simp at htext
    · rfl

/-- Most escapes are a single character. -/
theorem escape?_cons_of_not_mem {c : Char} (hc : c ∉ ['x', 'u', 'U', 'p', 'P', 'b'])
    (verbose : Bool) :
    ∃ o : Option Escape, ∀ rest, escape? verbose (c :: rest) = o.map (·, rest) := by
  refine ⟨(escape? verbose [c]).map (·.1), fun rest => ?_⟩
  unfold escape?
  split <;> simp_all

theorem scanner_escape? (verbose : Bool) : Scanner (escape? verbose) := by
  refine .next rfl fun c => ?_
  by_cases hc : c ∈ ['x', 'u', 'U', 'p', 'P', 'b']
  · have hhex : ∀ width, Scanner fun rest =>
        (hexEscape? verbose width (skipGap verbose rest)).map fun p =>
          (Escape.literal p.1, p.2) := fun width rest =>
      ((skips_skipGap verbose).then (scanner_hexEscape? verbose width) rest).map fun _ _ => rfl
    have hproperty : ∀ negated, Scanner fun rest =>
        (propertyEscape? verbose (skipGap verbose rest)).map fun p =>
          (Escape.named p.1 negated, p.2) := fun negated rest =>
      ((skips_skipGap verbose).then (scanner_propertyEscape? verbose) rest).map
        (j := fun n => .named n negated) fun _ _ => rfl
    have hboundary : Scanner fun rest =>
        (boundaryEscape? verbose rest).map fun p => (Escape.mark p.1, p.2) := fun rest =>
      (scanner_boundaryEscape? verbose rest).map fun _ _ => rfl
    simp only [List.mem_cons, List.not_mem_nil, or_false] at hc
    rcases hc with rfl | rfl | rfl | rfl | rfl | rfl
    · exact hhex 2
    · exact hhex 4
    · exact hhex 8
    · exact hproperty false
    · exact hproperty true
    · exact hboundary
  · obtain ⟨o, ho⟩ := escape?_cons_of_not_mem hc verbose
    simp only [ho]
    exact .option o _

/-! ### Groups -/

theorem takeWhile_append_closing {p : Char → Bool} (hp : p ')' = false) (text : List Char) :
    (text ++ wholeClosing).takeWhile p = text.takeWhile p := by
  induction text with
  | nil => simp [wholeClosing, hp]
  | cons c rest ih => simp only [List.cons_append, List.takeWhile_cons, ih]

/-- The first occurrence of a character that the closing does not have. -/
theorem scanner_cut? {c : Char} (hc : c ∉ wholeClosing) : Scanner (Text.cut? [c]) := by
  intro text
  induction text with
  | nil =>
    rw [List.nil_append, Text.cut?_singleton_of_not_mem hc,
      Text.cut?_singleton_of_not_mem List.not_mem_nil]
    exact .fail []
  | cons d rest ih =>
    by_cases hd : d = c
    · subst hd
      have hcut : ∀ text, Text.cut? [d] (d :: text) = some ([], text) := fun text =>
        Text.cut?_singleton List.not_mem_nil text
      rw [List.cons_append, hcut, hcut]
      exact (Agree.done [] rest).cons d
    · have hcut : ∀ text, Text.cut? [c] (d :: text) =
          (Text.cut? [c] text).map fun p => (d :: p.1, p.2) := by
        intro text
        have hprefix : [c].isPrefixOf (d :: text) = false := by
          simpa [List.isPrefixOf] using Ne.symm hd
        rw [Text.cut?, hprefix, if_neg (by simp)]
      rw [List.cons_append, hcut, hcut]
      exact (ih.map fun _ _ => rfl).cons d

theorem scanner_groupName? : Scanner groupName? := fun text =>
  (scanner_cut? (by decide : '>' ∉ wholeClosing) text).bind fun name behind => by
    dsimp only
    split
    · exact .done _ behind
    · exact .fail behind

theorem scanner_flagEnd? (change : FlagChange) : Scanner (flagEnd? change) := by
  refine .next rfl fun c => ?_
  by_cases hcolon : c = ':'
  · subst hcolon
    exact .done _
  by_cases hclose : c = ')'
  · subst hclose
    simp only [flagEnd?]
    split
    · exact .fail
    · exact .done _
  have hnone : ∀ rest, flagEnd? change (c :: rest) = none := by
    intro rest
    unfold flagEnd?
    split <;> simp_all
  simp only [hnone]
  exact .fail

theorem scanner_flagToken? : Scanner flagToken? := by
  intro text
  have hpart : isFlagPart ')' = false := by decide
  simp only [flagToken?, takeWhile_append_closing hpart]
  cases flagChange? (text.takeWhile isFlagPart) with
  | none => exact .fail text
  | some change => exact (skips_dropWhile hpart).then (scanner_flagEnd? change) text

theorem groupToken?_of_ne {c d : Char} (hc : c ≠ '<') (hd : c ≠ 'P' ∨ d ≠ '<') (rest : List Char) :
    groupToken? ('?' :: c :: d :: rest) = flagToken? (c :: d :: rest) := by
  unfold groupToken?
  split <;> simp_all

theorem scanner_groupToken? : Scanner groupToken? := by
  refine .byHead (by decide : '?' ≠ ')') (fun rest => ?_) (fun text htext => ?_)
    (.done (PatternToken.groupStart none []))
  · have hname : ∀ rest, Agree rest
        ((groupName? rest).map fun p => (PatternToken.groupStart (some p.1) [], p.2))
        ((groupName? (rest ++ wholeClosing)).map fun p =>
          (PatternToken.groupStart (some p.1) [], p.2)) := fun rest =>
      (scanner_groupName? rest).map (j := fun name => .groupStart (some name) []) fun _ _ => rfl
    refine Agree.cons ?_ '?'
    rcases rest with _ | ⟨c, _ | ⟨d, rest⟩⟩
    · exact scanner_flagToken? []
    · by_cases hc : c = '<'
      · subst hc
        exact (hname []).cons '<'
      · have halone : groupToken? ['?', c] = flagToken? [c] := by
          unfold groupToken?
          split <;> simp_all
        have hclosing := groupToken?_of_ne hc (.inr (by decide : ')' ≠ '<')) ['$']
        have hflag := scanner_flagToken? [c]
        rwa [← halone, List.singleton_append, wholeClosing, ← hclosing] at hflag
    · by_cases hc : c = '<'
      · subst hc
        exact (hname (d :: rest)).cons '<'
      by_cases hd : c = 'P' ∧ d = '<'
      · obtain ⟨rfl, rfl⟩ := hd
        exact ((hname rest).cons '<').cons 'P'
      · have hd' : c ≠ 'P' ∨ d ≠ '<' := Decidable.not_and_iff_not_or_not.mp hd
        simp only [List.cons_append, groupToken?_of_ne hc hd']
        exact scanner_flagToken? (c :: d :: rest)
  · unfold groupToken?
    split <;> simp_all

/-! ### Repetitions -/

theorem skips_afterLazy : Skips afterLazy :=
  .byHead (by decide : '?' ≠ ')') (fun rest => (Agree.done () rest).cons '?')
    (fun text htext => by
      unfold afterLazy
      split
      · simp at htext
      · rfl)
    (.done ())

theorem scanner_bound? (verbose : Bool) : Scanner (bound? verbose) :=
  .byHead (by decide : '}' ≠ ')') (fun rest => .done none ('}' :: rest))
    (fun text htext => by
      unfold bound?
      split
      · simp at htext
      · rfl)
    fun text => (scanner_count? verbose text).map fun _ _ => rfl

theorem scanner_greatestCount? (verbose : Bool) (least : Nat) :
    Scanner (greatestCount? verbose least) :=
  .byHead (by decide : ',' ≠ ')')
    (fun rest => ((skips_skipGap verbose).then (scanner_bound? verbose) rest).cons ',')
    (fun text htext => by
      unfold greatestCount?
      split
      · simp at htext
      · rfl)
    (.done (some least))

theorem scanner_closedCount? (verbose : Bool) (least : Nat) (greatest : Option Nat) :
    Scanner (closedCount? verbose least greatest) := by
  refine .byHead (by decide : '}' ≠ ')') (fun rest => ?_) (fun text htext => ?_) .fail
  · simp only [closedCount?]
    split
    · have hskip := (skips_skipGap verbose).then skips_afterLazy
      exact ((hskip rest).map
        (k := fun p => (PatternToken.repetition least greatest, p.2)) fun _ _ => rfl).cons '}'
    · exact .fail _
  · unfold closedCount?
    split
    · simp at htext
    · rfl

theorem scanner_countedToken? (verbose : Bool) : Scanner (countedToken? verbose) := fun text =>
  ((skips_skipGap verbose).then (scanner_count? verbose) text).bind fun least behind =>
    (scanner_greatestCount? verbose least behind).bind fun greatest =>
      scanner_closedCount? verbose least greatest

/-! ### Classes in brackets -/

theorem scanner_asciiOpening? : Scanner asciiOpening? := by
  refine .byHead (by decide : ':' ≠ ')') (fun rest => ?_) (fun text htext => ?_) .fail
  · cases rest with
    | nil => exact (Agree.done false []).cons ':'
    | cons c rest =>
      by_cases hc : c = '^'
      · subst hc
        exact ((Agree.done true rest).cons '^').cons ':'
      · have hplain : ∀ rest, asciiOpening? (':' :: c :: rest) = some (false, c :: rest) := by
          intro rest
          unfold asciiOpening?
          split <;> simp_all
        rw [List.cons_append, hplain, hplain]
        exact (Agree.done false (c :: rest)).cons ':'
  · unfold asciiOpening?
    split <;> simp_all

theorem scanner_closedMember? (member : ClassMember) : Scanner (closedMember? member) :=
  .byHead (by decide : ']' ≠ ')') (fun rest => (Agree.done member rest).cons ']')
    (fun text htext => by
      unfold closedMember?
      split
      · simp at htext
      · rfl)
    .fail

theorem scanner_asciiClass? : Scanner asciiClass? := by
  intro text
  refine (scanner_asciiOpening? text).bind fun negated text => ?_
  refine (scanner_cut? (by decide : ':' ∉ wholeClosing) text).bind fun name behind => ?_
  dsimp only
  cases AsciiClass.all.lookup (String.ofList name) with
  | none => exact .fail behind
  | some cls => exact scanner_closedMember? (.named (.ascii cls) negated) behind

theorem scanner_classItem?_cons (verbose : Bool) (c : Char) :
    Scanner fun rest => classItem? verbose (c :: rest) := by
  by_cases hc : c = '\\'
  · subst hc
    exact scanner_escape? verbose
  · have hplain : ∀ rest, classItem? verbose (c :: rest) = some (.literal ⟨c, false⟩, rest) := by
      intro rest
      unfold classItem?
      split <;> simp_all
    simp only [hplain]
    exact .done _

theorem scanner_classItem? (verbose : Bool) : Scanner (classItem? verbose) :=
  .next rfl (scanner_classItem?_cons verbose)

theorem memberFrom?_of_hyphen {verbose : Bool} (h : skipGap verbose text = '-' :: rest)
    (item : Escape) : memberFrom? verbose item text =
      if peek? verbose rest = some ']' ∨ peek? verbose rest = some '-' then
        item.member?.map (·, text)
      else
        (classItem? verbose (skipGap verbose rest)).bind fun (last, behind) =>
          (item.rangeTo? last).map (·, behind) := by
  rw [memberFrom?, h]
  rfl

theorem memberFrom?_of_not_hyphen {verbose : Bool} (h : (skipGap verbose text).head? ≠ some '-')
    (item : Escape) : memberFrom? verbose item text = item.member?.map (·, text) := by
  unfold memberFrom?
  split <;> simp_all

theorem scanner_memberFrom? (verbose : Bool) (item : Escape) :
    Scanner (memberFrom? verbose item) := by
  intro text
  obtain ⟨rest, hsuffix, hrest, hrest'⟩ | ⟨hhead, hhead'⟩ :=
    (skips_skipGap verbose).head_cases (by decide : '-' ≠ ')') text
  · have hends : (peek? verbose (rest ++ wholeClosing) = some ']' ∨
        peek? verbose (rest ++ wholeClosing) = some '-') ↔
        (peek? verbose rest = some ']' ∨ peek? verbose rest = some '-') := by
      rw [peek?_append_closing]
      cases peek? verbose rest <;> simp
    rw [memberFrom?_of_hyphen hrest, memberFrom?_of_hyphen hrest']
    simp only [hends]
    split
    · exact Scanner.option _ _ text
    · refine Agree.mono ?_ hsuffix
      refine ((skips_skipGap verbose).then (scanner_classItem? verbose) rest).bind
        fun last behind => ?_
      exact Scanner.option (item.rangeTo? last) id behind
  · rw [memberFrom?_of_not_hyphen hhead, memberFrom?_of_not_hyphen hhead']
    exact Scanner.option _ _ text

theorem scanner_classMember? (verbose : Bool) (c : Char) :
    Scanner fun rest => classMember? verbose (c :: rest) := fun rest =>
  (scanner_classItem?_cons verbose c rest).bind fun item => scanner_memberFrom? verbose item

theorem scanner_setOperation? (c : Char) : Scanner (setOperation? c) := by
  refine .next rfl fun d rest => ?_
  simp only [setOperation?]
  split
  · exact Scanner.option _ _ rest
  · exact .fail rest

theorem suffix_of_asciiClass? {member : ClassMember}
    (h : asciiClass? text = some (member, behind)) : ']' :: behind <:+ text := by
  obtain ⟨⟨negated, text'⟩, hopening, h⟩ := Option.bind_eq_some_iff.mp h
  obtain ⟨⟨name, last⟩, hname, h⟩ := Option.bind_eq_some_iff.mp h
  obtain ⟨cls, -, h⟩ := Option.bind_eq_some_iff.mp h
  have hsuffix := ((scanner_cut? (by decide : ':' ∉ wholeClosing) text').suffix hname).trans
    ((scanner_asciiOpening? text).suffix hopening)
  simp only [closedMember?] at h
  split at h
  · cases h
    exact hsuffix
  · cases h

theorem of_setOperation? {c : Char} {op : SetOperation}
    (h : setOperation? c text = some (op, behind)) :
    c ∉ wholeClosing ∧ c :: behind <:+ text := by
  cases text with
  | nil => cases h
  | cons d rest =>
    simp only [setOperation?] at h
    split at h
    · rename_i hd
      obtain ⟨op, hop, heq⟩ := Option.map_eq_some_iff.mp h
      cases heq
      refine ⟨fun hc => ?_, hd ▸ List.suffix_rfl⟩
      simp only [wholeClosing, List.mem_cons, List.not_mem_nil, or_false] at hc
      obtain rfl | rfl := hc
      · cases hop
      · cases hop
    · cases h

/-! ### Tokens -/

namespace LexState

variable {s : LexState}

theorem scanner_outside? (s : LexState) (c : Char) : Scanner (s.outside? c) := by
  have hlazy : ∀ token : PatternToken, Scanner fun rest => some (token, afterLazy rest) :=
    fun token rest => (skips_afterLazy rest).map (k := fun p => (token, p.2)) fun _ _ => rfl
  intro rest
  unfold outside?
  split
  · exact (skips_skipGap s.verbose).then scanner_groupToken? rest
  · exact .done _ rest
  · exact .done _ rest
  · exact hlazy _ rest
  · exact hlazy _ rest
  · exact hlazy _ rest
  · exact scanner_countedToken? s.verbose rest
  · exact .done _ rest
  · exact .done _ rest
  · exact .done _ rest
  · exact (scanner_escape? s.verbose rest).map fun _ _ => rfl
  · exact .done _ rest

/-- What is read, with the state and the text behind it. -/
def together : PatternToken × LexState × List Char → (PatternToken × LexState) × List Char
  | (token, next, behind) => ((token, next), behind)

theorem together_eq_iff {p : PatternToken × LexState × List Char} {token : PatternToken}
    {next : LexState} : together p = ((token, next), behind) ↔ p = (token, next, behind) := by
  obtain ⟨token', next', behind'⟩ := p
  simp [together, and_assoc]

theorem scanner_openBracket (s : LexState) :
    Scanner fun rest => some (together (s.openBracket rest)) := by
  intro rest
  obtain ⟨behind, hsuffix, hrest, hrest'⟩ | ⟨hhead, hhead'⟩ :=
    (skips_skipGap s.verbose).head_cases (by decide : '^' ≠ ')') rest
  · simp only [openBracket, hrest, hrest']
    exact (Agree.done _ behind).mono hsuffix
  · have hplain : ∀ {rest}, (skipGap s.verbose rest).head? ≠ some '^' → s.openBracket rest =
        (.classStart false, { s with depth := s.depth + 1, place := .first }, rest) := by
      intro rest hhead
      unfold openBracket
      dsimp only
      split <;> simp_all
    dsimp only
    rw [hplain hhead, hplain hhead']
    exact .done _ rest

theorem scanner_inside? (s : LexState) (c : Char) :
    Scanner fun rest => (s.inside? c rest).map together := by
  intro rest
  simp only [inside?]
  split
  · exact .done _ rest
  split
  · split
    · exact .done _ rest
    · exact .done _ rest
  split
  · obtain ⟨hnone, hnone'⟩ | ⟨member, before, hsome, hsome'⟩ :=
      (scanner_asciiClass? rest).both fun hread =>
        exists_of_cons_suffix (by decide) (suffix_of_asciiClass? hread)
    · rw [hnone, hnone']
      exact scanner_openBracket s rest
    · rw [hsome, hsome']
      exact (Agree.done _ before).mono ((scanner_asciiClass? rest).suffix hsome)
  · obtain ⟨hnone, hnone'⟩ | ⟨op, before, hsome, hsome'⟩ :=
      (scanner_setOperation? c rest).both fun hread => by
        obtain ⟨hc, hsuffix⟩ := of_setOperation? hread
        exact exists_of_cons_suffix hc hsuffix
    · rw [hnone, hnone']
      simp only [Option.map_map]
      exact (scanner_classMember? s.verbose c rest).map
        (j := fun m => (.classMember m, { s with place := .later })) fun _ _ => rfl
    · rw [hsome, hsome']
      exact (Agree.done _ before).mono ((scanner_setOperation? c rest).suffix hsome)

/-- Tokens are read in the same way with and without the closing behind the text. -/
theorem scanner_lexeme? (s : LexState) (c : Char) :
    Scanner fun rest => (s.lexeme? c rest).map together := by
  intro rest
  simp only [lexeme?]
  split
  · exact scanner_inside? s c rest
  split
  · exact scanner_openBracket s rest
  · simp only [Option.bind_eq_bind, Option.map_bind]
    refine (scanner_outside? s c rest).bind fun token behind => ?_
    simp only [Function.comp_apply]
    cases s.after? token with
    | none => exact .fail behind
    | some next => exact .done (token, next) behind

end LexState

end DocTemplate.Pattern

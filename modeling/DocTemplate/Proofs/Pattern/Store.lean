import DocTemplate.Function.Logic
import DocTemplate.Pattern.Store

/-!
# Runs of a store of patterns

Whatever has been asked before, and whichever patterns were given up for it, a store answers as a
new one does. It never holds more patterns than it has room for, and each of them is the one that
its text is read as.

## Main definitions

* `PatternStore.Call` — a question to a store.
* `PatternStore.after` — the store after several questions.
* `PatternStore.Sound` — a store within its capacity that holds what its texts are read as.

## Main statements

* `PatternStore.Sound.isMatch` — a sound store answers as any other one does, and stays sound.
* `PatternStore.after_answers_afresh` — the same for the stores that are reached.
-/

namespace DocTemplate.PatternStore

/-- A question to a store. If the store has to give up a pattern, `choice` says which one. -/
structure Call where
  choice : Nat
  args : List Value

/-- The text of the pattern that is asked for. -/
def Call.pattern? (call : Call) : Option String :=
  match call.args with
  | [.string _, .string pattern] => some pattern
  | _ => none

/-- What is answered, and the store afterwards. -/
def ask (s : PatternStore) (call : Call) : Except CallError Value × PatternStore :=
  s.isMatch call.choice call.args

/-- The store after several questions. -/
def after (s : PatternStore) (calls : List Call) : PatternStore :=
  calls.foldl (fun s call => (s.ask call).2) s

variable {s : PatternStore} {used : List String} {text : String}

/-- The answer to a question about two texts. -/
theorem ask_of_texts (s : PatternStore) (choice : Nat) (text pattern : String) :
    s.ask ⟨choice, [.string text, .string pattern]⟩ =
      (.ok (.boolean ((s.fetch choice pattern).1.any (·.occursIn text))),
        (s.fetch choice pattern).2) :=
  rfl

/-- What is answered without any store. -/
def Call.answer (call : Call) : Except CallError Value :=
  (Builtin.total2 fun text pattern => .boolean (text.isMatch pattern)).call call.args

/-- A question that is not about two texts is answered without the store. -/
theorem ask_of_pattern?_eq_none (s : PatternStore) {call : Call} (h : call.pattern? = none) :
    s.ask call = (call.answer, s) := by
  obtain ⟨choice, args⟩ := call
  rcases args with - | ⟨text, - | ⟨pattern, - | ⟨more, rest⟩⟩⟩
  · rfl
  · cases text <;> rfl
  · cases text with
    | string text =>
      cases pattern with
      | string pattern => cases h
      | _ => rfl
    | _ => rfl
  · cases text <;> cases pattern <;> rfl

theorem exists_texts {call : Call} {pattern : String} (h : call.pattern? = some pattern) :
    ∃ text, call.args = [.string text, .string pattern] := by
  unfold Call.pattern? at h
  split at h
  · rename_i text pattern hargs
    cases h
    exact ⟨text, hargs⟩
  · cases h

/-- A store within its capacity. No text has two patterns, every pattern is the one that its text is
read as, and every text has been used. -/
structure Sound (used : List String) (s : PatternStore) : Prop where
  size_le : s.size ≤ capacity
  nodup : (s.held.map (·.1)).Nodup
  reads : ∀ entry ∈ s.held, entry.2 = Pattern.wholeText? entry.1
  used : ∀ entry ∈ s.held, entry.1 ∈ used

theorem sound_empty : Sound [] empty :=
  ⟨Nat.zero_le _, List.nodup_nil, List.forall_mem_nil _, List.forall_mem_nil _⟩

namespace Sound

theorem mono {more : List String} (h : Sound used s) (hsubset : used ⊆ more) : Sound more s :=
  ⟨h.size_le, h.nodup, h.reads, fun entry hentry => hsubset (h.used entry hentry)⟩

/-- A full store gives up one pattern, whichever it is. -/
theorem withRoom (h : Sound used s) (choice : Nat) :
    Sound used (s.withRoom choice) ∧ (s.withRoom choice).size < capacity ∧
      (s.withRoom choice).held ⊆ s.held := by
  unfold PatternStore.withRoom
  split
  · rename_i hfull
    have hpos : 0 < s.size := Nat.lt_of_lt_of_le (by decide : 0 < capacity) hfull
    have hsublist : (s.held.eraseIdx (choice % s.size)).Sublist s.held := List.eraseIdx_sublist ..
    have hsize : (s.held.eraseIdx (choice % s.size)).length + 1 = s.size := by
      have hlt : choice % s.size < s.held.length := Nat.mod_lt choice hpos
      rw [List.length_eraseIdx_of_lt hlt]
      exact Nat.sub_add_cancel hpos
    have hle := h.size_le
    refine ⟨⟨?_, h.nodup.sublist (hsublist.map _), ?_, ?_⟩, ?_, hsublist.subset⟩
    · simp only [size] at hsize hle ⊢
      omega
    · exact fun entry hentry => h.reads entry (hsublist.subset hentry)
    · exact fun entry hentry => h.used entry (hsublist.subset hentry)
    · simp only [size] at hsize hle ⊢
      omega
  · rename_i hroom
    exact ⟨h, Nat.lt_of_not_le hroom, List.Subset.refl _⟩

theorem lookup_eq (h : Sound used s) {found : Option Pattern}
    (hfound : s.held.lookup text = some found) : found = Pattern.wholeText? text := by
  obtain ⟨before, behind, hheld, -⟩ := List.lookup_eq_some_iff.mp hfound
  exact h.reads (text, found) (by simp [hheld])

theorem not_mem_of_lookup_eq_none (h : s.held.lookup text = none) :
    ∀ entry ∈ s.held, entry.1 ≠ text := by
  rintro entry hentry rfl
  simpa using List.lookup_eq_none_iff.mp h entry hentry

/-- The pattern of a text is what the text is read as, and it is held afterwards. -/
theorem fetch (h : Sound used s) (choice : Nat) (text : String) :
    (s.fetch choice text).1 = Pattern.wholeText? text ∧
      Sound (text :: used) (s.fetch choice text).2 ∧
      (s.fetch choice text).2.held.lookup text = some (Pattern.wholeText? text) := by
  have hmore := h.mono (List.subset_cons_self text used)
  unfold PatternStore.fetch
  split
  · rename_i found hfound
    obtain rfl := h.lookup_eq hfound
    exact ⟨rfl, hmore, hfound⟩
  · rename_i hnone
    obtain ⟨hroom, hsize, hsubset⟩ := hmore.withRoom choice
    refine ⟨rfl, ⟨hsize, ?_, ?_, ?_⟩, by simp⟩
    · refine List.nodup_cons.mpr ⟨fun hmem => ?_, hroom.nodup⟩
      obtain ⟨entry, hentry, heq⟩ := List.mem_map.mp hmem
      exact not_mem_of_lookup_eq_none hnone entry (hsubset hentry) heq
    · rintro entry (- | ⟨_, hentry⟩)
      · rfl
      · exact hroom.reads entry hentry
    · rintro entry (- | ⟨_, hentry⟩)
      · exact List.mem_cons_self
      · exact hroom.used entry hentry

/-- A sound store answers as if there were none, and stays sound. -/
theorem ask (h : Sound used s) (call : Call) :
    (s.ask call).1 = call.answer ∧ Sound (call.pattern?.toList ++ used) (s.ask call).2 ∧
      ∀ pattern, call.pattern? = some pattern →
        (s.ask call).2.held.lookup pattern = some (Pattern.wholeText? pattern) := by
  cases hpattern : call.pattern? with
  | none =>
    rw [ask_of_pattern?_eq_none s hpattern]
    exact ⟨rfl, h, nofun⟩
  | some pattern =>
    obtain ⟨choice, args⟩ := call
    obtain ⟨text, rfl⟩ : ∃ text, args = [.string text, .string pattern] := exists_texts hpattern
    obtain ⟨hfound, hsound, hheld⟩ := h.fetch choice pattern
    rw [ask_of_texts, hfound]
    refine ⟨rfl, hsound, ?_⟩
    rintro _ ⟨⟩
    exact hheld

/-- A sound store is sound after any questions. -/
theorem after (h : Sound used s) (calls : List Call) :
    Sound ((calls.filterMap Call.pattern?).reverse ++ used) (s.after calls) := by
  induction calls generalizing used s with
  | nil => exact h
  | cons call calls ih =>
    refine (ih (h.ask call).2.1).mono fun pattern hpattern => ?_
    cases hcall : call.pattern? <;> simp_all

end Sound

/-- Whatever has been asked before, and whichever patterns had to go, a store answers as an empty
one does. After each question it holds 100 patterns at most, no text has two of them, each is what
its text is read as, and its text has been used in a question. The pattern that was asked for is
held, well-formed or not; a question that is not about two texts leaves the store as it was. -/
theorem after_answers_afresh (calls : List Call) (call : Call) :
    let s := empty.after calls
    let next := (s.ask call).2
    (∀ choice, (s.ask call).1 = (empty.ask { call with choice }).1) ∧
    next.size ≤ 100 ∧ (next.held.map (·.1)).Nodup ∧
    (∀ entry ∈ next.held, entry.2 = Pattern.wholeText? entry.1 ∧
      ∃ earlier ∈ calls ++ [call], ∃ text,
        earlier.args = [.string text, .string entry.1]) ∧
    (∀ text pattern, call.args = [.string text, .string pattern] →
      next.held.lookup pattern = some (Pattern.wholeText? pattern)) ∧
    ((∀ text pattern, call.args ≠ [.string text, .string pattern]) → next = s) := by
  intro s next
  have hs := sound_empty.after calls
  obtain ⟨hanswer, hnext, hheld⟩ := hs.ask call
  refine ⟨fun choice => ?_, hnext.size_le, hnext.nodup, fun entry hentry => ?_, ?_, ?_⟩
  · exact hanswer.trans (sound_empty.ask { call with choice }).1.symm
  · refine ⟨hnext.reads entry hentry, ?_⟩
    have hused := hnext.used entry hentry
    obtain ⟨earlier, hearlier, hpattern⟩ :
        ∃ earlier ∈ calls ++ [call], earlier.pattern? = some entry.1 := by
      simpa [or_comm, or_and_right, exists_or] using hused
    exact ⟨earlier, hearlier, exists_texts hpattern⟩
  · intro text pattern hargs
    exact hheld pattern (by simp [Call.pattern?, hargs])
  · intro hargs
    cases hpattern : call.pattern? with
    | none => simp only [next, ask_of_pattern?_eq_none s hpattern]
    | some pattern =>
      obtain ⟨text, htexts⟩ := exists_texts hpattern
      exact absurd htexts (hargs text pattern)

/-- After more patterns than there is room for, one that is not well-formed is held. -/
theorem after_answers_afresh_full :
    let calls := (List.range 101).map fun n => Call.mk n [.string "a", .string (toString n)]
    let call : Call := ⟨50, [.string "a", .string "("]⟩
    let next := ((empty.after calls).ask call).2
    next.size ≤ 100 ∧ next.held.lookup "(" = some none ∧
      ((empty.after calls).ask call).1 = (empty.ask { call with choice := 0 }).1 := by
  intro calls call next
  obtain ⟨hanswer, hsize, -, -, hheld, -⟩ := after_answers_afresh calls call
  have hnone : Pattern.wholeText? "(" = none := by decide
  exact ⟨hsize, hnone ▸ hheld "a" "(" rfl, hanswer 0⟩

end DocTemplate.PatternStore

import DocTemplate.Proofs.Cache.Accounting

/-!
# The age of what a cache serves

What is served from a cache was stored no longer ago than its lifetime, however often it was served
since. A source whose lifetime is over is read again, and a purge removes the entries whose lifetime
is over and nothing else.

## Main definitions

* `Cache.LastStored` — what was stored for a source last, and when.
* `Cache.Current` — what was stored for a source last and has not outlived its time.
* `Cache.Answers` — what a fetch may answer.
* `Cache.Dated` — a cache whose entries say when they were stored.

## Main statements

* `Cache.Moves.origin` — where the entries after an event come from.
* `Cache.Dated.served` — what is served has not outlived its time.
* `Cache.Dated.answers` — every fetch answers what it may.
* `Cache.Dated.read_again` — what has outlived its time is read again.
* `Cache.runAll_expires` — all this holds at every moment of a run.
-/

namespace DocTemplate.Cache

variable {α ε : Type} {c d : Cache α} {event : Event α} {e f : CacheEntry α} {source : String}
  {content : α} {lifetime : Option Nat} {time : Nat} {ms : List (Change α)}

/-- Whether something is stored for a source. -/
def Event.stores (source : String) : Event α → Bool
  | .stored s _ => s == source
  | _ => false

/-- At the clock of a change `content` was stored for a source. Since then nothing else was stored
for it, and the cache was not cleared. -/
def LastStored (ms : List (Change α)) (source : String) (content : α) (time : Nat) : Prop :=
  ∃ earlier m later, ms = earlier ++ m :: later ∧ m.event = .stored source content ∧
    m.before.clock = time ∧ ∀ n ∈ later, n.event.discards source = false

namespace LastStored

theorem pass (h : LastStored ms source content time) (hevent : event.discards source = false) :
    LastStored (ms ++ [⟨c, event, d⟩]) source content time := by
  obtain ⟨earlier, m, later, rfl, hm, htime, hlater⟩ := h
  refine ⟨earlier, m, later ++ [⟨c, event, d⟩], by simp, hm, htime, ?_⟩
  simpa [or_imp, forall_and] using ⟨hlater, hevent⟩

theorem getLast?_filter (h : LastStored ms source content time) :
    ∃ m, (ms.filter (·.event.discards source)).getLast? = some m ∧
      m.event = .stored source content ∧ m.before.clock = time := by
  obtain ⟨earlier, m, later, rfl, hm, htime, hlater⟩ := h
  have hdiscards : m.event.discards source = true := by simp [hm, Event.discards]
  have hnil : later.filter (·.event.discards source) = [] :=
    List.filter_eq_nil_iff.mpr fun n hn => by simp [hlater n hn]
  exact ⟨m, by simp [List.filter_append, hdiscards, hnil], hm, htime⟩

/-- Only one change can be the last one at which something was stored for a source. -/
theorem unique {content' : α} {time' : Nat} (h : LastStored ms source content time)
    (h' : LastStored ms source content' time') : content = content' ∧ time = time' := by
  obtain ⟨m, hlast, hm, rfl⟩ := h.getLast?_filter
  obtain ⟨m', hlast', hm', rfl⟩ := h'.getLast?_filter
  obtain rfl : m = m' := Option.some.inj (hlast.symm.trans hlast')
  rw [hm] at hm'
  cases hm'
  exact ⟨rfl, rfl⟩

end LastStored

/-- `content` is what was stored for a source last, and it has not outlived its time. -/
def Current (lifetime : Option Nat) (ms : List (Change α)) (c : Cache α) (source : String)
    (content : α) : Prop :=
  ∃ time, LastStored ms source content time ∧ ∀ span ∈ lifetime, c.clock ≤ time + span

/-- What was stored too long ago is not current, nor is anything else of its source. -/
theorem Current.not_over {content' : α} (h : Current lifetime ms c source content)
    (hlast : LastStored ms source content' time) {span : Nat} (hspan : lifetime = some span) :
    ¬time + span < c.clock := by
  obtain ⟨time', hlast', hfresh⟩ := h
  obtain ⟨-, rfl⟩ := hlast.unique hlast'
  exact Nat.not_lt.mpr (hfresh span hspan)

/-- What a fetch may answer that finds the cache `c` after the changes `ms`. It answers what is
current, or it has the source read. If that fails it answers the error. Otherwise it answers what
reading gave, or what is current when reading is over. -/
inductive Answers (lifetime : Option Nat) (ms : List (Change α)) (c : Cache α) (source : String)
    (during : List (Step α ε)) : Except ε α → Answer α ε → Prop
  | served {outcome : Except ε α} {content : α} (h : Current lifetime ms c source content) :
      Answers lifetime ms c source during outcome (.fetched (.ok content) none)
  | failed {d : Cache α} {error : ε} (hmiss : Moves c (.miss source) d) :
      Answers lifetime ms c source during (.error error)
        (.fetched (.error error) (some (runAll d during).1))
  | read {d : Cache α} {content : α} (hmiss : Moves c (.miss source) d) :
      Answers lifetime ms c source during (.ok content)
        (.fetched (.ok content) (some (runAll d during).1))
  | joined {d : Cache α} {content served : α} (hmiss : Moves c (.miss source) d)
      (h : Current lifetime (ms ++ ⟨c, .miss source, d⟩ :: changesAll d during)
        (runAll d during).2 source served) :
      Answers lifetime ms c source during (.ok content)
        (.fetched (.ok served) (some (runAll d during).1))

/-- What two entries have in common if one of them is the other one after it was used. -/
def SameOrigin (e f : CacheEntry α) : Prop :=
  e.source = f.source ∧ e.content = f.content ∧ e.storedAt = f.storedAt

theorem exists_sameOrigin_touch (h : f ∈ (c.touch source).entries) :
    ∃ e ∈ c.entries, SameOrigin e f := by
  obtain ⟨e, he, rfl⟩ := List.mem_map.mp h
  refine ⟨e, he, ?_⟩
  split <;> exact ⟨rfl, rfl, rfl⟩

theorem clock_makeRoom (c : Cache α) (source : String) :
    (c.makeRoom source).clock = c.clock :=
  makeRoom_of_erase (P := fun d => d.clock = c.clock) rfl (fun _ _ hd => hd) source

/-- An entry after an event is stored by the event, or it was there before the event, which then
does not discard it. -/
theorem Moves.origin (hmove : Moves c event d) (hf : f ∈ d.entries) :
    (event = .stored f.source f.content ∧ f.storedAt = c.clock) ∨
      (event.discards f.source = false ∧ ∃ e ∈ c.entries, SameOrigin e f) := by
  have hold {e : CacheEntry α} (he : e ∈ c.entries) : ∃ f ∈ c.entries, SameOrigin f e :=
    ⟨e, he, rfl, rfl, rfl⟩
  cases hmove with
  | hit _ _ => exact .inr ⟨rfl, exists_sameOrigin_touch hf⟩
  | absent _ => exact .inr ⟨rfl, hold hf⟩
  | expired _ _ => exact .inr ⟨rfl, hold (List.mem_filter.mp hf).1⟩
  | failed | passed _ => exact .inr ⟨rfl, hold hf⟩
  | joined _ _ => exact .inr ⟨rfl, exists_sameOrigin_touch hf⟩
  | @stored source content _ _ =>
    obtain hf | hf := List.mem_append.mp hf
    · obtain ⟨hmem, hne⟩ := List.mem_filter.mp hf
      refine .inr ⟨beq_eq_false_iff_ne.mpr (Ne.symm (bne_iff_ne.mp hne)), ?_⟩
      exact hold (entries_makeRoom_subset c source hmem)
    · obtain rfl := List.mem_singleton.mp hf
      exact .inl ⟨rfl, clock_makeRoom c source⟩
  | purged => exact .inr ⟨rfl, hold (List.mem_filter.mp hf).1⟩
  | cleared => exact absurd hf List.not_mem_nil
  | waited => exact .inr ⟨rfl, hold hf⟩

/-- An event does not change the lifetime, and time does not go back. -/
theorem Moves.clock (hmove : Moves c event d) : d.lifetime = c.lifetime ∧ c.clock ≤ d.clock := by
  cases hmove with
  | @stored source content _ _ =>
    exact ⟨(settings_makeRoom c source).2, (clock_makeRoom c source).ge⟩
  | waited => exact ⟨rfl, Nat.le_add_right _ _⟩
  | hit | absent | expired | failed | passed | joined | purged | cleared => exact ⟨rfl, le_rfl⟩

/-- Events that store nothing for a source do not bring it back. -/
theorem Moves.contains_eq_false (hmove : Moves c event d)
    (hnot : event.stores source = false) (hc : c.contains source = false) :
    d.contains source = false := by
  rw [Bool.eq_false_iff, Ne, contains_iff_exists] at hc ⊢
  rintro ⟨f, hf, rfl⟩
  obtain ⟨hstored, -⟩ | ⟨-, e, he, hsource, -⟩ := hmove.origin hf
  · simp [hstored, Event.stores] at hnot
  · exact hc ⟨e, he, hsource⟩

theorem Linked.contains_eq_false (h : Linked c ms d)
    (hnot : ∀ m ∈ ms, m.event.stores source = false)
    (hc : c.contains source = false) : d.contains source = false := by
  induction h with
  | nil => exact hc
  | cons hmove _ ih =>
    rw [List.forall_mem_cons] at hnot
    exact ih hnot.2 (hmove.contains_eq_false hnot.1 hc)

theorem isExpired_iff {span : Nat} (h : c.lifetime = some span) :
    c.isExpired e = true ↔ e.storedAt + span < c.clock := by
  simp only [isExpired, h, decide_eq_true_eq]
  omega

/-- A cache with a lifetime, each of whose entries is what was stored for its source last, with the
clock of that change. -/
structure Dated (lifetime : Option Nat) (ms : List (Change α)) (c : Cache α) : Prop where
  lifetime : c.lifetime = lifetime
  entries : ∀ e ∈ c.entries, LastStored ms e.source e.content e.storedAt ∧ e.storedAt ≤ c.clock

theorem dated_empty (capacity : Nat) (lifetime : Option Nat) :
    Dated lifetime [] (empty capacity lifetime : Cache α) :=
  ⟨rfl, List.forall_mem_nil _⟩

namespace Dated

/-- Every event keeps the dates. -/
theorem moves (h : Dated lifetime ms c) (hmove : Moves c event d) :
    Dated lifetime (ms ++ [⟨c, event, d⟩]) d := by
  obtain ⟨hlifetime, hclock⟩ := hmove.clock
  refine ⟨hlifetime.trans h.lifetime, fun f hf => ?_⟩
  obtain ⟨hstored, htime⟩ | ⟨hdiscards, e, he, hsource, hcontent, htime⟩ := hmove.origin hf
  · exact ⟨⟨ms, _, [], rfl, hstored, htime.symm, List.forall_mem_nil _⟩, htime ▸ hclock⟩
  · obtain ⟨hlast, hle⟩ := h.entries e he
    rw [hsource, hcontent, htime] at hlast
    exact ⟨hlast.pass hdiscards, htime ▸ hle.trans hclock⟩

theorem append {later : List (Change α)} (h : Dated lifetime ms c) (hlater : Linked c later d) :
    Dated lifetime (ms ++ later) d :=
  hlater.invariant_changes (P := fun ms c => Dated lifetime ms c) moves ms h

theorem linked {capacity : Nat} (h : Linked (empty capacity lifetime) ms c) :
    Dated lifetime ms c :=
  (dated_empty capacity lifetime).append h

/-- What is served from an entry has not outlived its time. -/
theorem served (h : Dated lifetime ms c) (hmove : Moves c event d)
    (hserved : event = .hit source content ∨ event = .joined source content) :
    Current lifetime ms c source content := by
  obtain ⟨e, he, hfresh, rfl⟩ :
      ∃ e, c.entry? source = some e ∧ c.isExpired e = false ∧ e.content = content := by
    obtain rfl | rfl := hserved
    · cases hmove with
      | hit he hfresh => exact ⟨_, he, hfresh, rfl⟩
    · cases hmove with
      | joined he hfresh => exact ⟨_, he, hfresh, rfl⟩
  obtain rfl : e.source = source := by simpa using List.find?_some he
  refine ⟨e.storedAt, (h.entries e (List.mem_of_find?_eq_some he)).1, fun span hspan => ?_⟩
  have hnot : ¬e.storedAt + span < c.clock := fun hover => by
    simp [(isExpired_iff (h.lifetime.trans hspan)).mpr hover] at hfresh
  omega

/-- A source that was stored too long ago is not found, and nothing of it is left. -/
theorem lookup_over (h : Dated lifetime ms c) (hlast : LastStored ms source content time)
    {span : Nat} (hspan : lifetime = some span) (hover : time + span < c.clock) :
    ∃ d, c.lookup source = (none, d) ∧ d.contains source = false := by
  obtain ⟨served, d, -, hmove⟩ | ⟨d, hl, hmove⟩ := moves_lookup c source
  · exact absurd hover ((h.served hmove (.inl rfl)).not_over hlast hspan)
  · refine ⟨d, hl, ?_⟩
    cases hmove with
    | absent he => exact congrArg Option.isSome he
    | expired => simp [contains, entry?, erase]

/-- When a source was read, what was read is served, or what has been stored meanwhile. -/
theorem store_serves (h : Dated lifetime ms c) (source : String) (content : α) :
    (c.store source content).1 = content ∨
      Current lifetime ms c source (c.store source content).1 := by
  obtain hzero | hpos := Nat.eq_zero_or_pos c.capacity
  · exact .inl (by rw [store, if_pos hzero])
  cases he : c.entry? source with
  | none => exact .inl (by rw [store_of_none hpos he])
  | some e =>
    cases hexpired : c.isExpired e with
    | true => exact .inl (by simp [store, Nat.ne_of_gt hpos, he, hexpired])
    | false =>
      right
      rw [store_of_entry hpos he hexpired]
      exact h.served (.joined he hexpired) (.inr rfl)

/-- Every fetch answers what it may. -/
theorem answers (h : Dated lifetime ms c) (source : String) (during : List (Step α ε))
    (outcome : Except ε α) :
    Answers lifetime ms c source during outcome (run c (.fetch source during outcome)).1 := by
  obtain ⟨served, d, hl, hmove⟩ | ⟨d, hl, hmove⟩ := moves_lookup c source
  · rw [run_fetch_of_hit hl]
    exact .served (h.served hmove (.inl rfl))
  cases outcome with
  | error error =>
    rw [run_fetch_of_error hl rfl]
    exact .failed hmove
  | ok content =>
    rw [run_fetch_of_ok hl rfl]
    -- Reading is over after all that ran meanwhile, so its dates are those of the longer log.
    have hread := h.append (.cons hmove (linked_changesAll d during))
    obtain hsame | hcurrent := hread.store_serves source content
    · rw [hsame]
      exact .read hmove
    · exact .joined hmove hcurrent

/-- A source that was stored too long ago is read again. If that fails, and it is not stored
meanwhile, it is gone. -/
theorem read_again (h : Dated lifetime ms c) (hlast : LastStored ms source content time)
    {span : Nat} (hspan : lifetime = some span) (hover : time + span < c.clock)
    (during : List (Step α ε)) :
    (∀ outcome, ∃ result answers,
      (run c (.fetch source during outcome)).1 = .fetched result (some answers)) ∧
    ∀ error,
      (∀ m ∈ changes c (.fetch source during (.error error)), m.event.stores source = false) →
      (run c (.fetch source during (.error error))).2.contains source = false := by
  obtain ⟨d, hl, hgone⟩ := h.lookup_over hlast hspan hover
  refine ⟨fun outcome => ?_, fun error hnot => ?_⟩
  · cases outcome with
    | error error => exact ⟨_, _, congrArg Prod.fst (run_fetch_of_error hl rfl error)⟩
    | ok a => exact ⟨_, _, congrArg Prod.fst (run_fetch_of_ok hl rfl a)⟩
  · rw [run_fetch_of_error hl rfl]
    refine (linked_changesAll d during).contains_eq_false (fun m hm => hnot m ?_) hgone
    simp [changes, hl, hm]

end Dated

/-- A purge removes the entries whose lifetime is over and counts them. All else stays as it is. -/
theorem purge_exact (c : Cache α) :
    (∀ e, e ∈ c.purge.2.entries ↔
      e ∈ c.entries ∧ ∀ span ∈ c.lifetime, c.clock ≤ e.storedAt + span) ∧
    c.purge.2.entries.Sublist c.entries ∧ c.purge.1 + c.purge.2.size = c.size ∧
    c.purge.2 = { c with entries := c.purge.2.entries } ∧
    (c.lifetime = none → c.purge = (0, c)) := by
  refine ⟨fun e => ?_, List.filter_sublist, ?_, rfl, fun hnone => ?_⟩
  · have hfresh : c.isExpired e = false ↔ ∀ span ∈ c.lifetime, c.clock ≤ e.storedAt + span := by
      cases hlifetime : c.lifetime with
      | none => simp [isExpired, hlifetime]
      | some span =>
        rw [Bool.eq_false_iff, Ne, isExpired_iff hlifetime]
        simp
    simp [purge, hfresh]
  · exact (List.length_eq_length_filter_add c.isExpired).symm
  · have hexpired (e : CacheEntry α) : c.isExpired e = false := by simp [isExpired, hnone]
    simp [purge, hexpired]

/-- At every moment of a run, also while sources are read, the entries are what was stored for their
sources last, with the clock of that time. Whatever a fetch answers then is what reading gave, or it
was stored for the source last, and no longer ago than the lifetime; a source that was stored longer
ago is read again, and is gone if that fails and it is not stored meanwhile. A purge removes exactly
the entries that were stored longer ago, counts them and leaves all else as it is. -/
theorem runAll_expires (capacity : Nat) (lifetime : Option Nat) (steps : List (Step α ε))
    {earlier later : List (Change α)}
    (h : changesAll (empty capacity lifetime) steps = earlier ++ later) :
    ∃ c, Linked (empty capacity lifetime) earlier c ∧
      Linked c later (runAll (empty capacity lifetime) steps).2 ∧
      (∀ e ∈ c.entries, LastStored earlier e.source e.content e.storedAt ∧ e.storedAt ≤ c.clock) ∧
      (∀ source (during : List (Step α ε)) outcome,
        Answers lifetime earlier c source during outcome
          (run c (.fetch source during outcome)).1) ∧
      (∀ source content time span, LastStored earlier source content time →
        lifetime = some span → time + span < c.clock → ∀ during : List (Step α ε),
        (∀ outcome, ∃ result answers,
          (run c (.fetch source during outcome)).1 = .fetched result (some answers)) ∧
        ∀ error,
          (∀ m ∈ changes c (.fetch source during (.error error)),
            m.event.stores source = false) →
          (run c (.fetch source during (.error error))).2.contains source = false) ∧
      (∀ e, e ∈ c.purge.2.entries ↔
        e ∈ c.entries ∧ ∀ span ∈ lifetime, c.clock ≤ e.storedAt + span) ∧
      c.purge.2.entries.Sublist c.entries ∧ c.purge.1 + c.purge.2.size = c.size ∧
      c.purge.2 = { c with entries := c.purge.2.entries } ∧
      (lifetime = none → c.purge = (0, c)) := by
  obtain ⟨c, hearlier, hlater⟩ := (h ▸ linked_changesAll _ steps).exists_between
  have hdated := Dated.linked hearlier
  obtain ⟨hkept, hsublist, hsize, hrest, hnone⟩ := purge_exact c
  rw [hdated.lifetime] at hkept hnone
  exact ⟨c, hearlier, hlater, hdated.entries, hdated.answers,
    fun _ _ _ _ hlast hspan hover => hdated.read_again hlast hspan hover, hkept, hsublist, hsize,
    hrest, hnone⟩

/-- A use does not put off the end of what was stored before: when its time is over the source is
read again, and what is read then is answered. -/
theorem runAll_expires_in_spite_of_hit :
    let steps : List (Step Nat Unit) :=
      [.fetch "a" [] (.ok 1), .wait 5, .fetch "a" [] (.ok 2), .wait 4]
    ∃ c, Linked (empty 1 (some 8)) (changesAll (empty 1 (some 8)) steps) c ∧
      c.contains "a" = true ∧ c.uses? "a" = some 1 ∧
      (∃ answers, (run c (.fetch "a" [] (.ok 3) : Step Nat Unit)).1 =
        .fetched (.ok 3) (some answers)) ∧
      (run c (.fetch "a" [] (.error ()) : Step Nat Unit)).2.contains "a" = false := by
  intro steps
  have h : changesAll (empty 1 (some 8)) steps = changesAll (empty 1 (some 8)) steps ++ [] :=
    (List.append_nil _).symm
  obtain ⟨c, hearlier, hlater, -, hanswers, hover, -⟩ := runAll_expires 1 (some 8) steps h
  have hlast : LastStored (changesAll (empty 1 (some 8)) steps) "a" 1 0 :=
    ⟨[_], _, _, rfl, rfl, rfl, by decide +kernel⟩
  obtain rfl : c = (runAll (empty 1 (some 8)) steps).2 := by
    cases hlater
    rfl
  obtain ⟨hread, hgone⟩ := hover "a" 1 0 8 hlast rfl (by decide +kernel) []
  refine ⟨_, hearlier, by decide +kernel, by decide +kernel, ?_, hgone () (by decide +kernel)⟩
  obtain ⟨result, answers, hresult⟩ := hread (.ok 3)
  have hanswer := hanswers "a" [] (.ok 3)
  rw [hresult] at hanswer ⊢
  cases hanswer with
  | read _ => exact ⟨_, rfl⟩
  | @joined d _ _ hmiss hcurrent =>
    have hclock : 0 + 8 < d.clock := Nat.lt_of_lt_of_le (by decide +kernel) hmiss.clock.2
    exact absurd hclock (hcurrent.not_over (hlast.pass rfl) rfl)

end DocTemplate.Cache

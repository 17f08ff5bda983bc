import DocTemplate.Proofs.Cache.Bounds
import Mathlib.Data.List.DropRight

/-!
# The counters of a cache

What the counters of a cache and of its entries say about the run so far, at every moment of the
run: the hits and misses are those since the cache was cleared last, every miss is a source that is
read once, and an entry counts how often it was served since it was stored.

## Main definitions

* `Cache.sinceCleared` — the events since the cache was cleared last.
* `Cache.Traces` — a log shows when an entry was stored and how often it was served since.
* `Cache.Notice` — what is seen of the fetches of a run from outside.
* `Cache.complete` — what a fetch answers when its source was read.

## Main statements

* `Cache.Accounted.moves` — every event keeps the accounts.
* `Cache.fetch_hit_or_miss` — a fetch reads its source once, or not at all.
* `Cache.runAll_accounts` — the accounts are exact at every moment of a run.
-/

namespace DocTemplate.Cache

variable {α β ε : Type} {c d : Cache α} {n : Nat} {log : List (Event α)} {event : Event α}
  {source : String} {e e' : CacheEntry α}

namespace Event

/-- Whether an event is the lookup of a source. -/
def isLookup : Event α → Bool
  | .hit _ _ | .miss _ => true
  | _ => false

/-- Whether an event is a lookup in vain, at which reading begins. -/
def isMiss : Event α → Bool
  | .miss _ => true
  | _ => false

/-- Whether an event is that the cache is cleared. -/
def isCleared : Event α → Bool
  | .cleared => true
  | _ => false

/-- What is served for a source from its entry. -/
def served? (source : String) : Event α → Option α
  | .hit s served | .joined s served => if s = source then some served else none
  | _ => none

/-- Whether nothing is left after an event of what was stored for a source before. -/
def discards (source : String) : Event α → Bool
  | .stored s _ => s == source
  | .cleared => true
  | _ => false

end Event

/-- The events since the cache was cleared last. -/
def sinceCleared (log : List (Event α)) : List (Event α) :=
  log.rtakeWhile fun event => !event.isCleared

theorem sinceCleared_concat (h : event.isCleared = false) :
    sinceCleared (log ++ [event]) = sinceCleared log ++ [event] := by
  simp [sinceCleared, h]

/-- A log shows when an entry was stored. Since then nothing else was stored for its source, and as
often as the entry counts its content was served, and nothing but its content. -/
def Traces (log : List (Event α)) (e : CacheEntry α) : Prop :=
  ∃ earlier later, log = earlier ++ .stored e.source e.content :: later ∧
    (∀ event ∈ later, event.discards e.source = false) ∧
    later.filterMap (·.served? e.source) = List.replicate e.uses e.content

namespace Traces

theorem pass (h : Traces log e) (hdiscards : event.discards e.source = false)
    (hserved : event.served? e.source = none) : Traces (log ++ [event]) e := by
  obtain ⟨earlier, later, rfl, hlater, huses⟩ := h
  refine ⟨earlier, later ++ [event], by simp, ?_, by simp [huses, hserved]⟩
  simpa [or_imp, forall_and] using ⟨hlater, hdiscards⟩

theorem serve (h : Traces log e) (hdiscards : event.discards e.source = false)
    (hserved : event.served? e.source = some e.content) (tick : Nat) :
    Traces (log ++ [event]) { e with lastUse := tick, uses := e.uses + 1 } := by
  obtain ⟨earlier, later, rfl, hlater, huses⟩ := h
  refine ⟨earlier, later ++ [event], by simp, ?_, ?_⟩
  · simpa [or_imp, forall_and] using ⟨hlater, hdiscards⟩
  · simp [huses, hserved, List.replicate_succ']

/-- What is served for a source from its entry is one use of this entry and of no other. -/
theorem touch (hbounded : c.Bounded n) (he : c.entry? source = some e)
    (h : ∀ f ∈ c.entries, Traces log f) (hdiscards : ∀ s, event.discards s = false)
    (hserved : ∀ s, event.served? s = if source = s then some e.content else none) :
    ∀ f ∈ (c.touch source).entries, Traces (log ++ [event]) f := by
  obtain ⟨es, hranked, -⟩ := hbounded.ranked
  intro f hf
  obtain ⟨g, hg, rfl⟩ := List.mem_map.mp hf
  by_cases hsource : g.source = source
  · have hge : c.entry? source = some g :=
      hranked.entry?_eq_some_iff.mpr ⟨hranked.perm.mem_iff.mpr hg, hsource⟩
    obtain rfl : g = e := Option.some.inj (hge.symm.trans he)
    rw [if_pos (by simpa using hsource)]
    exact (h g hg).serve (hdiscards _) (by rw [hserved, if_pos hsource.symm]) c.ticks
  · rw [if_neg (by simpa using hsource)]
    exact (h g hg).pass (hdiscards _) (by rw [hserved, if_neg (Ne.symm hsource)])

end Traces

theorem counters_makeRoom (c : Cache α) (source : String) :
    (c.makeRoom source).hits = c.hits ∧ (c.makeRoom source).misses = c.misses :=
  makeRoom_of_erase (P := fun d => d.hits = c.hits ∧ d.misses = c.misses) ⟨rfl, rfl⟩
    (fun _ _ hd => hd) source

theorem entries_makeRoom_subset (c : Cache α) (source : String) :
    (c.makeRoom source).entries ⊆ c.entries :=
  makeRoom_of_erase (P := fun d => d.entries ⊆ c.entries) (List.Subset.refl _)
    (fun _ _ hd _ he => hd (List.mem_filter.mp he).1) source

/-- The counters of a cache and of its entries are what the log says. -/
structure Accounted (log : List (Event α)) (c : Cache α) : Prop where
  lookups : c.hits + c.misses = (sinceCleared log).countP Event.isLookup
  misses : c.misses = (sinceCleared log).countP Event.isMiss
  entries : ∀ e ∈ c.entries, Traces log e

theorem accounted_empty (capacity : Nat) (lifetime : Option Nat) :
    Accounted [] (empty capacity lifetime : Cache α) :=
  ⟨rfl, rfl, List.forall_mem_nil _⟩

namespace Accounted

/-- An event that does not clear the cache counts for what it is. -/
theorem count (h : Accounted log c) (hcleared : event.isCleared = false)
    (hlookups : d.hits + d.misses = c.hits + c.misses + if event.isLookup then 1 else 0)
    (hmisses : d.misses = c.misses + if event.isMiss then 1 else 0)
    (hentries : ∀ e ∈ d.entries, Traces (log ++ [event]) e) : Accounted (log ++ [event]) d where
  lookups := by
    rw [sinceCleared_concat hcleared, List.countP_append, List.countP_singleton, ← h.lookups,
      hlookups]
  misses := by
    rw [sinceCleared_concat hcleared, List.countP_append, List.countP_singleton, ← h.misses,
      hmisses]
  entries := hentries

/-- Every event keeps the accounts. -/
theorem moves (h : Accounted log c) (hbounded : c.Bounded n) (hmove : Moves c event d) :
    Accounted (log ++ [event]) d := by
  cases hmove with
  | hit he _ =>
    refine h.count rfl ?_ rfl (Traces.touch hbounded he h.entries (fun _ => rfl) fun _ => rfl)
    exact Nat.add_right_comm c.hits 1 c.misses
  | absent _ =>
    exact h.count rfl rfl rfl fun e he => (h.entries e he).pass rfl rfl
  | expired _ _ =>
    exact h.count rfl rfl rfl fun e he => (h.entries e (List.mem_filter.mp he).1).pass rfl rfl
  | failed | passed _ => exact h.count rfl rfl rfl fun e he => (h.entries e he).pass rfl rfl
  | joined he _ =>
    exact h.count rfl rfl rfl (Traces.touch hbounded he h.entries (fun _ => rfl) fun _ => rfl)
  | @stored source content _ _ =>
    obtain ⟨hhits, hmisses⟩ := counters_makeRoom c source
    have hsum : (c.makeRoom source).hits + (c.makeRoom source).misses = c.hits + c.misses := by
      rw [hhits, hmisses]
    refine h.count rfl hsum hmisses fun e he => ?_
    obtain he | he := List.mem_append.mp he
    · obtain ⟨hmem, hne⟩ := List.mem_filter.mp he
      refine (h.entries e (entries_makeRoom_subset c source hmem)).pass ?_ rfl
      exact beq_eq_false_iff_ne.mpr (Ne.symm (bne_iff_ne.mp hne))
    · obtain rfl := List.mem_singleton.mp he
      exact ⟨log, [], rfl, List.forall_mem_nil _, rfl⟩
  | purged =>
    exact h.count rfl rfl rfl fun e he => (h.entries e (List.mem_filter.mp he).1).pass rfl rfl
  | cleared =>
    have hnil : sinceCleared (log ++ [.cleared]) = [] := by
      simp [sinceCleared, Event.isCleared]
    exact ⟨by rw [hnil]; rfl, by rw [hnil]; rfl, List.forall_mem_nil _⟩
  | waited => exact h.count rfl rfl rfl fun e he => (h.entries e he).pass rfl rfl

end Accounted

/-- What is seen of a fetch from outside: it is served at once, or its source is read, which begins
and ends. -/
inductive Notice (α : Type) where
  | served (content : α)
  | reading
  | read (result : Option α)

/-- What is seen of an event. -/
def Event.notice? : Event α → Option (Notice α)
  | .hit _ served => some (.served served)
  | .miss _ => some .reading
  | .failed _ => some (.read none)
  | .passed _ content | .joined _ content | .stored _ content => some (.read (some content))
  | .purged | .cleared | .waited _ => none

mutual
/-- What an answer shows of the fetches of its step. -/
def Answer.notices : Answer α ε → List (Notice α)
  | .fetched (.ok content) none => [.served content]
  | .fetched result (some during) =>
    .reading :: (Answer.noticesOfAll during ++ [.read result.toOption])
  | _ => []

/-- What the answers of several steps show of their fetches. -/
def Answer.noticesOfAll : List (Answer α ε) → List (Notice α)
  | [] => []
  | answer :: answers => answer.notices ++ Answer.noticesOfAll answers
end

/-- The end of reading a source shows what the fetch answers. -/
theorem notice_finish (c : Cache α) (source : String) (outcome : Except ε α) :
    (c.finish source outcome).event.notice? =
      some (.read (outcome.map fun content => (c.store source content).1).toOption) := by
  cases outcome with
  | error error => rfl
  | ok content =>
    by_cases hzero : c.capacity = 0
    · simp [finish, store, hzero, Event.notice?, Except.map, Except.toOption]
    cases he : c.entry? source with
    | none => simp [finish, store, he, hzero, Event.notice?, Except.map, Except.toOption]
    | some e =>
      cases hexpired : c.isExpired e <;>
        simp [finish, store, he, hexpired, hzero, Event.notice?, Except.map, Except.toOption]

mutual

/-- The fetches among the changes of a step are those that its answer shows. -/
theorem notices_changes (c : Cache α) (step : Step α ε) :
    (changes c step).filterMap (·.event.notice?) = (run c step).1.notices := by
  cases step with
  | fetch source during outcome =>
    obtain ⟨served, d, hl, -⟩ | ⟨d, hl, -⟩ := moves_lookup c source
    · rw [run_fetch_of_hit hl, changes, hl]
      rfl
    · have hfirst : (⟨c, .miss source, d⟩ : Change α).event.notice? = some .reading := rfl
      have hlast := notice_finish (runAll d during).2 source outcome
      simp only [changes, hl, List.filterMap_cons, hfirst, List.filterMap_append,
        notices_changesAll d during, hlast, List.filterMap_nil]
      cases outcome with
      | error error => rw [run_fetch_of_error hl rfl]; rfl
      | ok content => rw [run_fetch_of_ok hl rfl]; rfl
  | contains source => rfl
  | uses source => rfl
  | purge => rfl
  | clear => rfl
  | wait millis => rfl

theorem notices_changesAll (c : Cache α) (steps : List (Step α ε)) :
    (changesAll c steps).filterMap (·.event.notice?) =
      Answer.noticesOfAll (runAll c steps).1 := by
  cases steps with
  | nil => rfl
  | cons step steps =>
    rw [changesAll, List.filterMap_append, notices_changes, notices_changesAll]
    rfl

end

/-- What a fetch answers when its source was read. -/
def complete (source : String) : (Except ε α × β) × Cache α → (Except ε α × Option β) × Cache α
  | ((.error error, report), c) => ((.error error, some report), c)
  | ((.ok content, report), c) =>
    ((.ok (c.store source content).1, some report), (c.store source content).2)

/-- A fetch is a hit, whatever reading would do, or it is a miss and reading is done once. -/
theorem fetch_hit_or_miss (c : Cache α) (source : String) :
    (∃ content d, d.hits = c.hits + 1 ∧ d.misses = c.misses ∧
      ∀ read : Cache α → (Except ε α × β) × Cache α,
        c.fetch source read = ((.ok content, none), d)) ∨
    ∃ d : Cache α, d.hits = c.hits ∧ d.misses = c.misses + 1 ∧
      ∀ read : Cache α → (Except ε α × β) × Cache α,
        c.fetch source read = complete source (read d) := by
  obtain ⟨served, d, hl, hmove⟩ | ⟨d, hl, hmove⟩ := moves_lookup c source
  · refine .inl ⟨served, d, ?_, ?_, fun read => by simp only [fetch, hl]⟩
    · cases hmove; rfl
    · cases hmove; rfl
  · refine .inr ⟨d, ?_, ?_, fun read => ?_⟩
    · cases hmove <;> rfl
    · cases hmove <;> rfl
    · obtain ⟨result, report, d', hr⟩ : ∃ result report d', read d = ((result, report), d') :=
        ⟨_, _, _, rfl⟩
      cases result <;> simp only [fetch, hl, hr, complete]

/-- At every moment of a run, also while sources are read, the hits and misses of the cache are the
lookups since it was cleared last and the misses are those that had a source read; and every entry
counts how often its content was served since it was stored. The events are those that the answers
of the run show. Each fetch is a hit and reads nothing, or it is a miss and reads its source
once. -/
theorem runAll_accounts (capacity : Nat) (lifetime : Option Nat) (steps : List (Step α ε)) :
    Linked (empty capacity lifetime) (changesAll (empty capacity lifetime) steps)
      (runAll (empty capacity lifetime) steps).2 ∧
    (∀ earlier m later, changesAll (empty capacity lifetime) steps = earlier ++ m :: later →
      let log := (earlier ++ [m]).map (·.event)
      m.after.hits + m.after.misses = (sinceCleared log).countP Event.isLookup ∧
      m.after.misses = (sinceCleared log).countP Event.isMiss ∧
      ∀ e ∈ m.after.entries, ∃ before since, log = before ++ .stored e.source e.content :: since ∧
        (∀ event ∈ since, event.discards e.source = false) ∧
        since.filterMap (·.served? e.source) = List.replicate e.uses e.content) ∧
    (changesAll (empty capacity lifetime) steps).filterMap (·.event.notice?) =
      Answer.noticesOfAll (runAll (empty capacity lifetime) steps).1 ∧
    ∀ {β : Type} (c : Cache α) (source : String),
      (∃ content d, d.hits = c.hits + 1 ∧ d.misses = c.misses ∧
        ∀ read : Cache α → (Except ε α × β) × Cache α,
          c.fetch source read = ((.ok content, none), d)) ∨
      ∃ d : Cache α, d.hits = c.hits ∧ d.misses = c.misses + 1 ∧
        ∀ read : Cache α → (Except ε α × β) × Cache α,
          c.fetch source read = complete source (read d) := by
  have hlinked := linked_changesAll (empty capacity lifetime : Cache α) steps
  refine ⟨hlinked, fun earlier m later hchanges => ?_, notices_changesAll _ steps,
    fetch_hit_or_miss⟩
  obtain ⟨hbefore, hmove, -⟩ := (hchanges ▸ hlinked).split
  -- That no two entries have one source makes a use the use of one entry.
  have hinvariant {log : List (Event α)} {c d : Cache α} {event : Event α}
      (h : c.Bounded capacity ∧ Accounted log c) (hmove : Moves c event d) :
      d.Bounded capacity ∧ Accounted (log ++ [event]) d :=
    ⟨h.1.moves hmove, h.2.moves h.1 hmove⟩
  have h := hbefore.invariant (P := fun log c => c.Bounded capacity ∧ Accounted log c)
    hinvariant [] ⟨bounded_empty capacity lifetime, accounted_empty capacity lifetime⟩
  obtain ⟨-, haccounted⟩ := hinvariant h hmove
  rw [List.nil_append] at haccounted
  intro log
  have hlog : log = earlier.map (·.event) ++ [m.event] := by simp [log]
  rw [hlog]
  exact ⟨haccounted.lookups, haccounted.misses, haccounted.entries⟩

/-- A source is stored while it is read, and what was stored is served then and once more. -/
theorem runAll_accounts_joined :
    let steps : List (Step Nat Unit) :=
      [.fetch "a" [.fetch "a" [] (.ok 1)] (.ok 2), .fetch "a" [] (.ok 3)]
    ∃ earlier m later, changesAll (empty 1 none) steps = earlier ++ m :: later ∧
      m.after.hits = 1 ∧ m.after.misses = 2 ∧ m.after.entries.map (·.uses) = [2] ∧
      let log := (earlier ++ [m]).map (·.event)
      (sinceCleared log).countP Event.isLookup = 3 ∧ (sinceCleared log).countP Event.isMiss = 2 ∧
      ∀ e ∈ m.after.entries, Traces log e := by
  intro steps
  obtain ⟨m, hm, hhits, hmisses, huses⟩ : ∃ m ∈ changesAll (empty 1 none) steps,
      m.after.hits = 1 ∧ m.after.misses = 2 ∧ m.after.entries.map (·.uses) = [2] := by
    decide +kernel
  obtain ⟨earlier, later, hchanges⟩ := List.append_of_mem hm
  obtain ⟨hlookups, hread, hentries⟩ := (runAll_accounts 1 none steps).2.1 _ _ _ hchanges
  rw [hhits, hmisses] at hlookups
  rw [hmisses] at hread
  exact ⟨earlier, m, later, hchanges, hhits, hmisses, huses, hlookups.symm, hread.symm, hentries⟩

end DocTemplate.Cache

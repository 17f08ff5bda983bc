import DocTemplate.Cache.Run
import DocTemplate.Proofs.Cache.Basic

/-!
# What happens to a cache during a run

A run taken apart into the changes that the cache goes through, one after the other. The steps that
run while a source is read stand between the lookup of the source and the end of reading it, so that
every moment of a run is a place in one list, however deep the steps are nested.

## Main definitions

* `Cache.Event` — what happens at one moment.
* `Cache.Change` — an event with the cache before and after it.
* `Cache.changes`, `Cache.changesAll` — the changes of a step and of a run.
* `Cache.fetchChanges` — the changes that a fetch makes by itself.
* `Cache.Moves` — when an event happens, and what it does.

## Main statements

* `Cache.linked_changesAll` — the changes of a run lead from one to the next.
* `Cache.Linked.invariant`, `Cache.Linked.invariant_changes` — what every event keeps holds at every
  moment of a run.
-/

namespace DocTemplate.Cache

variable {α ε : Type}

/-- What happens to a cache at one moment of a run. A fetch is a hit, or it is a miss and reading
the source begins; when reading is over, one of four things happens. -/
inductive Event (α : Type) where
  | hit (source : String) (served : α)
  | miss (source : String)
  /-- The source cannot be read. -/
  | failed (source : String)
  /-- The source was read, and the cache has no room at all. -/
  | passed (source : String) (content : α)
  /-- The source was read, but it has been stored meanwhile, and that is served. -/
  | joined (source : String) (served : α)
  /-- The source was read, and this is stored. -/
  | stored (source : String) (content : α)
  | purged
  | cleared
  | waited (millis : Nat)

/-- The source that is fetched when an event happens. -/
def Event.source? : Event α → Option String
  | .hit source _ | .miss source | .failed source | .passed source _ | .joined source _
  | .stored source _ => some source
  | .purged | .cleared | .waited _ => none

/-- An event with the cache before and after it. -/
structure Change (α : Type) where
  before : Cache α
  event : Event α
  after : Cache α

/-- What happens when reading a source is over. -/
def finish (c : Cache α) (source : String) : Except ε α → Change α
  | .error _ => ⟨c, .failed source, c⟩
  | .ok content =>
    let event :=
      if c.capacity = 0 then .passed source content
      else
        match c.entry? source with
        | some e => if c.isExpired e then .stored source content else .joined source e.content
        | none => .stored source content
    ⟨c, event, (c.store source content).2⟩

mutual
/-- The changes of a step in the order in which they happen. To look at the cache is no change. -/
def changes (c : Cache α) : Step α ε → List (Change α)
  | .fetch source during outcome =>
    match c.lookup source with
    | (some served, d) => [⟨c, .hit source served, d⟩]
    | (none, d) =>
      ⟨c, .miss source, d⟩ ::
        (changesAll d during ++ [(runAll d during).2.finish source outcome])
  | .contains _ | .uses _ => []
  | .purge => [⟨c, .purged, c.purge.2⟩]
  | .clear => [⟨c, .cleared, c.clear⟩]
  | .wait millis => [⟨c, .waited millis, c.wait millis⟩]

/-- The changes of several steps in the order in which they happen. -/
def changesAll (c : Cache α) : List (Step α ε) → List (Change α)
  | [] => []
  | step :: steps => changes c step ++ changesAll (run c step).2 steps
end

/-- The changes that a fetch makes by itself, without those of the steps that run while its source
is read. -/
def fetchChanges (c : Cache α) (source : String) (during : List (Step α ε))
    (outcome : Except ε α) : List (Change α) :=
  match c.lookup source with
  | (some served, d) => [⟨c, .hit source served, d⟩]
  | (none, d) => [⟨c, .miss source, d⟩, (runAll d during).2.finish source outcome]

/-- When an event happens to a cache, and what the cache is after it. -/
inductive Moves : Cache α → Event α → Cache α → Prop
  | hit {c : Cache α} {source : String} {e : CacheEntry α} (he : c.entry? source = some e)
      (hfresh : c.isExpired e = false) :
      Moves c (.hit source e.content) { c.touch source with hits := c.hits + 1 }
  | absent {c : Cache α} {source : String} (he : c.entry? source = none) :
      Moves c (.miss source) { c with misses := c.misses + 1 }
  | expired {c : Cache α} {source : String} {e : CacheEntry α} (he : c.entry? source = some e)
      (hexpired : c.isExpired e) :
      Moves c (.miss source) { c.erase source with misses := c.misses + 1 }
  | failed {c : Cache α} {source : String} : Moves c (.failed source) c
  | passed {c : Cache α} {source : String} {content : α} (hcapacity : c.capacity = 0) :
      Moves c (.passed source content) c
  | joined {c : Cache α} {source : String} {e : CacheEntry α} (he : c.entry? source = some e)
      (hfresh : c.isExpired e = false) : Moves c (.joined source e.content) (c.touch source)
  | stored {c : Cache α} {source : String} {content : α} (hcapacity : 0 < c.capacity)
      (hexpired : ∀ e, c.entry? source = some e → c.isExpired e) :
      Moves c (.stored source content) ((c.makeRoom source).insert source content)
  | purged {c : Cache α} : Moves c .purged c.purge.2
  | cleared {c : Cache α} : Moves c .cleared c.clear
  | waited {c : Cache α} {millis : Nat} : Moves c (.waited millis) (c.wait millis)

theorem moves_lookup (c : Cache α) (source : String) :
    (∃ served d, c.lookup source = (some served, d) ∧ Moves c (.hit source served) d) ∨
      ∃ d, c.lookup source = (none, d) ∧ Moves c (.miss source) d := by
  cases he : c.entry? source with
  | none => exact .inr ⟨_, lookup_of_none he, .absent he⟩
  | some e =>
    cases hexpired : c.isExpired e with
    | false => exact .inl ⟨_, _, lookup_of_entry he hexpired, .hit he hexpired⟩
    | true => exact .inr ⟨_, by simp [lookup, he, hexpired], .expired he hexpired⟩

theorem moves_finish (c : Cache α) (source : String) (outcome : Except ε α) :
    Moves c (c.finish source outcome).event (c.finish source outcome).after := by
  cases outcome with
  | error error => exact .failed
  | ok content =>
    obtain hzero | hpos := Nat.eq_zero_or_pos c.capacity
    · simpa [finish, store, hzero] using .passed hzero
    cases he : c.entry? source with
    | none => simpa [finish, store, he, Nat.ne_of_gt hpos] using .stored hpos (by simp [he])
    | some e =>
      cases hexpired : c.isExpired e with
      | false => simpa [finish, store, he, hexpired, Nat.ne_of_gt hpos] using .joined he hexpired
      | true =>
        simpa [finish, store, he, hexpired, Nat.ne_of_gt hpos] using
          .stored hpos (by simp [he, hexpired])

/-- Changes that lead from one cache to another, each beginning where the one before it ended. -/
inductive Linked : Cache α → List (Change α) → Cache α → Prop
  | nil (c : Cache α) : Linked c [] c
  | cons {c d last : Cache α} {event : Event α} {rest : List (Change α)} (h : Moves c event d)
      (hrest : Linked d rest last) : Linked c (⟨c, event, d⟩ :: rest) last

theorem linked_finish (c : Cache α) (source : String) (outcome : Except ε α) :
    Linked c [c.finish source outcome] (c.finish source outcome).after := by
  have hmove := moves_finish c source outcome
  cases outcome <;> exact .cons hmove (.nil _)

theorem Linked.append {c d e : Cache α} {ms ns : List (Change α)} (h : Linked c ms d)
    (h' : Linked d ns e) : Linked c (ms ++ ns) e := by
  induction h with
  | nil => exact h'
  | cons hmove _ ih => exact .cons hmove (ih h')

/-- Between any two changes there is a cache. -/
theorem Linked.exists_between {c last : Cache α} {earlier later : List (Change α)}
    (h : Linked c (earlier ++ later) last) : ∃ d, Linked c earlier d ∧ Linked d later last := by
  induction earlier generalizing c with
  | nil => exact ⟨c, .nil c, h⟩
  | cons m earlier ih =>
    cases h with
    | cons hmove hrest =>
      obtain ⟨d, hearlier, hlater⟩ := ih hrest
      exact ⟨d, .cons hmove hearlier, hlater⟩

/-- A change stands between what leads to it and what follows from it. -/
theorem Linked.split {c last : Cache α} {earlier later : List (Change α)} {m : Change α}
    (h : Linked c (earlier ++ m :: later) last) :
    Linked c earlier m.before ∧ Moves m.before m.event m.after ∧ Linked m.after later last := by
  obtain ⟨d, hearlier, hrest⟩ := h.exists_between
  cases hrest with
  | cons hmove hlater => exact ⟨hearlier, hmove, hlater⟩

/-- What every event keeps of a cache and of the changes so far is kept by changes that follow each
other. -/
theorem Linked.invariant_changes {P : List (Change α) → Cache α → Prop}
    (hP : ∀ {ms : List (Change α)} {c d : Cache α} {event : Event α},
      P ms c → Moves c event d → P (ms ++ [⟨c, event, d⟩]) d)
    (earlier : List (Change α)) {c d : Cache α} {ms : List (Change α)} (h : Linked c ms d)
    (hc : P earlier c) : P (earlier ++ ms) d := by
  induction h generalizing earlier with
  | nil => simpa using hc
  | cons hmove _ ih => simpa using ih _ (hP hc hmove)

/-- The same where the events are enough. -/
theorem Linked.invariant {P : List (Event α) → Cache α → Prop}
    (hP : ∀ {log : List (Event α)} {c d : Cache α} {event : Event α},
      P log c → Moves c event d → P (log ++ [event]) d)
    (log : List (Event α)) {c d : Cache α} {ms : List (Change α)} (h : Linked c ms d)
    (hc : P log c) : P (log ++ ms.map (·.event)) d := by
  refine h.invariant_changes (P := fun ms c => P (log ++ ms.map (·.event)) c) ?_ [] (by simpa)
  intro ms c d event hc hmove
  simpa using hP hc hmove

/-- The end of reading a source is the last change of the fetch. -/
theorem after_finish_run {c d : Cache α} {source : String} {during : List (Step α ε)}
    (hl : c.lookup source = (none, d)) (outcome : Except ε α) :
    (run c (.fetch source during outcome)).2 =
      ((runAll d during).2.finish source outcome).after := by
  cases outcome with
  | error error => rw [run_fetch_of_error hl rfl]; rfl
  | ok content => rw [run_fetch_of_ok hl rfl]; rfl

mutual

/-- The changes of a step lead to the cache after it. -/
theorem linked_changes (c : Cache α) (step : Step α ε) :
    Linked c (changes c step) (run c step).2 := by
  cases step with
  | fetch source during outcome =>
    obtain ⟨served, d, hl, hmove⟩ | ⟨d, hl, hmove⟩ := moves_lookup c source
    · rw [run_fetch_of_hit hl, changes, hl]
      exact .cons hmove (.nil d)
    · rw [after_finish_run hl, changes, hl]
      exact .cons hmove ((linked_changesAll d during).append (linked_finish _ source outcome))
  | contains source => exact .nil c
  | uses source => exact .nil c
  | purge => exact .cons .purged (.nil _)
  | clear => exact .cons .cleared (.nil _)
  | wait millis => exact .cons .waited (.nil _)

theorem linked_changesAll (c : Cache α) (steps : List (Step α ε)) :
    Linked c (changesAll c steps) (runAll c steps).2 := by
  cases steps with
  | nil => exact .nil c
  | cons step steps =>
    exact (linked_changes c step).append (linked_changesAll (run c step).2 steps)

end

end DocTemplate.Cache

import DocTemplate.Cache.Run
import DocTemplate.Proofs.Cache.Ranking

/-!
# Caches that keep what was served last

Without a lifetime a cache of capacity `n` holds the `n` distinct sources that were served last.
What is served is written down in a log, the source served last first: a hit serves its source when
it is looked up, a source that has to be read is served when reading has succeeded, after all that
was done meanwhile. To clear the cache is to begin a new log.

## Main definitions

* `Cache.recent` — the distinct sources that were served last.
* `Cache.Recency.runAll` — a run of nothing but a log, with the same hits.
* `Cache.Follows` — a cache that holds the recent sources of a log.

## Main statements

* `Cache.runAll_keeps_recent` — a run from the empty cache keeps the recent sources.
-/

namespace DocTemplate.Cache

variable {α ε : Type} {c d : Cache α} {n : Nat} {log : List String} {source : String}

/-- The `n` distinct sources that come first in a log. -/
def recent (n : Nat) (log : List String) : List String :=
  log.eraseDups.take n

/-- What a run shows of the presence of sources. -/
inductive Sight where
  | hit
  | miss (during : List Sight)
  | present (answer : Bool)
  | nothing

mutual
/-- What an answer shows of the presence of sources. -/
def Answer.sight : Answer α ε → Sight
  | .fetched _ none => .hit
  | .fetched _ (some during) => .miss (Answer.sights during)
  | .contains present => .present present
  | _ => .nothing

/-- What answers show of the presence of sources. -/
def Answer.sights : List (Answer α ε) → List Sight
  | [] => []
  | answer :: answers => answer.sight :: Answer.sights answers
end

namespace Recency

mutual
/-- What a step shows, and the log after it, if exactly the `n` sources served last are present. -/
def run (n : Nat) (log : List String) : Step α ε → Sight × List String
  | .fetch source during outcome =>
    if source ∈ recent n log then (.hit, source :: log)
    else
      let (sights, log) := runAll n log during
      match outcome with
      | .ok _ => (.miss sights, source :: log)
      | .error _ => (.miss sights, log)
  | .contains source => (.present (source ∈ recent n log), log)
  | .clear => (.nothing, [])
  | _ => (.nothing, log)

/-- What several steps show in order, and the log after them. -/
def runAll (n : Nat) (log : List String) : List (Step α ε) → List Sight × List String
  | [] => ([], log)
  | step :: steps =>
    let (sight, log) := run n log step
    let (sights, log) := runAll n log steps
    (sight :: sights, log)
end

end Recency

theorem eraseDups_filter (p : String → Bool) (log : List String) :
    (log.filter p).eraseDups = log.eraseDups.filter p := by
  induction hlength : log.length using Nat.strongRecOn generalizing log with
  | ind length ih =>
    subst hlength
    cases log with
    | nil => rfl
    | cons s log =>
      have hrest := ih (log.filter fun t => !t == s).length
        (Nat.lt_succ_of_le (List.length_filter_le _ log)) _ rfl
      rw [List.eraseDups_cons, List.filter_cons, List.filter_cons, ← hrest, List.filter_filter]
      split
      · rw [List.eraseDups_cons, List.filter_filter]
        simp only [Bool.and_comm]
      · rename_i hs
        congr 1
        refine List.filter_congr fun t ht => ?_
        by_cases hts : t = s <;> simp_all

theorem nodup_eraseDups (log : List String) : log.eraseDups.Nodup := by
  induction log with
  | nil => simp
  | cons s log ih =>
    rw [List.eraseDups_cons, eraseDups_filter]
    exact List.nodup_cons.mpr ⟨by simp, ih.filter _⟩

theorem eraseDups_cons_eq (source : String) (log : List String) :
    (source :: log).eraseDups = source :: log.eraseDups.filter (· != source) := by
  rw [List.eraseDups_cons, eraseDups_filter]
  rfl

theorem take_filter_of_mem {order : List String} (hnodup : order.Nodup)
    (h : source ∈ order.take (n + 1)) :
    (order.filter (· != source)).take n = (order.take (n + 1)).filter (· != source) := by
  induction order generalizing n with
  | nil => simp
  | cons s order ih =>
    obtain ⟨hs, hnodup⟩ := List.nodup_cons.mp hnodup
    rw [List.take_succ_cons] at h ⊢
    by_cases heq : s = source
    · subst heq
      have hself (l : List String) (hl : l ⊆ order) : l.filter (· != s) = l :=
        List.filter_eq_self.mpr fun t ht => by simpa using fun hts : t = s => hs (hts ▸ hl ht)
      simp [hself order (List.Subset.refl _), hself _ (List.take_subset n order)]
    · obtain rfl | hmem := List.mem_cons.mp h
      · exact absurd rfl heq
      · obtain - | n := n
        · simp at hmem
        · simpa [heq] using ih hnodup hmem

theorem take_filter_of_not_mem {order : List String} (h : source ∉ order.take (n + 1)) :
    (order.filter (· != source)).take n = order.take n := by
  induction order generalizing n with
  | nil => simp
  | cons s order ih =>
    obtain - | n := n
    · simp
    · obtain ⟨hs, hrest⟩ : source ≠ s ∧ source ∉ order.take (n + 1) := by simpa using h
      simpa [Ne.symm hs] using ih hrest

theorem recent_cons_of_mem (h : source ∈ recent n log) :
    recent n (source :: log) = source :: (recent n log).filter (· != source) := by
  obtain - | n := n
  · simp [recent] at h
  · rw [recent, eraseDups_cons_eq, List.take_succ_cons, take_filter_of_mem (nodup_eraseDups log) h,
      recent]

theorem recent_cons_of_not_mem (h : source ∉ recent (n + 1) log) :
    recent (n + 1) (source :: log) = source :: recent n log := by
  rw [recent, eraseDups_cons_eq, List.take_succ_cons, take_filter_of_not_mem h, recent]

/-- A cache without lifetime holds the recent sources of a log, in the order of their use. -/
structure Follows (c : Cache α) (n : Nat) (log : List String) : Prop where
  lifetime : c.lifetime = none
  capacity : c.capacity = n
  ranked : ∃ es, c.RankedBy es ∧ es.map (·.source) = recent n log

theorem follows_empty (n : Nat) : (empty n none : Cache α).Follows n [] :=
  ⟨rfl, rfl, [], rankedBy_nil rfl, by simp [recent]⟩

namespace Follows

theorem congr (h : c.Follows n log) (hentries : d.entries = c.entries) (hticks : d.ticks = c.ticks)
    (hcapacity : d.capacity = c.capacity) (hlifetime : d.lifetime = c.lifetime) :
    d.Follows n log := by
  obtain ⟨es, hranked, hes⟩ := h.ranked
  exact ⟨hlifetime.trans h.lifetime, hcapacity.trans h.capacity, es, hranked.congr hentries hticks,
    hes⟩

theorem contains_iff (h : c.Follows n log) : c.contains source = true ↔ source ∈ recent n log := by
  obtain ⟨es, hranked, hes⟩ := h.ranked
  rw [hranked.contains_iff, hes]

theorem size_le (h : c.Follows n log) : c.size ≤ c.capacity := by
  obtain ⟨es, hranked, hes⟩ := h.ranked
  have hlength := congrArg List.length hes
  rw [List.length_map, recent, List.length_take] at hlength
  rw [hranked.size_eq, h.capacity]
  omega

theorem isExpired_eq (h : c.Follows n log) (e : CacheEntry α) : c.isExpired e = false := by
  simp [isExpired, h.lifetime]

/-- To serve a source that is there puts it in front. -/
theorem touch (h : c.Follows n log) (hs : source ∈ recent n log) :
    (c.touch source).Follows n (source :: log) := by
  obtain ⟨es, hranked, hes⟩ := h.ranked
  obtain ⟨e, he, rfl⟩ := List.mem_map.mp (hes ▸ hs)
  refine ⟨h.lifetime, h.capacity, _, hranked.touch he, ?_⟩
  rw [List.map_cons, recent_cons_of_mem hs, ← hes, List.filter_map]
  rfl

/-- To store a source that is not there puts it in front, at the cost of the last one if need be. -/
theorem insert (h : c.Follows n log) (hs : source ∉ recent n log) (hpos : 0 < n) (a : α) :
    ((c.makeRoom source).insert source a).Follows n (source :: log) := by
  obtain ⟨hcapacity, hlifetime⟩ := settings_makeRoom c source
  obtain ⟨es, hranked, hes⟩ := h.ranked
  obtain - | n := n
  · omega
  have hroom := hranked.makeRoom h.size_le (h.capacity ▸ hpos) (hes ▸ hs)
  refine ⟨hlifetime.trans h.lifetime, hcapacity.trans h.capacity, _, hroom.insert source a, ?_⟩
  have htake : (es.take (c.capacity - 1)).map (·.source) = recent n log := by
    rw [List.map_take, hes, h.capacity, recent, recent, List.take_take]
    congr 1
    omega
  have hnot : source ∉ recent n log := fun hmem =>
    hs (List.take_subset_take_left _ (Nat.le_succ n) hmem)
  rw [List.map_cons, recent_cons_of_not_mem hs, ← htake, List.filter_eq_self.mpr]
  intro e he
  have hne : e.source ≠ source := fun heq => hnot (htake ▸ heq ▸ List.mem_map_of_mem he)
  simpa using hne

theorem entry?_eq_none (h : c.Follows n log) (hs : source ∉ recent n log) :
    c.entry? source = none := by
  simpa [contains] using mt h.contains_iff.mp hs

theorem lookup_of_mem (h : c.Follows n log) (hs : source ∈ recent n log) :
    ∃ a d, c.lookup source = (some a, d) ∧ d.Follows n (source :: log) := by
  obtain ⟨e, he⟩ := Option.isSome_iff_exists.mp (h.contains_iff.mpr hs)
  exact ⟨_, _, lookup_of_entry he (h.isExpired_eq e), (h.touch hs).congr rfl rfl rfl rfl⟩

theorem lookup_of_not_mem (h : c.Follows n log) (hs : source ∉ recent n log) :
    ∃ d, c.lookup source = (none, d) ∧ d.Follows n log :=
  ⟨_, lookup_of_none (h.entry?_eq_none hs), h.congr rfl rfl rfl rfl⟩

/-- A source that was read is served, whether it was stored meanwhile or not. -/
theorem store (h : c.Follows n log) (source : String) (a : α) :
    (c.store source a).2.Follows n (source :: log) := by
  obtain rfl | hpos := Nat.eq_zero_or_pos n
  · obtain ⟨es, hranked, hes⟩ := h.ranked
    simp only [Cache.store, h.capacity, if_pos]
    exact ⟨h.lifetime, h.capacity, es, hranked, by simpa [recent] using hes⟩
  have hcapacity : 0 < c.capacity := h.capacity ▸ hpos
  by_cases hs : source ∈ recent n log
  · obtain ⟨e, he⟩ := Option.isSome_iff_exists.mp (h.contains_iff.mpr hs)
    rw [store_of_entry hcapacity he (h.isExpired_eq e)]
    exact h.touch hs
  · rw [store_of_none hcapacity (h.entry?_eq_none hs)]
    exact h.insert hs hpos a

theorem purge (h : c.Follows n log) : c.purge.2.Follows n log :=
  h.congr (by simp [Cache.purge, h.isExpired_eq]) rfl rfl rfl

theorem clear (h : c.Follows n log) : c.clear.Follows n [] :=
  ⟨h.lifetime, h.capacity, [], rankedBy_nil rfl, by simp [recent]⟩

theorem wait (h : c.Follows n log) (millis : Nat) : (c.wait millis).Follows n log :=
  h.congr rfl rfl rfl rfl

end Follows

mutual
/-- A step shows what the log says and leaves a cache that follows the log. -/
theorem run_follows {c : Cache α} {log : List String} (h : c.Follows n log) (step : Step α ε) :
    (run c step).1.sight = (Recency.run n log step).1 ∧
      (run c step).2.Follows n (Recency.run n log step).2 := by
  cases step with
  | fetch source during outcome =>
    by_cases hs : source ∈ recent n log
    · obtain ⟨a, d, hlookup, hd⟩ := h.lookup_of_mem hs
      rw [run_fetch_of_hit hlookup, Recency.run, if_pos hs]
      exact ⟨rfl, hd⟩
    · obtain ⟨d, hlookup, hd⟩ := h.lookup_of_not_mem hs
      obtain ⟨hsights, hfollows⟩ := runAll_follows hd during
      cases outcome with
      | error error =>
        rw [run_fetch_of_error hlookup rfl, Recency.run, if_neg hs]
        exact ⟨congrArg Sight.miss hsights, hfollows⟩
      | ok a =>
        rw [run_fetch_of_ok hlookup rfl, Recency.run, if_neg hs]
        exact ⟨congrArg Sight.miss hsights, hfollows.store source a⟩
  | contains source =>
    have hpresent : c.contains source = decide (source ∈ recent n log) :=
      Bool.eq_iff_iff.mpr (h.contains_iff.trans decide_eq_true_iff.symm)
    exact ⟨congrArg Sight.present hpresent, h⟩
  | uses source => exact ⟨rfl, h⟩
  | purge => exact ⟨rfl, h.purge⟩
  | clear => exact ⟨rfl, h.clear⟩
  | wait millis => exact ⟨rfl, h.wait millis⟩

theorem runAll_follows {c : Cache α} {log : List String} (h : c.Follows n log)
    (steps : List (Step α ε)) :
    Answer.sights (runAll c steps).1 = (Recency.runAll n log steps).1 ∧
      (runAll c steps).2.Follows n (Recency.runAll n log steps).2 := by
  cases steps with
  | nil => exact ⟨rfl, h⟩
  | cons step steps =>
    obtain ⟨hsight, hstep⟩ := run_follows h step
    obtain ⟨hsights, hsteps⟩ := runAll_follows hstep steps
    exact ⟨congrArg₂ List.cons hsight hsights, hsteps⟩
end

/-- After every run of a cache without lifetime the sources that are present are exactly the `n`
distinct ones served last since the last clear, so that none is if there is no room. During the run
the hits, and the answers about what is present, are the ones that go by the log, also in runs that
readings start. -/
theorem runAll_keeps_recent (n : Nat) (steps : List (Step α ε)) :
    (∀ source, (runAll (empty n none) steps).2.contains source = true ↔
      source ∈ recent n (Recency.runAll n [] steps).2) ∧
    (∀ source, (runAll (empty 0 none) steps).2.contains source = false) ∧
    Answer.sights (runAll (empty n none) steps).1 = (Recency.runAll n [] steps).1 := by
  obtain ⟨hsights, hfollows⟩ := runAll_follows (follows_empty n) steps
  have hempty := (runAll_follows (follows_empty 0) steps).2
  refine ⟨fun source => hfollows.contains_iff, fun source => ?_, hsights⟩
  exact Bool.eq_false_iff.mpr (mt hempty.contains_iff.mp (by simp [recent]))

-- While `b` is read it is stored and then `a`; `b` is served once more, so that `c` displaces `a`.
example :
    let stored (source : String) (during : List (Step Nat Unit)) := .fetch source during (.ok 0)
    recent 2 (Recency.runAll 2 [] [stored "b" [stored "b" [], stored "a" []], stored "c" []]).2 =
      ["c", "b"] := by
  decide

end DocTemplate.Cache

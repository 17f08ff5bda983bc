import DocTemplate.Proofs.Cache.Changes
import DocTemplate.Proofs.Cache.Ranking

/-!
# The size of a cache

At every moment of a run a cache holds at most as many entries as it has room for, no source has two
of them, and no two were used at the same tick, so that there is one that was used longest ago. A
fetch removes an entry of another source only to store a source that is not there in a full cache,
and then it removes one.

## Main definitions

* `Cache.Bounded` — a cache within its capacity whose entries can be ranked by their use.
* `Cache.Change.evicted` — the entries that make room when a source is fetched.

## Main statements

* `Cache.Bounded.moves` — every event keeps a cache within its capacity.
* `Cache.runAll_bounded` — at every moment of a run the cache is within its capacity.
-/

namespace DocTemplate.Cache

variable {α ε : Type} {c d : Cache α} {n : Nat} {source : String} {e : CacheEntry α}

theorem contains_iff_exists : c.contains source = true ↔ ∃ e ∈ c.entries, e.source = source := by
  simp [contains, entry?, List.find?_isSome]

theorem contains_touch (t : String) : (c.touch source).contains t = c.contains t := by
  rw [Bool.eq_iff_iff, contains_iff_exists, contains_iff_exists]
  have hsource (e : CacheEntry α) :
      (if e.source == source then { e with lastUse := c.ticks, uses := e.uses + 1 } else e).source =
        e.source := by
    split <;> rfl
  simp only [touch, List.mem_map, exists_exists_and_eq_and, hsource]

theorem contains_erase_of_ne {t : String} (h : t ≠ source) :
    (c.erase source).contains t = c.contains t := by
  rw [Bool.eq_iff_iff, contains_iff_exists, contains_iff_exists]
  constructor
  · rintro ⟨e, he, rfl⟩
    exact ⟨e, (List.mem_filter.mp he).1, rfl⟩
  · rintro ⟨e, he, rfl⟩
    exact ⟨e, List.mem_filter.mpr ⟨he, by simpa using h⟩, rfl⟩

theorem contains_insert {t : String} {a : α} :
    (c.insert source a).contains t = true ↔ t = source ∨ c.contains t = true := by
  simp only [contains_iff_exists, insert, erase, List.mem_append, List.mem_filter,
    List.mem_singleton, bne_iff_ne]
  constructor
  · rintro ⟨e, ⟨he, -⟩ | rfl, rfl⟩
    · exact .inr ⟨e, he, rfl⟩
    · exact .inl rfl
  · rintro (rfl | ⟨e, he, rfl⟩)
    · exact ⟨_, .inr rfl, rfl⟩
    · by_cases hsource : e.source = source
      · exact ⟨_, .inr rfl, hsource.symm⟩
      · exact ⟨e, .inl ⟨he, hsource⟩, rfl⟩

/-- A source that is there needs no room. -/
theorem makeRoom_of_contains (h : c.contains source = true) : c.makeRoom source = c := by
  rw [makeRoom, if_neg fun hc => hc.2 h]

/-- A cache within its capacity, whose entries can be ranked by their use. -/
structure Bounded (n : Nat) (c : Cache α) : Prop where
  capacity : c.capacity = n
  ranked : ∃ es, c.RankedBy es ∧ es.length ≤ n

theorem bounded_empty (n : Nat) (lifetime : Option Nat) :
    (empty n lifetime : Cache α).Bounded n :=
  ⟨rfl, [], rankedBy_nil rfl, Nat.zero_le n⟩

namespace Bounded

theorem congr (h : c.Bounded n) (hentries : d.entries = c.entries) (hticks : d.ticks = c.ticks)
    (hcapacity : d.capacity = c.capacity) : d.Bounded n := by
  obtain ⟨es, hranked, hlength⟩ := h.ranked
  exact ⟨hcapacity.trans h.capacity, es, hranked.congr hentries hticks, hlength⟩

theorem filter (h : c.Bounded n) {p : CacheEntry α → Bool}
    (hentries : d.entries = c.entries.filter p) (hticks : d.ticks = c.ticks)
    (hcapacity : d.capacity = c.capacity) : d.Bounded n := by
  obtain ⟨es, hranked, hlength⟩ := h.ranked
  exact ⟨hcapacity.trans h.capacity, _, hranked.filter hentries hticks,
    Nat.le_trans (List.length_filter_le p es) hlength⟩

/-- To put an entry in front does not lengthen a list that has one of its source. -/
theorem length_cons_filter_le {es : List (CacheEntry α)} (he : e ∈ es) (f : CacheEntry α) :
    (f :: es.filter (·.source != e.source)).length ≤ es.length := by
  rw [List.length_cons, Nat.succ_le_iff]
  exact List.length_filter_lt_length_iff_exists.mpr ⟨e, he, by simp⟩

theorem touch (h : c.Bounded n) (he : c.entry? source = some e) : (c.touch source).Bounded n := by
  obtain ⟨es, hranked, hlength⟩ := h.ranked
  obtain ⟨hmem, rfl⟩ := hranked.entry?_eq_some_iff.mp he
  exact ⟨h.capacity, _, hranked.touch hmem, Nat.le_trans (length_cons_filter_le hmem _) hlength⟩

/-- To store a source takes the place of its own entry, or else of the entry used longest ago if
the cache is full. -/
theorem insert (h : c.Bounded n) (hpos : 0 < c.capacity) (source : String) (a : α) :
    ((c.makeRoom source).insert source a).Bounded n := by
  obtain ⟨es, hranked, hlength⟩ := h.ranked
  have hcapacity := h.capacity
  cases he : c.entry? source with
  | some e =>
    obtain ⟨hmem, rfl⟩ := hranked.entry?_eq_some_iff.mp he
    rw [makeRoom_of_contains (by simp [contains, he])]
    exact ⟨h.capacity, _, hranked.insert e.source a,
      Nat.le_trans (length_cons_filter_le hmem _) hlength⟩
  | none =>
    have hnot : source ∉ es.map (·.source) :=
      fun hmem => by simpa [contains, he] using hranked.contains_iff.mpr hmem
    have hsize := hranked.size_eq
    have hroom := hranked.makeRoom (by omega) hpos hnot
    refine ⟨(settings_makeRoom c source).1.trans h.capacity, _, hroom.insert source a, ?_⟩
    have hfilter := List.length_filter_le (·.source != source) (es.take (c.capacity - 1))
    rw [List.length_cons]
    rw [List.length_take] at hfilter
    omega

/-- Every event keeps a cache within its capacity. -/
theorem moves {event : Event α} (h : c.Bounded n) (hmove : Moves c event d) : d.Bounded n := by
  cases hmove with
  | hit he _ => exact (h.touch he).congr rfl rfl rfl
  | absent _ => exact h.congr rfl rfl rfl
  | expired _ _ => exact h.filter rfl rfl rfl
  | failed | passed _ => exact h
  | joined he _ => exact h.touch he
  | stored hpos _ => exact h.insert hpos _ _
  | purged => exact h.filter rfl rfl rfl
  | cleared => exact ⟨h.capacity, [], rankedBy_nil rfl, Nat.zero_le n⟩
  | waited => exact h.congr rfl rfl rfl

theorem linked {ms : List (Change α)} (h : c.Bounded n) (hlinked : Linked c ms d) :
    d.Bounded n :=
  hlinked.invariant (P := fun _ c => c.Bounded n) moves [] h

theorem size_le (h : c.Bounded n) : c.size ≤ n := by
  obtain ⟨es, hranked, hlength⟩ := h.ranked
  rwa [hranked.size_eq]

theorem nodup_sources (h : c.Bounded n) : (c.entries.map (·.source)).Nodup := by
  obtain ⟨es, hranked, -⟩ := h.ranked
  exact (hranked.perm.map _).nodup_iff.mp hranked.nodup

theorem nodup_lastUses (h : c.Bounded n) : (c.entries.map (·.lastUse)).Nodup := by
  obtain ⟨es, hranked, -⟩ := h.ranked
  refine (hranked.perm.map _).nodup_iff.mp ?_
  exact List.pairwise_map.mpr (hranked.decreasing.imp fun hlt => Nat.ne_of_gt hlt)

theorem lastUse_lt (h : c.Bounded n) (he : e ∈ c.entries) : e.lastUse < c.ticks := by
  obtain ⟨es, hranked, -⟩ := h.ranked
  exact hranked.below e (hranked.perm.mem_iff.mpr he)

end Bounded

/-- The entries of other sources that go when a source is fetched. -/
def Change.evicted (m : Change α) : List (CacheEntry α) :=
  match m.event.source? with
  | some source =>
    m.before.entries.filter fun e => e.source != source && !m.after.contains e.source
  | none => []

theorem evicted_eq_nil {m : Change α}
    (h : ∀ source ∈ m.event.source?, ∀ e ∈ m.before.entries, e.source ≠ source →
      m.after.contains e.source = true) : m.evicted = [] := by
  unfold Change.evicted
  split
  · rename_i source hsource
    refine List.filter_eq_nil_iff.mpr fun e he => ?_
    by_cases hne : e.source = source
    · simp [hne]
    · simp [h source hsource e he hne]
  · rfl

/-- To store a source that is not there removes the entry that was used longest ago, if the cache is
full. -/
theorem evicted_stored (h : c.Bounded n) (hpos : 0 < c.capacity)
    (hsource : c.contains source = false) (a : α) :
    let m : Change α := ⟨c, .stored source a, (c.makeRoom source).insert source a⟩
    m.evicted.length ≤ 1 ∧ (m.evicted ≠ [] → c.size = n) := by
  intro m
  obtain ⟨es, hranked, hlength⟩ := h.ranked
  have hcapacity := h.capacity
  have hsize := hranked.size_eq
  have hnot : source ∉ es.map (·.source) :=
    fun hmem => by simp [hranked.contains_iff.mpr hmem] at hsource
  have hafter := (hranked.makeRoom (by omega) hpos hnot).insert source a
  -- The entries that are left are the ones before the last place.
  have hkept : ∀ e ∈ es.take (c.capacity - 1), m.after.contains e.source = true := by
    intro e he
    refine hafter.contains_iff.mpr ?_
    have hne : e.source ≠ source :=
      fun heq => hnot (heq ▸ List.mem_map_of_mem (List.mem_of_mem_take he))
    have hleft : e ∈ (es.take (c.capacity - 1)).filter (·.source != source) :=
      List.mem_filter.mpr ⟨he, bne_iff_ne.mpr hne⟩
    exact List.mem_map_of_mem (List.mem_cons_of_mem _ hleft)
  have hperm : m.evicted.Perm
      ((es.drop (c.capacity - 1)).filter
        fun e => e.source != source && !m.after.contains e.source) := by
    refine (hranked.perm.symm.filter _).trans (List.Perm.of_eq ?_)
    conv_lhs => rw [← List.take_append_drop (c.capacity - 1) es, List.filter_append]
    rw [List.filter_eq_nil_iff.mpr fun e he => by simp [hkept e he], List.nil_append]
  have hle : m.evicted.length ≤ (es.drop (c.capacity - 1)).length :=
    hperm.length_eq ▸ List.length_filter_le _ _
  rw [List.length_drop] at hle
  refine ⟨by omega, fun hne => ?_⟩
  have := List.length_pos_iff.mpr hne
  omega

/-- An entry of another source goes only when a source is stored that was not there, in a full
cache, and then no other one goes. -/
theorem Moves.evicted {event : Event α} (h : c.Bounded n) (hmove : Moves c event d) :
    let m : Change α := ⟨c, event, d⟩
    m.evicted.length ≤ 1 ∧
      (m.evicted ≠ [] → ∃ source content, event = .stored source content ∧
        c.contains source = false ∧ c.size = n ∧ d.contains source = true) := by
  intro m
  have hnil (hm : m.evicted = []) {P : Prop} : m.evicted.length ≤ 1 ∧ (m.evicted ≠ [] → P) := by
    simp [hm]
  have hthere {e : CacheEntry α} (he : e ∈ c.entries) : c.contains e.source = true :=
    contains_iff_exists.mpr ⟨e, he, rfl⟩
  cases hmove with
  | hit _ _ => exact hnil (evicted_eq_nil fun _ _ e he _ => (contains_touch _).trans (hthere he))
  | absent _ => exact hnil (evicted_eq_nil fun _ _ e he _ => hthere he)
  | expired _ _ =>
    refine hnil (evicted_eq_nil fun source hsource e he hne => ?_)
    cases hsource
    exact (contains_erase_of_ne hne).trans (hthere he)
  | failed | passed _ => exact hnil (evicted_eq_nil fun _ _ e he _ => hthere he)
  | joined _ _ =>
    exact hnil (evicted_eq_nil fun _ _ e he _ => (contains_touch _).trans (hthere he))
  | @stored source content hpos _ =>
    cases hcontains : c.contains source with
    | true =>
      refine hnil (evicted_eq_nil fun _ _ e he _ => contains_insert.mpr (.inr ?_))
      rw [makeRoom_of_contains hcontains]
      exact hthere he
    | false =>
      obtain ⟨hle, hfull⟩ := evicted_stored h hpos hcontains content
      exact ⟨hle, fun hne => ⟨_, _, rfl, hcontains, hfull hne, contains_insert.mpr (.inl rfl)⟩⟩
  | purged | cleared | waited => exact hnil rfl

/-- By itself a fetch removes one entry of another source at most. -/
theorem length_evicted_fetchChanges (h : c.Bounded n) (source : String)
    (during : List (Step α ε)) (outcome : Except ε α) :
    ((fetchChanges c source during outcome).flatMap Change.evicted).length ≤ 1 := by
  obtain ⟨served, d, hl, hmove⟩ | ⟨d, hl, hmove⟩ := moves_lookup c source
  · rw [fetchChanges, hl, List.flatMap_singleton]
    exact (hmove.evicted h).1
  · have hmiss : (Change.mk c (.miss source) d).evicted = [] := by
      by_contra hne
      obtain ⟨_, _, hevent, -⟩ := (hmove.evicted h).2 hne
      cases hevent
    have hread := (h.moves hmove).linked (linked_changesAll d during)
    have hlast := (moves_finish (runAll d during).2 source outcome).evicted hread
    rw [fetchChanges, hl, List.flatMap_cons, hmiss, List.nil_append, List.flatMap_singleton]
    cases outcome <;> exact hlast.1

/-- The changes of a run lead from the empty cache to the cache after it. After each of them, which
is at every moment, also while sources are read, there are at most as many entries as the cache has
room for, no source has two, and the ticks of their last uses are all different and over. A change
removes an entry of another source only to store a source that is not there in a full cache, and
then no more than one; and a fetch that begins at any moment removes no more than one by itself. -/
theorem runAll_bounded (capacity : Nat) (lifetime : Option Nat) (steps : List (Step α ε)) :
    Linked (empty capacity lifetime) (changesAll (empty capacity lifetime) steps)
      (runAll (empty capacity lifetime) steps).2 ∧
    ∀ m ∈ changesAll (empty capacity lifetime) steps,
      m.after.size ≤ capacity ∧ (m.after.entries.map (·.source)).Nodup ∧
      (m.after.entries.map (·.lastUse)).Nodup ∧ (∀ e ∈ m.after.entries, e.lastUse < m.after.ticks) ∧
      m.evicted.length ≤ 1 ∧
      (m.evicted ≠ [] → ∃ source content, m.event = .stored source content ∧
        m.before.contains source = false ∧ m.before.size = capacity ∧
        m.after.contains source = true) ∧
      ∀ (source : String) (during : List (Step α ε)) (outcome : Except ε α),
        ((fetchChanges m.before source during outcome).flatMap Change.evicted).length ≤ 1 := by
  have hlinked := linked_changesAll (empty capacity lifetime : Cache α) steps
  refine ⟨hlinked, fun m hm => ?_⟩
  obtain ⟨earlier, later, hchanges⟩ := List.append_of_mem hm
  obtain ⟨hbefore, hmove, -⟩ := (hchanges ▸ hlinked).split
  have h := (bounded_empty capacity lifetime).linked hbefore
  have hafter := h.moves hmove
  obtain ⟨hle, hstored⟩ := hmove.evicted h
  exact ⟨hafter.size_le, hafter.nodup_sources, hafter.nodup_lastUses,
    fun e he => hafter.lastUse_lt he, hle, hstored,
    fun source during outcome => length_evicted_fetchChanges h source during outcome⟩

/-- What was stored while a source was read makes room for the source. -/
theorem runAll_bounded_evicting :
    let steps : List (Step Nat Unit) := [.fetch "a" [.fetch "b" [] (.ok 1)] (.ok 2)]
    ∃ m ∈ changesAll (empty 1 none) steps, m.evicted.map (·.source) = ["b"] ∧
      m.evicted.length ≤ 1 ∧ m.after.size ≤ 1 := by
  intro steps
  obtain ⟨m, hm, hevicted⟩ :
      ∃ m ∈ changesAll (empty 1 none) steps, m.evicted.map (·.source) = ["b"] := by
    decide +kernel
  obtain ⟨hsize, -, -, -, hone, -⟩ := (runAll_bounded 1 none steps).2 m hm
  exact ⟨m, hm, hevicted, hone, hsize⟩

end DocTemplate.Cache

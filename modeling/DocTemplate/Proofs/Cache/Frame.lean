import DocTemplate.Proofs.Cache.Bounds

/-!
# What a fetch leaves alone

A fetch whose reading does not use the cache touches the entry of its own source and no other. Only
to store a source that is not there in a full cache it removes one entry of another source, the one
that was used longest ago. If reading fails, nothing is left of the fetch but one miss, and nothing
is missing but an entry of the source that had expired.

## Main definitions

* `Cache.others` — the entries of the other sources.
* `Cache.isServed` — whether a source is served without being read.
* `Cache.Spares` — what a fetch may do to the entries of the other sources.

## Main statements

* `Cache.exists_makeRoom_eq_erase` — what makes room in a full cache.
* `Cache.Bounded.spares_fetch`, `Cache.Bounded.expired_of_missed` — what a fetch leaves alone.
* `Cache.runAll_spares` — the same at every moment of a run.
-/

namespace DocTemplate.Cache

variable {α β ε : Type} {c d : Cache α} {n : Nat} {source : String} {e : CacheEntry α} {a : α}

/-- The entries of the other sources. -/
def others (c : Cache α) (source : String) : List (CacheEntry α) :=
  c.entries.filter (·.source != source)

/-- Whether a source has an entry that has not expired. -/
def isServed (c : Cache α) (source : String) : Bool :=
  (c.entry? source).any fun e => !c.isExpired e

theorem others_erase (c : Cache α) (source : String) :
    (c.erase source).others source = c.others source := by
  simp [others, erase, List.filter_filter]

theorem others_touch (c : Cache α) (source : String) :
    (c.touch source).others source = c.others source := by
  simp only [others, touch, List.filter_map]
  have hsource : ((fun e => e.source != source) ∘ fun e : CacheEntry α =>
      if e.source == source then { e with lastUse := c.ticks, uses := e.uses + 1 } else e) =
        fun e => e.source != source := by
    funext e
    by_cases he : e.source = source <;> simp [he]
  rw [hsource]
  refine (List.map_congr_left fun e he => ?_).trans (List.map_id _)
  have hne : e.source ≠ source := by simpa using (List.mem_filter.mp he).2
  simp [hne]

theorem others_insert (c : Cache α) (source : String) (a : α) :
    (c.insert source a).others source = c.others source := by
  simp [others, insert, erase, List.filter_append, List.filter_filter]

theorem others_of_not_contains (h : c.contains source = false) :
    c.others source = c.entries := by
  refine List.filter_eq_self.mpr fun e he => bne_iff_ne.mpr fun heq => ?_
  simp [contains_iff_exists.mpr ⟨e, he, heq⟩] at h

theorem erase_of_not_contains (h : c.contains source = false) : c.erase source = c := by
  have hentries : c.entries.filter (·.source != source) = c.entries := others_of_not_contains h
  rw [erase, hentries]

theorem contains_erase (c : Cache α) (source : String) :
    (c.erase source).contains source = false := by
  simp [contains, entry?, erase]

theorem size_erase_lt (h : c.contains source = true) : (c.erase source).size < c.size := by
  obtain ⟨e, he, rfl⟩ := contains_iff_exists.mp h
  exact List.length_filter_lt_length_iff_exists.mpr ⟨e, he, by simp⟩

/-- A full cache makes room for a source that is not there by the entry that was used longest ago,
and by no other. -/
theorem exists_makeRoom_eq_erase (h : c.Bounded n) (hpos : 0 < n) (hfull : c.size = n)
    (hnew : c.contains source = false) :
    ∃ victim ∈ c.entries, (∀ e ∈ c.entries, e ≠ victim → victim.lastUse < e.lastUse) ∧
      c.makeRoom source = c.erase victim.source := by
  obtain ⟨es, hranked, -⟩ := h.ranked
  have hlength := hranked.size_eq
  obtain rfl | ⟨es, victim, rfl⟩ := List.eq_nil_or_concat es
  · simp at hlength
    omega
  rw [List.concat_eq_append] at hranked
  refine ⟨victim, hranked.perm.mem_iff.mp (by simp), fun e he hne => ?_, ?_⟩
  · have he' : e ∈ es := by simpa [hne] using hranked.perm.mem_iff.mpr he
    exact (List.pairwise_append.mp hranked.decreasing).2.2 e he' victim (by simp)
  · exact hranked.makeRoom_eq_erase (h.capacity.trans hfull.symm) hnew

theorem makeRoom_of_size_lt (h : c.size < c.capacity) : c.makeRoom source = c := by
  rw [makeRoom, if_neg fun hc => Nat.not_le_of_lt h hc.1]

/-- What a fetch may do to the entries of the other sources: it leaves all of them as they are, or
it removes the one that was used longest ago, to store a source that was not there in a full
cache. -/
inductive Spares (c : Cache α) (source : String) (d : Cache α) : Prop
  | all (h : d.others source = c.others source)
  | evicts (victim : CacheEntry α) (hmem : victim ∈ c.entries)
      (hleast : ∀ e ∈ c.entries, e ≠ victim → victim.lastUse < e.lastUse)
      (hnew : c.contains source = false) (hfull : c.size = c.capacity)
      (hstored : d.contains source = true)
      (h : d.others source = (c.others source).filter (·.source != victim.source))

/-- To store a source that is not there spares the entries of the others. -/
theorem Bounded.spares_insert (h : c.Bounded n) (hpos : 0 < n) (hnew : c.contains source = false)
    (a : α) : Spares c source ((c.makeRoom source).insert source a) := by
  have hcapacity := h.capacity
  by_cases hfull : c.size = n
  · obtain ⟨victim, hmem, hleast, hroom⟩ := exists_makeRoom_eq_erase h hpos hfull hnew
    refine .evicts victim hmem hleast hnew (by omega) (contains_insert.mpr (.inl rfl)) ?_
    rw [others_insert, hroom]
    simp only [others, erase, List.filter_filter, Bool.and_comm]
  · have hsize := h.size_le
    rw [makeRoom_of_size_lt (by omega)]
    exact .all (others_insert c source a)

/-- What the lookup of a source in vain leaves. -/
def missed (c : Cache α) (source : String) : Cache α :=
  { c.erase source with misses := c.misses + 1 }

theorem Bounded.missed (h : c.Bounded n) (source : String) : (c.missed source).Bounded n :=
  h.filter rfl rfl rfl

/-- To store a source that was looked up in vain spares the entries of the others. Where the source
had an entry that had expired, its place is free. -/
theorem Bounded.spares_store_missed (h : c.Bounded n) (source : String) (a : α) :
    Spares c source ((c.missed source).store source a).2 := by
  have hmissed := h.missed source
  have hnew : (c.missed source).contains source = false := contains_erase c source
  have hothers : (c.missed source).others source = c.others source := others_erase c source
  obtain rfl | hpos := Nat.eq_zero_or_pos n
  · rw [store, if_pos hmissed.capacity]
    exact .all hothers
  have hnone : entry? (c.missed source) source = none := by simpa [contains] using hnew
  rw [store_of_none (by rwa [hmissed.capacity]) hnone]
  cases hcontains : c.contains source with
  | true =>
    have hless : (c.missed source).size < n :=
      Nat.lt_of_lt_of_le (size_erase_lt hcontains) h.size_le
    rw [makeRoom_of_size_lt (by rwa [hmissed.capacity])]
    exact .all ((others_insert _ source a).trans hothers)
  | false =>
    have hsame : c.missed source = { c with misses := c.misses + 1 } := by
      rw [Cache.missed, erase_of_not_contains hcontains]
    have hspares := hmissed.spares_insert hpos hnew a
    rw [hsame] at hspares ⊢
    cases hspares with
    | all h => exact .all h
    | evicts victim hmem hleast hnew hfull hstored h =>
      exact .evicts victim hmem hleast hnew hfull hstored h

theorem entry?_of_isServed (h : c.isServed source = true) :
    ∃ e, c.entry? source = some e ∧ c.isExpired e = false := by
  simpa [isServed, Option.any_eq_true] using h

/-- A source that is not served is looked up in vain. -/
theorem lookup_of_not_isServed (h : c.isServed source = false) :
    c.lookup source = (none, c.missed source) := by
  cases he : c.entry? source with
  | none => rw [lookup_of_none he, missed, erase_of_not_contains (by simp [contains, he])]
  | some e =>
    have hexpired : c.isExpired e = true := by simpa [isServed, he] using h
    simp [lookup, missed, he, hexpired]

section Pure

variable (outcome : Except ε α) (report : β)

/-- A source that is served is not read. -/
theorem fetch_of_isServed (h : c.isServed source = true) :
    ∃ e, c.entry? source = some e ∧ (c.fetch source fun d => ((outcome, report), d)) =
      ((.ok e.content, none), { c.touch source with hits := c.hits + 1 }) := by
  obtain ⟨e, he, hfresh⟩ := entry?_of_isServed h
  exact ⟨e, he, by simp only [fetch, lookup_of_entry he hfresh]⟩

/-- A fetch whose reading does not use the cache spares the entries of the other sources. -/
theorem Bounded.spares_fetch (h : c.Bounded n) (source : String) :
    Spares c source (c.fetch source fun d => ((outcome, report), d)).2 := by
  cases hserved : c.isServed source with
  | true =>
    obtain ⟨e, -, hfetch⟩ := fetch_of_isServed outcome report hserved
    rw [hfetch]
    exact .all (others_touch c source)
  | false =>
    cases outcome with
    | error error =>
      simp only [fetch, lookup_of_not_isServed hserved]
      exact .all (others_erase c source)
    | ok a =>
      simp only [fetch, lookup_of_not_isServed hserved]
      exact h.spares_store_missed source a

end Pure

/-- All that a lookup in vain removes is the entry of its source, which has expired. -/
theorem Bounded.expired_of_missed (h : c.Bounded n) (hserved : c.isServed source = false)
    (he : e ∈ c.entries) (hgone : e ∉ (c.missed source).entries) :
    e.source = source ∧ c.isExpired e = true := by
  have hsource : e.source = source := by
    by_contra hne
    exact hgone (List.mem_filter.mpr ⟨he, bne_iff_ne.mpr hne⟩)
  obtain ⟨es, hranked, -⟩ := h.ranked
  have hentry : c.entry? source = some e :=
    hranked.entry?_eq_some_iff.mpr ⟨hranked.perm.mem_iff.mpr he, hsource⟩
  exact ⟨hsource, by simpa [isServed, hentry] using hserved⟩

/-- At every moment of a run, also while sources are read, a fetch whose reading does not use the
cache spares the entries of the other sources: they are the same records as before, but for the one
that makes room. A source with an entry that has not expired is not read. Any other source is read,
and if that fails the fetch returns the error, one miss is counted, and all else stays as it is, but
for an expired entry of the source, which is gone. -/
theorem runAll_spares (capacity : Nat) (lifetime : Option Nat) (steps : List (Step α ε))
    {earlier later : List (Change α)}
    (h : changesAll (empty capacity lifetime) steps = earlier ++ later) :
    ∃ c, Linked (empty capacity lifetime) earlier c ∧
      Linked c later (runAll (empty capacity lifetime) steps).2 ∧
      ∀ (source : String) (outcome : Except ε α) (report : β),
        let r := c.fetch source fun d => ((outcome, report), d)
        Spares c source r.2 ∧
        (c.isServed source = true → r.1.2 = none) ∧
        (c.isServed source = false → ∀ error, outcome = .error error →
          r.1 = (.error error, some report) ∧
          r.2 = { c with entries := r.2.entries, misses := c.misses + 1 } ∧
          r.2.entries.Sublist c.entries ∧
          ∀ e ∈ c.entries, e ∉ r.2.entries → e.source = source ∧ c.isExpired e = true) := by
  obtain ⟨c, hearlier, hlater⟩ := (h ▸ linked_changesAll _ steps).exists_between
  have hbounded := (bounded_empty capacity lifetime).linked hearlier
  refine ⟨c, hearlier, hlater, fun source outcome report => ?_⟩
  refine ⟨hbounded.spares_fetch outcome report source, fun hserved => ?_, ?_⟩
  · obtain ⟨e, -, hfetch⟩ := fetch_of_isServed outcome report hserved
    rw [hfetch]
  · rintro hserved error rfl
    have hfetch : (c.fetch source fun d => ((.error error, report), d)) =
        ((.error error, some report), c.missed source) := by
      simp only [fetch, lookup_of_not_isServed hserved]
    rw [hfetch]
    exact ⟨rfl, rfl, List.filter_sublist, fun e he hgone =>
      hbounded.expired_of_missed hserved he hgone⟩

/-- `a` has expired and `b` has not. To store `c` costs the entry of `a`, which was used longest
ago; to read `a` again in vain costs it as well, and leaves that of `b`. -/
theorem runAll_spares_expired :
    let steps : List (Step Nat Unit) :=
      [.fetch "a" [] (.ok 1), .wait 9, .fetch "b" [] (.ok 2)]
    let c := (runAll (empty 2 (some 8)) steps).2
    let stored := (c.fetch "c" fun d => ((.ok 3, ()), d) : (Except Unit Nat × Option Unit) × _).2
    let failed := (c.fetch "a" fun d => ((.error (), ()), d) : (Except Unit Nat × Option Unit) × _)
    (Spares c "c" stored ∧ stored.entries.map (·.source) = ["b", "c"]) ∧
    failed.1 = (.error (), some ()) ∧ failed.2.misses = c.misses + 1 ∧
    failed.2.entries.map (·.source) = ["b"] := by
  intro steps c stored failed
  have h : changesAll (empty 2 (some 8)) steps = changesAll (empty 2 (some 8)) steps ++ [] :=
    (List.append_nil _).symm
  obtain ⟨c', -, hlater, hfetch⟩ := runAll_spares (β := Unit) 2 (some 8) steps h
  obtain rfl : c' = c := by
    cases hlater
    rfl
  obtain ⟨hspares, -, -⟩ := hfetch "c" (.ok 3) ()
  obtain ⟨-, -, hfailed⟩ := hfetch "a" (.error ()) ()
  obtain ⟨hresult, hrest, -, -⟩ := hfailed (by decide +kernel) () rfl
  exact ⟨⟨hspares, by decide +kernel⟩, hresult, congrArg Cache.misses hrest, by decide +kernel⟩

end DocTemplate.Cache

import DocTemplate.Cache.Run

/-!
# The ways through a fetch

A fetch is a hit, a miss whose reading fails or a miss whose reading succeeds. What is looked up or
stored is there or is not.

## Main statements

* `Cache.run_fetch_of_hit`, `Cache.run_fetch_of_error`, `Cache.run_fetch_of_ok` — the same for the
  steps of a run.
* `Cache.fetch_cases` — the answer and the cache after each of them.
* `Cache.makeRoom_of_erase` — making room keeps what removing an entry keeps.
-/

namespace DocTemplate.Cache

variable {α β ε : Type} {c : Cache α} {source : String} {e : CacheEntry α}

theorem lookup_of_entry (he : c.entry? source = some e) (h : c.isExpired e = false) :
    c.lookup source = (some e.content, { c.touch source with hits := c.hits + 1 }) := by
  simp [lookup, he, h]

theorem lookup_of_none (he : c.entry? source = none) :
    c.lookup source = (none, { c with misses := c.misses + 1 }) := by
  simp [lookup, he]

theorem store_of_entry (hpos : 0 < c.capacity) (he : c.entry? source = some e)
    (h : c.isExpired e = false) (a : α) : c.store source a = (e.content, c.touch source) := by
  simp [store, Nat.ne_of_gt hpos, he, h]

theorem store_of_none (hpos : 0 < c.capacity) (he : c.entry? source = none) (a : α) :
    c.store source a = (a, (c.makeRoom source).insert source a) := by
  simp [store, Nat.ne_of_gt hpos, he]

/-- A fetch is a hit, a miss that cannot be read or a miss that is read and stored. -/
theorem fetch_cases (c : Cache α) (source : String)
    (read : Cache α → (Except ε α × β) × Cache α) :
    (∃ a d, c.lookup source = (some a, d) ∧ c.fetch source read = ((.ok a, none), d)) ∨
    (∃ d error report d', c.lookup source = (none, d) ∧ read d = ((.error error, report), d') ∧
      c.fetch source read = ((.error error, some report), d')) ∨
    ∃ d a report d', c.lookup source = (none, d) ∧ read d = ((.ok a, report), d') ∧
      c.fetch source read =
        ((.ok (d'.store source a).1, some report), (d'.store source a).2) := by
  obtain ⟨found, d, hl⟩ : ∃ found d, c.lookup source = (found, d) := ⟨_, _, rfl⟩
  cases found with
  | some a => exact .inl ⟨a, d, hl, by simp only [fetch, hl]⟩
  | none =>
    obtain ⟨result, report, d', hr⟩ : ∃ result report d', read d = ((result, report), d') :=
      ⟨_, _, _, rfl⟩
    cases result with
    | error error => exact .inr (.inl ⟨d, error, report, d', hl, hr, by simp only [fetch, hl, hr]⟩)
    | ok a => exact .inr (.inr ⟨d, a, report, d', hl, hr, by simp only [fetch, hl, hr]⟩)

section Run

variable {d d' : Cache α} {a : α} {during : List (Step α ε)} {answers : List (Answer α ε)}

theorem run_fetch_of_hit (hl : c.lookup source = (some a, d)) (outcome : Except ε α) :
    run c (.fetch source during outcome) = (.fetched (.ok a) none, d) := by
  simp only [run, fetch, hl]

theorem run_fetch_of_error (hl : c.lookup source = (none, d))
    (hr : runAll d during = (answers, d')) (error : ε) :
    run c (.fetch source during (.error error)) =
      (.fetched (.error error) (some answers), d') := by
  simp only [run, fetch, hl, hr]

theorem run_fetch_of_ok (hl : c.lookup source = (none, d))
    (hr : runAll d during = (answers, d')) (a : α) :
    run c (.fetch source during (.ok a)) =
      (.fetched (.ok (d'.store source a).1) (some answers), (d'.store source a).2) := by
  simp only [run, fetch, hl, hr]

end Run

/-- Making room does nothing but remove entries. -/
theorem makeRoom_of_erase {P : Cache α → Prop} (h : P c)
    (herase : ∀ (d : Cache α) (victim : String), P d → P (d.erase victim)) (source : String) :
    P (c.makeRoom source) := by
  fun_induction Cache.makeRoom c source with
  | case1 c _ d hd ih =>
    obtain ⟨e, _, rfl⟩ := Option.map_eq_some_iff.mp hd
    exact ih (herase c e.source h)
  | case2 => exact h
  | case3 => exact h

theorem settings_makeRoom (c : Cache α) (source : String) :
    (c.makeRoom source).capacity = c.capacity ∧ (c.makeRoom source).lifetime = c.lifetime :=
  makeRoom_of_erase (P := fun d => d.capacity = c.capacity ∧ d.lifetime = c.lifetime) ⟨rfl, rfl⟩
    (fun _ _ hd => hd) source

end DocTemplate.Cache

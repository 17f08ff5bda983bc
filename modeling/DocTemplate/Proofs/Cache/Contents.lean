import DocTemplate.Proofs.Cache.Basic

/-!
# What a cache holds

A property of sources and contents that all entries of a cache have is kept by its operations, and
what is served for a source has it as well.

## Main definitions

* `Cache.Holds` — all entries have a property.

## Main statements

* `Cache.Holds.fetch` — a cache of what sources are parsed as serves what they are parsed as.
-/

namespace DocTemplate.Cache

variable {α β ε : Type} {P : String → α → Prop} {c d : Cache α} {source : String} {a : α}

/-- All entries of a cache have a property. -/
def Holds (P : String → α → Prop) (c : Cache α) : Prop :=
  ∀ e ∈ c.entries, P e.source e.content

@[simp] theorem holds_empty (capacity : Nat) (lifetime : Option Nat) :
    (empty capacity lifetime : Cache α).Holds P := by
  simp [Holds, empty]

theorem Holds.mono (h : c.Holds P) (hd : d.entries ⊆ c.entries) : d.Holds P :=
  fun e he => h e (hd he)

theorem Holds.content {e : CacheEntry α} (h : c.Holds P) (he : c.entry? source = some e) :
    P source e.content := by
  have hsource : e.source = source := by simpa using List.find?_some he
  exact hsource ▸ h e (List.mem_of_find?_eq_some he)

theorem Holds.erase (h : c.Holds P) (source : String) : (c.erase source).Holds P :=
  h.mono List.filter_sublist.subset

theorem Holds.touch (h : c.Holds P) (source : String) : (c.touch source).Holds P := by
  intro e he
  obtain ⟨f, hf, rfl⟩ := List.mem_map.mp he
  split <;> exact h f hf

theorem Holds.makeRoom (h : c.Holds P) (source : String) : (c.makeRoom source).Holds P :=
  makeRoom_of_erase h (fun _ victim hd => hd.erase victim) source

theorem Holds.insert (h : c.Holds P) (ha : P source a) : (c.insert source a).Holds P := by
  intro e he
  obtain he | he := List.mem_append.mp he
  · exact h.erase source e he
  · rw [List.mem_singleton] at he
    exact he ▸ ha

theorem Holds.lookup (h : c.Holds P) (source : String) : (c.lookup source).2.Holds P := by
  unfold Cache.lookup
  split
  · split
    · exact h.erase source
    · exact h.touch source
  · exact h

theorem Holds.of_lookup (h : c.Holds P) (ha : (c.lookup source).1 = some a) : P source a := by
  unfold Cache.lookup at ha
  split at ha
  · rename_i e he
    split at ha
    · cases ha
    · cases ha
      exact h.content he
  · cases ha

theorem Holds.store (h : c.Holds P) (ha : P source a) : (c.store source a).2.Holds P := by
  unfold Cache.store
  split
  · exact h
  split
  · split
    · exact (h.makeRoom source).insert ha
    · exact h.touch source
  · exact (h.makeRoom source).insert ha

theorem Holds.served (h : c.Holds P) (ha : P source a) : P source (c.store source a).1 := by
  unfold Cache.store
  split
  · exact ha
  split
  · rename_i e he
    split
    · exact ha
    · exact h.content he
  · exact ha

theorem Holds.purge (h : c.Holds P) : c.purge.2.Holds P :=
  h.mono List.filter_sublist.subset

@[simp] theorem holds_clear (c : Cache α) : c.clear.Holds P := by
  simp [Holds, clear]

theorem Holds.wait (h : c.Holds P) (millis : Nat) : (c.wait millis).Holds P :=
  h

/-- If every content is what its source is parsed as, what is served for a source is what it is
parsed as. -/
theorem Holds.fetch {parse : String → Except ε α} (h : c.Holds fun source a => parse source = .ok a)
    (source : String) (read : Cache α → (Except ε α × β) × Cache α)
    (hread : ∀ d : Cache α, d.Holds (fun source a => parse source = .ok a) →
      (read d).1.1 = parse source ∧ (read d).2.Holds fun source a => parse source = .ok a) :
    (c.fetch source read).1.1 = parse source ∧
      (c.fetch source read).2.Holds fun source a => parse source = .ok a := by
  have hd := h.lookup source
  obtain ⟨a, d, hl, hf⟩ | ⟨d, error, report, d', hl, hr, hf⟩ | ⟨d, a, report, d', hl, hr, hf⟩ :=
    fetch_cases c source read
  all_goals rw [hl] at hd; rw [hf]
  · have ha : parse source = .ok a := h.of_lookup (by rw [hl])
    exact ⟨ha.symm, hd⟩
  · have hd' := hread d hd
    rw [hr] at hd'
    exact hd'
  · have hd' := hread d hd
    rw [hr] at hd'
    obtain ⟨ha, hd'⟩ := hd'
    exact ⟨(hd'.served ha.symm).symm, hd'.store ha.symm⟩

end DocTemplate.Cache

import DocTemplate.Proofs.Cache.Basic
import Mathlib.Data.List.Nodup

/-!
# The order of use

The entries of a cache in the order in which they were used, the one used last first. No source has
two entries, and no two entries were used at the same tick.

## Main definitions

* `Cache.RankedBy` — a list of the entries in the order of use.

## Main statements

* `Cache.RankedBy.touch`, `Cache.RankedBy.insert` — a use puts an entry in front.
* `Cache.RankedBy.evict?` — what makes room is the entry at the end.
* `Cache.RankedBy.makeRoom` — a source that is not there costs at most one entry.
-/

namespace DocTemplate.Cache

variable {α : Type} {c d : Cache α} {es : List (CacheEntry α)} {e f : CacheEntry α}
  {source : String}

theorem foldl_earlier_le (e : CacheEntry α) (es : List (CacheEntry α)) :
    ∀ f ∈ e :: es, (es.foldl (fun least f => if f.lastUse < least.lastUse then f else least)
      e).lastUse ≤ f.lastUse := by
  induction es generalizing e with
  | nil => simp
  | cons g es ih =>
    intro f hf
    rw [List.foldl_cons]
    split
    · have hg := ih g g List.mem_cons_self
      obtain rfl | hf := List.mem_cons.mp hf
      · omega
      · exact ih g f hf
    · have he := ih e e List.mem_cons_self
      obtain rfl | rfl | hf : f = e ∨ f = g ∨ f ∈ es := by simpa using hf
      · exact he
      · omega
      · exact ih e f (List.mem_cons_of_mem e hf)

theorem lastUse_oldest?_le (he : c.oldest? = some e) (hf : f ∈ c.entries) :
    e.lastUse ≤ f.lastUse := by
  unfold oldest? at he
  split at he
  · cases he
  · rename_i g gs hentries
    cases he
    exact foldl_earlier_le g gs f (hentries ▸ hf)

/-- The entries of a cache in the order of use, the one used last first. -/
structure RankedBy (c : Cache α) (es : List (CacheEntry α)) : Prop where
  perm : es.Perm c.entries
  nodup : (es.map (·.source)).Nodup
  decreasing : es.Pairwise fun e f => f.lastUse < e.lastUse
  below : ∀ e ∈ es, e.lastUse < c.ticks

theorem rankedBy_nil (h : c.entries = []) : c.RankedBy [] :=
  ⟨by simp [h], by simp, .nil, by simp⟩

namespace RankedBy

theorem congr (h : c.RankedBy es) (hentries : d.entries = c.entries) (hticks : d.ticks = c.ticks) :
    d.RankedBy es :=
  ⟨hentries ▸ h.perm, h.nodup, h.decreasing, hticks ▸ h.below⟩

theorem size_eq (h : c.RankedBy es) : c.size = es.length :=
  h.perm.length_eq.symm

theorem entry?_eq_some_iff (h : c.RankedBy es) :
    c.entry? source = some e ↔ e ∈ es ∧ e.source = source := by
  constructor
  · intro he
    refine ⟨h.perm.mem_iff.mpr (List.mem_of_find?_eq_some he), ?_⟩
    simpa using List.find?_some he
  · rintro ⟨he, rfl⟩
    obtain ⟨f, hf⟩ : ∃ f, c.entry? e.source = some f := by
      rw [← Option.isSome_iff_exists, entry?, List.find?_isSome]
      exact ⟨e, h.perm.mem_iff.mp he, by simp⟩
    have hsource : f.source = e.source := by simpa using List.find?_some hf
    rw [hf, List.inj_on_of_nodup_map h.nodup (h.perm.mem_iff.mpr (List.mem_of_find?_eq_some hf)) he
      hsource]

theorem contains_iff (h : c.RankedBy es) :
    c.contains source = true ↔ source ∈ es.map (·.source) := by
  simp [contains, Option.isSome_iff_exists, h.entry?_eq_some_iff]

/-- Entries can be removed. -/
theorem filter (h : c.RankedBy es) {p : CacheEntry α → Bool}
    (hentries : d.entries = c.entries.filter p) (hticks : d.ticks = c.ticks) :
    d.RankedBy (es.filter p) where
  perm := hentries ▸ h.perm.filter p
  nodup := h.nodup.sublist (List.filter_sublist.map _)
  decreasing := h.decreasing.filter p
  below e he := hticks ▸ h.below e (List.mem_filter.mp he).1

theorem erase (h : c.RankedBy es) (source : String) :
    (c.erase source).RankedBy (es.filter (·.source != source)) :=
  h.filter rfl rfl

/-- An entry that is used now comes in front. -/
theorem cons (h : c.RankedBy es) (hd : d.entries.Perm (e :: es)) (hticks : d.ticks = c.ticks + 1)
    (hlast : e.lastUse = c.ticks) (hnew : e.source ∉ es.map (·.source)) : d.RankedBy (e :: es) where
  perm := hd.symm
  nodup := List.nodup_cons.mpr ⟨hnew, h.nodup⟩
  decreasing := List.pairwise_cons.mpr ⟨fun f hf => hlast ▸ h.below f hf, h.decreasing⟩
  below := by
    intro f hf
    obtain rfl | hf := List.mem_cons.mp hf
    · omega
    · have := h.below f hf
      omega

theorem insert (h : c.RankedBy es) (source : String) (a : α) :
    (c.insert source a).RankedBy
      (⟨source, a, c.clock, c.ticks, 0⟩ :: es.filter (·.source != source)) := by
  have h' := h.erase source
  exact h'.cons ((List.perm_append_singleton _ _).trans (h'.perm.symm.cons _)) rfl rfl (by simp)

theorem perm_cons_filter (h : c.RankedBy es) (he : e ∈ es) :
    es.Perm (e :: es.filter (·.source != e.source)) := by
  have hnodup : es.Nodup := h.nodup.of_map _
  have hnodup' : (e :: es.filter (·.source != e.source)).Nodup :=
    List.nodup_cons.mpr ⟨by simp, hnodup.filter _⟩
  refine (List.perm_ext_iff_of_nodup hnodup hnodup').mpr fun f => ?_
  simp only [List.mem_cons, List.mem_filter, bne_iff_ne, ne_eq]
  constructor
  · intro hf
    by_cases hsource : f.source = e.source
    · exact .inl (List.inj_on_of_nodup_map h.nodup hf he hsource)
    · exact .inr ⟨hf, hsource⟩
  · rintro (rfl | ⟨hf, -⟩)
    · exact he
    · exact hf

theorem touch (h : c.RankedBy es) (he : e ∈ es) :
    (c.touch e.source).RankedBy
      ({ e with lastUse := c.ticks, uses := e.uses + 1 } :: es.filter (·.source != e.source)) := by
  refine (h.erase e.source).cons ?_ rfl rfl (by simp)
  -- The entry that is touched comes first, the ones behind it are not changed.
  refine ((h.perm.symm.trans (h.perm_cons_filter he)).map _).trans (List.Perm.of_eq ?_)
  have hother : ∀ f ∈ es.filter (·.source != e.source), (f.source == e.source) = false := by
    simp
  rw [List.map_cons, if_pos (beq_self_eq_true e.source)]
  refine congrArg _ ((List.map_congr_left fun f hf => ?_).trans (List.map_id _))
  simp [hother f hf]

/-- The entry at the end was used longest ago. -/
theorem oldest?_eq (h : c.RankedBy (es ++ [e])) : c.oldest? = some e := by
  obtain ⟨f, hf⟩ : ∃ f, c.oldest? = some f := by
    have he : e ∈ c.entries := h.perm.mem_iff.mp (by simp)
    obtain ⟨f, fs, hentries⟩ := List.exists_cons_of_ne_nil (List.ne_nil_of_mem he)
    simp [oldest?, hentries]
  have hlast : f.lastUse ≤ e.lastUse := lastUse_oldest?_le hf (h.perm.mem_iff.mp (by simp))
  obtain hmem | hmem := List.mem_append.mp (h.perm.mem_iff.mpr (mem_of_oldest? hf))
  · have := (List.pairwise_append.mp h.decreasing).2.2 f hmem e (by simp)
    omega
  · rw [hf, List.mem_singleton.mp hmem]

theorem evict? (h : c.RankedBy (es ++ [e])) :
    c.evict? = some (c.erase e.source) ∧ (c.erase e.source).RankedBy es := by
  have hes : (es ++ [e]).filter (·.source != e.source) = es := by
    have hne : ∀ f ∈ es, f.source ≠ e.source := by
      have hnodup := h.nodup
      rw [List.map_append, List.nodup_append] at hnodup
      exact fun f hf => hnodup.2.2 _ (List.mem_map_of_mem hf) _ (by simp)
    simpa using hne
  refine ⟨by simp [Cache.evict?, h.oldest?_eq], ?_⟩
  have := h.erase e.source
  rwa [hes] at this

/-- A full cache makes room for a source that is not there by the entry at the end. -/
theorem makeRoom_eq_erase (h : c.RankedBy (es ++ [e])) (hfull : c.capacity = c.size)
    (hnew : c.contains source = false) : c.makeRoom source = c.erase e.source := by
  have hevict := h.evict?.1
  -- One entry less is enough, so that the loop ends after its first turn.
  have hroom : ¬(c.erase e.source).capacity ≤ (c.erase e.source).size := by
    have hless := size_of_evict? hevict
    have hsame : (c.erase e.source).capacity = c.capacity := rfl
    omega
  rw [Cache.makeRoom, if_pos ⟨Nat.le_of_eq hfull, by simp [hnew]⟩]
  split
  · rename_i d hd
    obtain rfl := Option.some.inj (hevict.symm.trans hd)
    rw [Cache.makeRoom, if_neg fun hc => hroom hc.1]
  · simp_all

/-- A source that is not there costs a full cache the entry at the end and no other. -/
theorem makeRoom (h : c.RankedBy es) (hsize : c.size ≤ c.capacity) (hpos : 0 < c.capacity)
    (hsource : source ∉ es.map (·.source)) :
    (c.makeRoom source).RankedBy (es.take (c.capacity - 1)) := by
  have hlength := h.size_eq
  by_cases hfull : c.capacity = c.size
  · have hnew : c.contains source = false :=
      Bool.eq_false_iff.mpr (mt h.contains_iff.mp hsource)
    obtain rfl | ⟨es, e, rfl⟩ := List.eq_nil_or_concat es
    · simp at hlength
      omega
    rw [List.concat_eq_append] at h ⊢
    rw [List.length_concat] at hlength
    rw [h.makeRoom_eq_erase hfull hnew, List.take_left' (by omega)]
    exact h.evict?.2
  · rw [Cache.makeRoom, if_neg fun hc => hfull (Nat.le_antisymm hc.1 hsize)]
    rwa [List.take_of_length_le (by omega)]

end RankedBy

end DocTemplate.Cache

/-!
# Caches

A bounded store of what has been read from source texts. When it is full the entry that was used
longest ago makes room. Entries may have a lifetime, counted from when they were stored.

Uses are put in order by ticks, the age of entries goes by a clock in milliseconds that moves only
by `Cache.wait`.

## Main definitions

* `Cache` — the entries, the counters and the clock.
* `Cache.fetch` — what a source is read as, taken from the store or read and stored.
* `Cache.purge`, `Cache.clear` — removing expired entries, or all.
-/

namespace DocTemplate

/-- What a source was read as, when that was stored and how it has been used. -/
structure CacheEntry (α : Type) where
  source : String
  content : α
  /-- The clock when the entry was stored. -/
  storedAt : Nat
  /-- The tick of the last use. -/
  lastUse : Nat
  /-- How often the entry was served after it was stored. -/
  uses : Nat
deriving Repr

/-- A bounded store of what has been read from source texts. -/
structure Cache (α : Type) where
  capacity : Nat
  /-- How long an entry is served, in milliseconds. -/
  lifetime : Option Nat
  entries : List (CacheEntry α)
  /-- The number of uses so far. -/
  ticks : Nat
  hits : Nat
  misses : Nat
  /-- The milliseconds since the cache was made. -/
  clock : Nat
deriving Repr

namespace Cache

variable {α β ε : Type}

/-- A cache without entries. -/
def empty (capacity : Nat) (lifetime : Option Nat) : Cache α :=
  ⟨capacity, lifetime, [], 0, 0, 0, 0⟩

/-- The entry of a source. -/
def entry? (c : Cache α) (source : String) : Option (CacheEntry α) :=
  c.entries.find? (·.source == source)

/-- Whether a source has an entry, expired or not. -/
def contains (c : Cache α) (source : String) : Bool :=
  (c.entry? source).isSome

/-- How often the entry of a source was served. -/
def uses? (c : Cache α) (source : String) : Option Nat :=
  (c.entry? source).map (·.uses)

/-- The number of entries. -/
def size (c : Cache α) : Nat :=
  c.entries.length

/-- Whether an entry has outlived its time. -/
def isExpired (c : Cache α) (e : CacheEntry α) : Bool :=
  match c.lifetime with
  | some span => span < c.clock - e.storedAt
  | none => false

/-- Lets time pass. -/
def wait (c : Cache α) (millis : Nat) : Cache α :=
  { c with clock := c.clock + millis }

/-- Removes the entry of a source. -/
def erase (c : Cache α) (source : String) : Cache α :=
  { c with entries := c.entries.filter (·.source != source) }

/-- Notes that the entry of a source is served. -/
def touch (c : Cache α) (source : String) : Cache α :=
  { c with
    entries := c.entries.map fun e =>
      if e.source == source then { e with lastUse := c.ticks, uses := e.uses + 1 } else e
    ticks := c.ticks + 1 }

/-- The entry that was used longest ago. -/
def oldest? (c : Cache α) : Option (CacheEntry α) :=
  match c.entries with
  | [] => none
  | e :: es => some (es.foldl (fun least f => if f.lastUse < least.lastUse then f else least) e)

/-- The cache without the entry that was used longest ago, if there is one. -/
def evict? (c : Cache α) : Option (Cache α) :=
  c.oldest?.map fun e => c.erase e.source

theorem foldl_earlier_mem (e : CacheEntry α) (es : List (CacheEntry α)) :
    es.foldl (fun least f => if f.lastUse < least.lastUse then f else least) e ∈ e :: es := by
  induction es generalizing e with
  | nil => simp
  | cons f es ih =>
    rw [List.foldl_cons]
    split
    · exact List.mem_cons_of_mem _ (ih f)
    · exact List.cons_subset_cons _ (List.subset_cons_self f es) (ih e)

theorem mem_of_oldest? {c : Cache α} {e : CacheEntry α} (h : c.oldest? = some e) :
    e ∈ c.entries := by
  unfold oldest? at h
  split at h
  · cases h
  · rename_i f fs hentries
    cases h
    exact hentries ▸ foldl_earlier_mem f fs

theorem size_of_evict? {c d : Cache α} (h : c.evict? = some d) : d.size < c.size := by
  obtain ⟨e, he, rfl⟩ := Option.map_eq_some_iff.mp h
  exact List.length_filter_lt_length_iff_exists.mpr ⟨e, mem_of_oldest? he, by simp⟩

/-- Makes room for a source that is not there, as long as the cache is full. -/
def makeRoom (c : Cache α) (source : String) : Cache α :=
  if c.capacity ≤ c.size ∧ ¬c.contains source then
    match _h : c.evict? with
    | some d => d.makeRoom source
    | none => c
  else c
termination_by c.size
decreasing_by exact size_of_evict? _h

/-- Puts a new entry in the place of the one that the source may have. -/
def insert (c : Cache α) (source : String) (content : α) : Cache α :=
  let c := c.erase source
  { c with
    entries := c.entries ++ [⟨source, content, c.clock, c.ticks, 0⟩]
    ticks := c.ticks + 1 }

/-- Looks a source up. An entry that has expired is removed and counts as missing. -/
def lookup (c : Cache α) (source : String) : Option α × Cache α :=
  match c.entry? source with
  | some e =>
    if c.isExpired e then (none, { c.erase source with misses := c.misses + 1 })
    else (some e.content, { c.touch source with hits := c.hits + 1 })
  | none => (none, { c with misses := c.misses + 1 })

/-- Stores what a source was read as, and says what is served for it. If the source was stored
meanwhile its entry is served. A cache without room stores nothing. -/
def store (c : Cache α) (source : String) (content : α) : α × Cache α :=
  if c.capacity = 0 then (content, c)
  else
    match c.entry? source with
    | some e =>
      if c.isExpired e then (content, (c.makeRoom source).insert source content)
      else (e.content, c.touch source)
    | none => (content, (c.makeRoom source).insert source content)

/-- What a source is read as. If it is not in the store it is read, and reading may use the same
cache; what reading reports beside its result is returned, and is none if nothing was read. -/
def fetch (c : Cache α) (source : String) (read : Cache α → (Except ε α × β) × Cache α) :
    (Except ε α × Option β) × Cache α :=
  match c.lookup source with
  | (some content, c) => ((.ok content, none), c)
  | (none, c) =>
    match read c with
    | ((.error e, report), c) => ((.error e, some report), c)
    | ((.ok content, report), c) =>
      let (served, c) := c.store source content
      ((.ok served, some report), c)

/-- Removes the expired entries and counts them. -/
def purge (c : Cache α) : Nat × Cache α :=
  ((c.entries.filter c.isExpired).length,
    { c with entries := c.entries.filter fun e => !c.isExpired e })

/-- Removes all entries and starts counting anew. -/
def clear (c : Cache α) : Cache α :=
  { c with entries := [], hits := 0, misses := 0 }

/-- The share of hits among all lookups. -/
def hitRate (c : Cache α) : Float :=
  if c.hits + c.misses = 0 then 0
  else Float.ofNat c.hits / Float.ofNat (c.hits + c.misses)

end Cache

end DocTemplate

import Zradar.Lib.BigEndian
import Zradar.Lib.RecencyList

/-! The sharded cache of file bytes in memory, and its count of the bytes that it holds. -/

namespace Zradar.Parquet

/-- A count of bytes, with whether a subtraction from it has ever been cut off at zero. -/
structure UsedBytes where
  count : Nat
  saturated : Bool
  deriving DecidableEq

/-- Count some bytes less, with zero as the least result. -/
def UsedBytes.saturatingSub (used : UsedBytes) (bytes : Nat) : UsedBytes :=
  ⟨used.count - bytes, used.saturated || used.count < bytes⟩

/-- Count some bytes more. -/
def UsedBytes.add (used : UsedBytes) (bytes : Nat) : UsedBytes :=
  -- All that is counted is in memory, so the sum is within 64 bits.
  { used with count := used.count + bytes }

/-- The size of a value in bytes. -/
abbrev sizeOfBytes (value : Bytes) : Nat := value.length

/-- An LRU cache that is bounded by a number of bytes. -/
structure Shard where
  cache : RecencyList String Bytes
  usedBytes : UsedBytes
  maxBytes : Nat

namespace Shard

def new (maxBytes : Nat) : Shard := ⟨.empty, ⟨0, false⟩, maxBytes⟩

/-- Pop the least recently used entries until there is room, or nothing is left. -/
def evict (newSize maxBytes : Nat) :
    List (String × Bytes) → UsedBytes → List (String × Bytes) × UsedBytes
  | [], used => ([], used)
  | entry :: entries, used =>
    if maxBytes < used.count + newSize then
      evict newSize maxBytes entries (used.saturatingSub (sizeOfBytes entry.2))
    else (entry :: entries, used)

theorem evict_suffix (newSize maxBytes : Nat) (entries : List (String × Bytes)) (used : UsedBytes) :
    (evict newSize maxBytes entries used).1 <:+ entries := by
  -- Entries are only ever taken from the front.
  induction entries generalizing used with
  | nil => exact List.suffix_rfl
  | cons entry entries ih =>
    unfold evict
    split
    · exact (ih _).trans (List.suffix_cons entry entries)
    · exact List.suffix_rfl

/-- Insert a value, in place of one under the same key. -/
def insert (shard : Shard) (key : String) (value : Bytes) : Shard :=
  let newSize := sizeOfBytes value
  let evicted := evict newSize shard.maxBytes shard.cache.entries shard.usedBytes
  let room := shard.cache.rest evicted.1 (evict_suffix newSize _ _ _)
  -- The old entry of the key is removed only now, if it was not evicted.
  let used := match (room.pop key).1 with
    | some old => evicted.2.saturatingSub (sizeOfBytes old)
    | none => evicted.2
  { shard with
    cache := (room.pop key).2.put key value
    usedBytes := used.add newSize }

def get (shard : Shard) (key : String) : Option Bytes × Shard :=
  ((shard.cache.get key).1, { shard with cache := (shard.cache.get key).2 })

/-- Remove the entry of a key. -/
def remove (shard : Shard) (key : String) : Shard :=
  { shard with
    cache := (shard.cache.pop key).2
    usedBytes := match (shard.cache.pop key).1 with
      | some evicted => shard.usedBytes.saturatingSub (sizeOfBytes evicted)
      | none => shard.usedBytes }

end Shard

/-- A cache of shards, each of which takes the keys of one remainder of their hash. -/
structure MemoryCache where
  hash : String → UInt64
  shards : List Shard
  shardCount : Nat
  counted : shards.length = shardCount
  positive : 0 < shardCount

namespace MemoryCache

/-- A cache without entries, which divides its limit evenly. -/
def new (hash : String → UInt64) (maxBytes shardCount : Nat) : MemoryCache where
  hash := hash
  shards := List.replicate (max shardCount 1) (.new (max (maxBytes / max shardCount 1) 1))
  shardCount := max shardCount 1
  counted := List.length_replicate
  positive := by omega

variable (cache : MemoryCache) (key : String)

def shardIndex : Nat := (cache.hash key).toNat % cache.shardCount

/-- Every key has a shard. -/
theorem shardIndex_lt : cache.shardIndex key < cache.shards.length := by
  rw [cache.counted]
  exact Nat.mod_lt _ cache.positive

/-- The shard of a key. -/
def shard : Shard := cache.shards.get ⟨cache.shardIndex key, cache.shardIndex_lt key⟩

/-- Put another shard in the place of the one of a key. -/
def setShard (shard : Shard) : MemoryCache :=
  { cache with
    shards := cache.shards.set (cache.shardIndex key) shard
    counted := by rw [List.length_set, cache.counted] }

def insert (value : Bytes) : MemoryCache := cache.setShard key ((cache.shard key).insert key value)

def get : Option Bytes × MemoryCache :=
  (((cache.shard key).get key).1, cache.setShard key ((cache.shard key).get key).2)

def remove : MemoryCache := cache.setShard key ((cache.shard key).remove key)

end MemoryCache

/-- An operation on the cache, which holds the lock of its shard throughout. -/
inductive CacheOp where
  | insert (key : String) (value : Bytes)
  | get (key : String)
  | remove (key : String)

def CacheOp.apply (cache : MemoryCache) : CacheOp → MemoryCache
  | .insert key value => cache.insert key value
  | .get key => (cache.get key).2
  | .remove key => cache.remove key

/-- The cache behind some operations. -/
def MemoryCache.after (cache : MemoryCache) (ops : List CacheOp) : MemoryCache :=
  ops.foldl CacheOp.apply cache

/-- The value that was inserted last under a key. -/
def lastInsert (ops : List CacheOp) (key : String) : Option Bytes :=
  ops.reverse.findSome? fun op =>
    match op with
    | .insert other value => if other = key then some value else none
    | .get _ | .remove _ => none

/-- The sizes of some entries together. -/
def bytesOf (entries : List (String × Bytes)) : Nat :=
  (entries.map fun entry => sizeOfBytes entry.2).sum

/-- The counter of a shard is right, and is over the limit for a single entry only. -/
structure Shard.Accounted (shard : Shard) : Prop where
  exact : shard.usedBytes.count = bytesOf shard.cache.entries
  unsaturated : shard.usedBytes.saturated = false
  bounded : shard.usedBytes.count ≤ shard.maxBytes ∨
    ∃ entry, shard.cache.entries = [entry] ∧ shard.maxBytes < sizeOfBytes entry.2

/--
What an insertion evicts is least recently used, and each entry is evicted while the new one does
not fit beside those that are left.
-/
def Shard.EvictsOldest (before after : Shard) (key : String) (value : Bytes) : Prop :=
  ∃ evicted kept, before.cache.entries = evicted ++ kept ∧
    after.cache.entries = kept.filter (fun entry => entry.1 ≠ key) ++ [(key, value)] ∧
    ∀ front entry back, evicted = front ++ entry :: back →
      before.maxBytes < bytesOf (entry :: back ++ kept) + sizeOfBytes value

namespace Shard

/-- The loop takes away what it counts out, until there is room or nothing is left. -/
theorem evict_spec (newSize maxBytes : Nat) (entries : List (String × Bytes)) :
    ∃ evicted, entries = evicted ++ (evict newSize maxBytes entries ⟨bytesOf entries, false⟩).1 ∧
      (evict newSize maxBytes entries ⟨bytesOf entries, false⟩).2 =
        ⟨bytesOf (evict newSize maxBytes entries ⟨bytesOf entries, false⟩).1, false⟩ ∧
      (∀ front entry back, evicted = front ++ entry :: back →
        maxBytes < bytesOf (entry :: back ++
          (evict newSize maxBytes entries ⟨bytesOf entries, false⟩).1) + newSize) ∧
      (bytesOf (evict newSize maxBytes entries ⟨bytesOf entries, false⟩).1 + newSize ≤ maxBytes ∨
        (evict newSize maxBytes entries ⟨bytesOf entries, false⟩).1 = []) := by
  induction entries with
  | nil => exact ⟨[], rfl, rfl, by simp, .inr rfl⟩
  | cons entry entries ih =>
    obtain ⟨evicted, split, used, needed, room⟩ := ih
    by_cases full : maxBytes < bytesOf (entry :: entries) + newSize
    · -- The entry was counted, so the subtraction leaves the sizes of the others.
      have less : (UsedBytes.mk (bytesOf (entry :: entries)) false).saturatingSub
          (sizeOfBytes entry.2) = ⟨bytesOf entries, false⟩ := by
        simp [UsedBytes.saturatingSub, bytesOf]
      have next : evict newSize maxBytes (entry :: entries) ⟨bytesOf (entry :: entries), false⟩ =
          evict newSize maxBytes entries ⟨bytesOf entries, false⟩ := by
        rw [evict, if_pos full, less]
      rw [next]
      refine ⟨entry :: evicted, ?_, used, ?_, room⟩
      · rw [List.cons_append, ← split]
      · intro front first back cut
        cases front with
        | nil =>
          -- The first eviction was made with all entries there.
          obtain ⟨rfl, rfl⟩ := List.cons.inj cut
          rw [List.cons_append, ← split]
          exact full
        | cons head front =>
          obtain ⟨_, rest⟩ := List.cons.inj cut
          exact needed front first back rest
    · have done : evict newSize maxBytes (entry :: entries) ⟨bytesOf (entry :: entries), false⟩ =
          (entry :: entries, ⟨bytesOf (entry :: entries), false⟩) := by
        rw [evict, if_neg full]
      rw [done]
      exact ⟨[], rfl, rfl, by simp, .inl (not_lt.mp full)⟩

variable {shard : Shard}

theorem new_accounted (maxBytes : Nat) : (new maxBytes).Accounted :=
  ⟨rfl, rfl, .inl (Nat.zero_le _)⟩

/-- The counter behind the removal of a key is that of the entries that are left. -/
theorem counted_pop (cache : RecencyList String Bytes) (key : String) :
    (match (cache.pop key).1 with
      | some old => (UsedBytes.mk (bytesOf cache.entries) false).saturatingSub (sizeOfBytes old)
      | none => ⟨bytesOf cache.entries, false⟩) =
      ⟨bytesOf (cache.pop key).2.entries, false⟩ := by
  have whole : bytesOf cache.entries = _ := cache.total_pop key sizeOfBytes
  have others : bytesOf (cache.pop key).2.entries = (cache.without key).total sizeOfBytes := rfl
  rw [others, whole]
  -- The old entry is one of those that were counted.
  show (match cache.find? key with | some old => _ | none => _) = _
  cases cache.find? key with
  | none => simp
  | some old => simp [UsedBytes.saturatingSub]

theorem Accounted.remove (accounted : shard.Accounted) (key : String) :
    (shard.remove key).Accounted := by
  obtain ⟨exact, unsaturated, bounded⟩ := accounted
  have used : shard.usedBytes = ⟨bytesOf shard.cache.entries, false⟩ := by
    rw [← exact, ← unsaturated]
  have counter : (shard.remove key).usedBytes =
      ⟨bytesOf (shard.cache.pop key).2.entries, false⟩ := by
    simp only [Shard.remove, used]
    exact counted_pop shard.cache key
  have less : bytesOf (shard.cache.pop key).2.entries ≤ shard.usedBytes.count := by
    have whole : bytesOf shard.cache.entries = _ := shard.cache.total_pop key sizeOfBytes
    rw [exact, whole]
    exact Nat.le_add_left _ _
  refine ⟨by rw [counter]; rfl, by rw [counter], ?_⟩
  rw [counter]
  rcases bounded with below | ⟨entry, only, big⟩
  · exact .inl (less.trans below)
  · -- The single entry stays, or nothing does.
    by_cases same : entry.1 = key
    · left
      simp [RecencyList.pop, RecencyList.without, only, same, bytesOf]
    · right
      exact ⟨entry, by simp [Shard.remove, RecencyList.pop, RecencyList.without, only, same], big⟩

theorem Accounted.get (accounted : shard.Accounted) (key : String) :
    (shard.get key).2.Accounted := by
  obtain ⟨exact, unsaturated, bounded⟩ := accounted
  have same : bytesOf (shard.cache.get key).2.entries = bytesOf shard.cache.entries :=
    shard.cache.total_get key sizeOfBytes
  refine ⟨exact.trans same.symm, unsaturated, ?_⟩
  rcases bounded with below | ⟨entry, only, big⟩
  · exact .inl below
  · -- A single entry is in the same place behind its promotion.
    right
    refine ⟨entry, ?_, big⟩
    show (shard.cache.get key).2.entries = [entry]
    unfold RecencyList.get
    cases found : shard.cache.find? key with
    | none => exact only
    | some value =>
      have member := RecencyList.find?_eq_some_iff.mp found
      rw [only, List.mem_singleton] at member
      simp [RecencyList.put, RecencyList.without, only, ← member]

/-- An insertion counts what it evicts and replaces, and leaves the limit to a single entry. -/
theorem Accounted.insert (accounted : shard.Accounted) (key : String) (value : Bytes) :
    (shard.insert key value).Accounted ∧
      EvictsOldest shard (shard.insert key value) key value := by
  obtain ⟨exact, unsaturated, _⟩ := accounted
  have used : shard.usedBytes = ⟨bytesOf shard.cache.entries, false⟩ := by
    rw [← exact, ← unsaturated]
  obtain ⟨evicted, split, left, needed, room⟩ :=
    evict_spec (sizeOfBytes value) shard.maxBytes shard.cache.entries
  rw [← used] at split left needed room
  -- The shard between the evictions and the entry of the key.
  generalize cache : shard.cache.rest (evict (sizeOfBytes value) shard.maxBytes
    shard.cache.entries shard.usedBytes).1 (evict_suffix _ _ _ _) = kept
  have entries : (evict (sizeOfBytes value) shard.maxBytes shard.cache.entries
      shard.usedBytes).1 = kept.entries := by rw [← cache]; rfl
  rw [entries] at split left needed room
  have counter : (shard.insert key value).usedBytes =
      ⟨bytesOf (kept.pop key).2.entries + sizeOfBytes value, false⟩ := by
    simp only [Shard.insert, cache, left]
    rw [counted_pop kept key]
    rfl
  have listed : (shard.insert key value).cache.entries =
      kept.entries.filter (fun entry => entry.1 ≠ key) ++ [(key, value)] := by
    simp only [Shard.insert, cache, RecencyList.pop, RecencyList.put, RecencyList.without,
      List.filter_filter, Bool.and_self]
  have whole : bytesOf kept.entries = _ := kept.total_pop key sizeOfBytes
  have others : bytesOf (kept.pop key).2.entries = (kept.without key).total sizeOfBytes := rfl
  refine ⟨⟨?_, by rw [counter], ?_⟩, evicted, kept.entries, split, listed, needed⟩
  · rw [counter, listed]
    show bytesOf (kept.without key).entries + sizeOfBytes value =
      bytesOf ((kept.without key).entries ++ [(key, value)])
    simp [bytesOf]
  · rw [counter, others]
    rcases room with fits | nothing
    · -- The entry that is replaced makes more room still.
      left
      show (kept.without key).total sizeOfBytes + sizeOfBytes value ≤ shard.maxBytes
      omega
    · have empty : (kept.without key).total sizeOfBytes = 0 := by
        simp [RecencyList.total, RecencyList.without, nothing]
      rw [empty, Nat.zero_add]
      -- The new entry is alone, whether it fits or not.
      by_cases fits : sizeOfBytes value ≤ shard.maxBytes
      · exact .inl fits
      · exact .inr ⟨(key, value), by rw [listed, nothing]; rfl, not_le.mp fits⟩

/-- A value that is found behind an insertion is the new one, or was there before. -/
theorem find?_insert {key other : String} {value found : Bytes}
    (present : (shard.insert key value).cache.find? other = some found) :
    if other = key then found = value else shard.cache.find? other = some found := by
  -- The insertion may evict others, but it brings in no value of its own under their keys.
  simp only [insert, RecencyList.pop, RecencyList.find?_put] at present
  split at present
  · rename_i same
    rw [if_pos same]
    exact (Option.some.inj present).symm
  · rename_i apart
    rw [RecencyList.find?_without, if_neg apart] at present
    rw [if_neg apart]
    exact RecencyList.find?_of_rest present

end Shard

namespace MemoryCache

variable (cache : MemoryCache) (key other : String) (shard : Shard)

/-- Only the keys of one shard see that it is another one. -/
theorem shard_setShard : (cache.setShard key shard).shard other =
    if cache.shardIndex other = cache.shardIndex key then shard else cache.shard other := by
  show (cache.shards.set (cache.shardIndex key) shard).get ⟨cache.shardIndex other, _⟩ = _
  rw [List.get_eq_getElem, List.getElem_set]
  by_cases same : cache.shardIndex key = cache.shardIndex other
  · rw [if_pos same, if_pos same.symm]
  · rw [if_neg same, if_neg (Ne.symm same)]
    rfl

theorem mem_shards : cache.shard key ∈ cache.shards := List.get_mem _ _

end MemoryCache

theorem lastInsert_append (ops : List CacheOp) (op : CacheOp) (key : String) :
    lastInsert (ops ++ [op]) key =
      match op with
      | .insert other value => if other = key then some value else lastInsert ops key
      | .get _ | .remove _ => lastInsert ops key := by
  unfold lastInsert
  rw [List.reverse_append, List.reverse_singleton, List.singleton_append]
  -- The last operation is the first one that is asked.
  cases op with
  | insert other value =>
    by_cases same : other = key
    · simp [same]
    · simp [same]
  | get other => simp
  | remove other => simp

/-- The shards are accounted for, and every value that is held is the last one of its key. -/
structure MemoryCache.Sound (cache : MemoryCache) (ops : List CacheOp) : Prop where
  shards : ∀ shard ∈ cache.shards, shard.Accounted
  values : ∀ key value, (cache.shard key).cache.find? key = some value →
    lastInsert ops key = some value

namespace MemoryCache

variable {cache : MemoryCache} {ops : List CacheOp}

/-- A changed shard is all that is new behind an operation. -/
theorem Sound.set (sound : cache.Sound ops) {op : CacheOp} {key : String} {shard : Shard}
    (accounted : shard.Accounted)
    (own : ∀ other value, cache.shardIndex other = cache.shardIndex key →
      shard.cache.find? other = some value → lastInsert (ops ++ [op]) other = some value)
    (rest : ∀ other, cache.shardIndex other ≠ cache.shardIndex key →
      lastInsert (ops ++ [op]) other = lastInsert ops other) :
    (cache.setShard key shard).Sound (ops ++ [op]) where
  shards := by
    intro other member
    rcases List.mem_or_eq_of_mem_set member with old | rfl
    · exact sound.shards other old
    · exact accounted
  values := by
    intro other value found
    rw [shard_setShard] at found
    -- The keys of the shard are looked up in the changed one, the others where they were.
    split at found
    · rename_i same
      exact own other value same found
    · rename_i apart
      rw [rest other apart]
      exact sound.values other value found

/-- A key whose shard is the one of another key finds its value there. -/
theorem Sound.value_of_shard (sound : cache.Sound ops) {key other : String} {value : Bytes}
    (same : cache.shardIndex other = cache.shardIndex key)
    (found : (cache.shard key).cache.find? other = some value) :
    lastInsert ops other = some value := by
  apply sound.values
  have shard : cache.shard other = cache.shard key := by
    simp only [MemoryCache.shard, same]
  rw [shard]
  exact found

theorem Sound.apply (sound : cache.Sound ops) (op : CacheOp) :
    (op.apply cache).Sound (ops ++ [op]) := by
  -- Each operation changes the shard of its key only.
  cases op with
  | insert key value =>
    have accounted := sound.shards _ (cache.mem_shards key)
    refine sound.set (accounted.insert key value).1 ?_ ?_
    · intro other found same present
      have origin := Shard.find?_insert present
      rw [lastInsert_append]
      by_cases here : key = other
      · subst here
        rw [if_pos rfl] at origin
        simp [origin]
      · rw [if_neg (Ne.symm here)] at origin
        simpa [here] using sound.value_of_shard same origin
    · intro other apart
      have elsewhere : key ≠ other := fun same => apart (by rw [same])
      simp [lastInsert_append, elsewhere]
  | get key =>
    have accounted := sound.shards _ (cache.mem_shards key)
    refine sound.set (accounted.get key) ?_ ?_
    · intro other found same present
      rw [lastInsert_append]
      exact sound.value_of_shard same (RecencyList.find?_get.symm.trans present)
    · exact fun other _ => lastInsert_append ops _ other
  | remove key =>
    have accounted := sound.shards _ (cache.mem_shards key)
    refine sound.set (accounted.remove key) ?_ ?_
    · intro other found same present
      rw [lastInsert_append]
      refine sound.value_of_shard same ?_
      -- What is found behind a removal is of another key, and was there before.
      have there : ((cache.shard key).cache.without key).find? other = some found := present
      rw [RecencyList.find?_without] at there
      split at there
      · simp at there
      · exact there
    · exact fun other _ => lastInsert_append ops _ other

theorem new_sound (hash : String → UInt64) (maxBytes shardCount : Nat) :
    (new hash maxBytes shardCount).Sound [] where
  shards := by
    intro shard member
    rw [List.eq_of_mem_replicate member]
    exact Shard.new_accounted _
  values := by
    intro key value found
    -- Every shard is a fresh one, in which nothing is found.
    have empty : ((new hash maxBytes shardCount).shard key).cache = .empty := by
      have fresh := List.eq_of_mem_replicate ((new hash maxBytes shardCount).mem_shards key)
      rw [fresh]
      rfl
    rw [empty] at found
    exact nomatch found

theorem after_sound (hash : String → UInt64) (maxBytes shardCount : Nat) (ops : List CacheOp) :
    ((new hash maxBytes shardCount).after ops).Sound ops := by
  -- The induction is on the operations, from the first to the last.
  induction ops using List.reverseRecOn with
  | nil => exact new_sound hash maxBytes shardCount
  | append_singleton ops op ih =>
    rw [after, List.foldl_append]
    exact ih.apply op

/--
Behind any operations, every shard counts its bytes exactly and keeps its limit unless a single
entry is over it, a key has the value of its last insertion or none, and an insertion evicts only
what was used least recently, while the new entry does not fit.
-/
theorem memory_cache_accounted (hash : String → UInt64) (maxBytes shardCount : Nat)
    (ops : List CacheOp) :
    let cache := (new hash maxBytes shardCount).after ops
    (∀ shard ∈ cache.shards, shard.Accounted) ∧
      (∀ key, (cache.get key).1 =
        if key ∈ (cache.shard key).cache.entries.map Prod.fst then lastInsert ops key else none) ∧
      ∀ key value,
        Shard.EvictsOldest (cache.shard key) ((cache.insert key value).shard key) key value ∧
        ∀ index, index ≠ cache.shardIndex key →
          (cache.insert key value).shards[index]? = cache.shards[index]? := by
  intro cache
  have sound : cache.Sound ops := after_sound hash maxBytes shardCount ops
  refine ⟨sound.shards, ?_, ?_⟩
  · intro key
    have looked : (cache.get key).1 = (cache.shard key).cache.find? key := by
      simp only [get, Shard.get, RecencyList.get]
      cases (cache.shard key).cache.find? key <;> rfl
    rw [looked]
    cases found : (cache.shard key).cache.find? key with
    | some value =>
      have member := List.mem_map_of_mem (f := Prod.fst) (RecencyList.find?_eq_some_iff.mp found)
      rw [if_pos member, sound.values key value found]
    | none =>
      -- A key that is there would be found.
      rw [if_neg]
      intro listed
      obtain ⟨⟨other, value⟩, member, rfl⟩ := List.mem_map.mp listed
      rw [RecencyList.find?_eq_some_iff.mpr member] at found
      simp at found
  · intro key value
    constructor
    · have evicts := ((sound.shards _ (cache.mem_shards key)).insert key value).2
      rwa [insert, shard_setShard, if_pos rfl]
    · intro index apart
      exact List.getElem?_set_ne (Ne.symm apart)

end MemoryCache

end Zradar.Parquet

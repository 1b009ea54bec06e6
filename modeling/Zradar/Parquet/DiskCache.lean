import Mathlib.Data.List.Sort
import Zradar.Lib.BigEndian
import Zradar.Lib.LexicalPath
import Zradar.Lib.Run

/-! The disk cache of objects in S3, and the queries that resolve their files through it. -/

namespace Zradar.Parquet

/-- What is tracked of a file in the cache. -/
structure CacheEntry where
  localPath : String
  sizeBytes : Nat
  lastAccessed : Nat
  createdAt : Nat
  deriving DecidableEq

/-- The settings of a cache, and the objects that can be downloaded. -/
structure DiskCache where
  cacheDir : String
  maxSizeBytes : Nat
  ttl : Nat
  download : String → Option Bytes

/-- The name of a file in the cache. -/
def cacheFileName (s3Key : String) : String :=
  .ofList (s3Key.toList.map fun char => if char = '/' ∨ char = ':' then '_' else char)

/-- Strip the scheme and the bucket from the URL of an object. -/
def extractS3Key (s3Url : String) : String :=
  if "s3://".toList.isPrefixOf s3Url.toList then
    match (s3Url.toList.drop 5).dropWhile fun char => char ≠ '/' with
    | _ :: key => .ofList key
    | [] => s3Url
  else s3Url

/-- Where a call of `get_or_fetch` stands. -/
inductive Call where
  | idle
  /-- The index had the file, which is to be touched. -/
  | hit (key path : String)
  | miss (key : String)
  | downloaded (key : String) (data : Bytes)
  /-- The file exists and is still empty. -/
  | opened (key path : String) (data : Bytes)
  | written (key path : String) (data : Bytes)
  /-- The index has the file, and too much may be in the cache. -/
  | inserted (key path : String)
  | returned (key path : String)
  deriving DecidableEq

/-- The file that a call has to do with. -/
def Call.path? : Call → Option String
  | .hit _ path | .opened _ path _ | .written _ path _ | .inserted _ path | .returned _ path =>
    some path
  | .idle | .miss _ | .downloaded _ _ => none

/-- A query that resolves its files, one key after the other. -/
structure CacheQuery where
  active : Bool
  pending : List String
  /-- The keys that are resolved, with the paths to scan. -/
  resolved : List (String × String)
  call : Call
  deriving DecidableEq

/-- The cache, its files, and the queries that use it. -/
structure DiskCacheState where
  index : List (String × CacheEntry)
  files : String → Option Bytes
  clock : Nat
  queries : List CacheQuery

/-- What can happen: time passes, a query starts to resolve, goes on or ends. -/
inductive CacheLabel where
  | pass (time : Nat)
  | resolve (s3Urls : List String)
  /-- Go on to the next await, where an eviction may meet the index in any order. -/
  | advance (query : Nat) (order : List (String × CacheEntry))
  | finish (query : Nat)

section

variable (cache : DiskCache)

/-- Where the file of a key is kept. -/
def DiskCache.localPath (s3Key : String) : String := pathJoin cache.cacheDir (cacheFileName s3Key)

/-- Whether the name of a key's file is that of a directory. -/
def namesDirectory (s3Key : String) : Bool :=
  cacheFileName s3Key = "" || cacheFileName s3Key = "." || cacheFileName s3Key = ".."

/-- Whether an entry is too old at some time. -/
def DiskCache.expired (clock : Nat) (entry : CacheEntry) : Bool :=
  cache.ttl ≤ clock - entry.createdAt

/-- The first entries to go until the rest is within the budget. -/
def evictLru : Nat → List (String × CacheEntry) → List (String × CacheEntry)
  | _, [] => []
  | runningTotal, entry :: entries =>
    if runningTotal ≤ cache.maxSizeBytes then []
    else entry :: evictLru (runningTotal - entry.2.sizeBytes) entries

/-- The entries that an eviction removes: the expired ones, then the least recently used. -/
def evicted (clock : Nat) (index order : List (String × CacheEntry)) : List (String × CacheEntry) :=
  let total := (order.map fun entry => entry.2.sizeBytes).sum
  (index.filter fun entry => cache.expired clock entry.2) ++
    evictLru cache total (order.insertionSort fun first second =>
      first.2.lastAccessed ≤ second.2.lastAccessed)

/-- Remove files. -/
def removeFiles (files : String → Option Bytes) (paths : List String) : String → Option Bytes :=
  fun path => if path ∈ paths then none else files path

/-- The state with another query in the place of one. -/
def DiskCacheState.setQuery (state : DiskCacheState) (id : Nat) (query : CacheQuery) :
    DiskCacheState :=
  { state with queries := state.queries.set id query }

/-- The fast path of `get_or_fetch`: the path of an entry that is neither too old nor gone. -/
def lookUp (state : DiskCacheState) (key : String) : Call :=
  match state.index.find? fun entry => entry.1 = key with
  | some (_, entry) =>
    if !cache.expired state.clock entry && (state.files entry.localPath).isSome then
      .hit key entry.localPath
    else .miss key
  | none => .miss key

/-- The next step of a query. -/
def advance (state : DiskCacheState) (id : Nat) (query : CacheQuery)
    (order : List (String × CacheEntry)) : Option DiskCacheState :=
  match query.call with
  | .idle =>
    match query.pending with
    -- Everything is resolved, and the scan can start.
    | [] => none
    | key :: _ => some (state.setQuery id { query with call := lookUp cache state key })
  | .hit key path =>
    some { state.setQuery id { query with call := .returned key path } with
      index := state.index.map fun entry =>
        if entry.1 = key then (entry.1, { entry.2 with lastAccessed := state.clock }) else entry }
  | .miss key =>
    match cache.download key with
    | some data => some (state.setQuery id { query with call := .downloaded key data })
    | none => some (state.setQuery id { query with active := false })
  | .downloaded key data =>
    -- A directory cannot be written, so the call fails.
    if namesDirectory key then some (state.setQuery id { query with active := false })
    else some { state.setQuery id { query with call := .opened key (cache.localPath key) data } with
      files := Function.update state.files (cache.localPath key) (some []) }
  | .opened key path data =>
    some { state.setQuery id { query with call := .written key path data } with
      files := Function.update state.files path (some data) }
  | .written key path data =>
    some { state.setQuery id { query with call := .inserted key path } with
      index := (key, ⟨path, data.length, state.clock, state.clock⟩) ::
        state.index.filter fun entry => entry.1 ≠ key }
  | .inserted key path =>
    let fresh := state.index.filter fun entry => !cache.expired state.clock entry.2
    if order.isPerm fresh then
      let removed := evicted cache state.clock state.index order
      some { state.setQuery id { query with call := .returned key path } with
        index := state.index.filter fun entry => entry ∉ removed
        files := removeFiles state.files (removed.map fun entry => entry.2.localPath) }
    else none
  | .returned key path =>
    some (state.setQuery id
      { query with
        pending := query.pending.tail
        resolved := query.resolved ++ [(key, path)]
        call := .idle })

/-- One step of the cache and its queries. -/
def cacheStep (state : DiskCacheState) : CacheLabel → Option DiskCacheState
  | .pass time => some { state with clock := state.clock + time }
  | .resolve s3Urls =>
    some { state with queries := state.queries ++ [⟨true, s3Urls.map extractS3Key, [], .idle⟩] }
  | .advance id order =>
    match state.queries[id]? with
    | some query => if query.active then advance cache state id query order else none
    | none => none
  | .finish id =>
    match state.queries[id]? with
    | some query => some (state.setQuery id { query with active := false })
    | none => none

end

/-- An empty cache, before any query. -/
def emptyCache : DiskCacheState := ⟨[], fun _ => none, 0, []⟩

/-- A path names a file with the object of a key. -/
def Holds (cache : DiskCache) (files : String → Option Bytes) (key path : String) : Prop :=
  ∃ data, cache.download key = some data ∧ files path = some data

/--
Every path that a call has just returned holds the object of its key, and so does every resolved
path of a query whose scan can start.
-/
def PathsValid (cache : DiskCache) (state : DiskCacheState) : Prop :=
  ∀ query ∈ state.queries, query.active = true →
    (∀ key path, query.call = .returned key path → Holds cache state.files key path) ∧
    (query.pending = [] → query.call = .idle →
      ∀ pair ∈ query.resolved, Holds cache state.files pair.1 pair.2)

/-- A query relies on a file: it has resolved it or is about to. -/
def CacheQuery.Uses (query : CacheQuery) (path : String) : Prop :=
  query.active = true ∧ (path ∈ query.resolved.map Prod.snd ∨ query.call.path? = some path)

instance (query : CacheQuery) (path : String) : Decidable (query.Uses path) :=
  inferInstanceAs (Decidable (_ ∧ _))

/--
A call writes a file only while no query uses it and no entry that is still good leads to it,
and evicts only files that no query uses.
-/
def Call.Spares (cache : DiskCache) (state : DiskCacheState) (order : List (String × CacheEntry)) :
    Call → Prop
  | .downloaded key _ =>
    (∀ query ∈ state.queries, ¬ query.Uses (cache.localPath key)) ∧
      ∀ entry ∈ state.index, entry.2.localPath = cache.localPath key →
        cache.expired state.clock entry.2 = true
  | .inserted _ _ =>
    ∀ entry ∈ evicted cache state.clock state.index order,
      ∀ query ∈ state.queries, ¬ query.Uses entry.2.localPath
  | .idle | .hit _ _ | .miss _ | .opened _ _ _ | .written _ _ _ | .returned _ _ => True

instance (cache : DiskCache) (state : DiskCacheState) (order : List (String × CacheEntry)) :
    ∀ call : Call, Decidable (call.Spares cache state order)
  | .downloaded _ _ => inferInstanceAs (Decidable (_ ∧ _))
  | .inserted _ _ =>
    inferInstanceAs (Decidable (∀ entry ∈ evicted cache state.clock state.index order,
      ∀ query ∈ state.queries, ¬ query.Uses entry.2.localPath))
  | .idle | .hit _ _ | .miss _ | .opened _ _ _ | .written _ _ _ | .returned _ _ => .isTrue trivial

/-- A step of a query spares the files in use. -/
def SparesFiles (cache : DiskCache) (state : DiskCacheState) : CacheLabel → Prop
  | .advance id order => ∀ query ∈ state.queries[id]?, query.call.Spares cache state order
  | .pass _ | .resolve _ | .finish _ => True

instance (cache : DiskCache) (state : DiskCacheState) :
    ∀ label : CacheLabel, Decidable (SparesFiles cache state label)
  | .advance id order =>
    inferInstanceAs (Decidable (∀ query ∈ state.queries[id]?, query.call.Spares cache state order))
  | .pass _ | .resolve _ | .finish _ => .isTrue trivial

section

variable {cache : DiskCache} {files changed : String → Option Bytes} {state : DiskCacheState}

/-- What a call knows about its object and its file. -/
def Call.Sound (cache : DiskCache) (files : String → Option Bytes) : Call → Prop
  | .hit key path | .inserted key path | .returned key path => Holds cache files key path
  | .downloaded key data | .opened key _ data => cache.download key = some data
  | .written key path data => cache.download key = some data ∧ files path = some data
  | .idle | .miss _ => True

/-- What an unfinished query relies on is there. -/
def CacheQuery.Sound (cache : DiskCache) (files : String → Option Bytes) (query : CacheQuery) : Prop :=
  query.active = true →
    (∀ pair ∈ query.resolved, Holds cache files pair.1 pair.2) ∧ query.call.Sound cache files

/-- A query is in the middle of a write. -/
def CacheQuery.Opens (query : CacheQuery) (path : String) : Prop :=
  query.active = true ∧ ∃ key data, query.call = .opened key path data

theorem CacheQuery.Opens.uses {query : CacheQuery} {path : String} (opens : query.Opens path) :
    query.Uses path := by
  obtain ⟨active, key, data, call⟩ := opens
  exact ⟨active, .inr (by rw [call]; rfl)⟩

/-- A query whose next call has the path of its call uses no other file. -/
theorem CacheQuery.Uses.of_path {query : CacheQuery} {call : Call} {path : String}
    (uses : CacheQuery.Uses { query with call := call } path)
    (same : call.path? = query.call.path?) : query.Uses path := by
  obtain ⟨active, resolved | named⟩ := uses
  · exact ⟨active, .inl resolved⟩
  · exact ⟨active, .inr (same.symm.trans named)⟩

/-- No entry that is still good leads to a file. -/
def Unlisted (cache : DiskCache) (clock : Nat) (index : List (String × CacheEntry)) (path : String) :
    Prop :=
  ∀ entry ∈ index, entry.2.localPath = path → cache.expired clock entry.2 = true

/-- The invariant: queries are sound, good entries are right, and files are written alone. -/
structure CacheSound (cache : DiskCache) (state : DiskCacheState) : Prop where
  queries : ∀ query ∈ state.queries, query.Sound cache state.files
  index : ∀ entry ∈ state.index, cache.expired state.clock entry.2 = false →
    state.files entry.2.localPath = none ∨ Holds cache state.files entry.1 entry.2.localPath
  alone : ∀ (id : Nat) (query : CacheQuery) (path : String), state.queries[id]? = some query →
    query.Opens path → (∀ (other : Nat) (second : CacheQuery), state.queries[other]? = some second → second.Uses path → other = id) ∧
      path ∉ query.resolved.map Prod.snd ∧ Unlisted cache state.clock state.index path

/-- A query is as sound with other files, if these are the same where it uses them. -/
theorem CacheQuery.Sound.of_files {query : CacheQuery} (sound : query.Sound cache files)
    (same : ∀ path, query.Uses path → changed path = files path) : query.Sound cache changed := by
  -- Only the files that the query uses occur in its soundness.
  intro active
  obtain ⟨resolved, call⟩ := sound active
  constructor
  · intro pair member
    obtain ⟨data, object, file⟩ := resolved pair member
    have used : query.Uses pair.2 := ⟨active, .inl (List.mem_map_of_mem member)⟩
    exact ⟨data, object, (same pair.2 used).trans file⟩
  · have known : ∀ path, query.call.path? = some path → changed path = files path :=
      fun path named => same path ⟨active, .inr named⟩
    revert call known
    cases query.call with
    | idle => exact fun call _ => call
    | miss key => exact fun call _ => call
    | downloaded key data => exact fun call _ => call
    | opened key path data => exact fun call _ => call
    | written key path data => exact fun call known => ⟨call.1, (known path rfl).trans call.2⟩
    | hit key path | inserted key path | returned key path =>
      rintro ⟨data, object, file⟩ known
      exact ⟨data, object, (known path rfl).trans file⟩

/-- Where no good entry leads to a file, the index is right whatever is in the file. -/
theorem CacheSound.index_update (sound : CacheSound cache state) {path : String}
    (unlisted : Unlisted cache state.clock state.index path) (content : Option Bytes) :
    ∀ entry ∈ state.index, cache.expired state.clock entry.2 = false →
      Function.update state.files path content entry.2.localPath = none ∨
        Holds cache (Function.update state.files path content) entry.1 entry.2.localPath := by
  -- An entry that is still good leads elsewhere.
  intro entry listed good
  have apart : entry.2.localPath ≠ path := by
    intro same
    rw [unlisted entry listed same] at good
    exact nomatch good
  rw [Holds, Function.update_of_ne apart]
  exact sound.index entry listed good

/-- Whoever opens a file is one of the queries that use it. -/
theorem CacheSound.replace (sound : CacheSound cache state) {id : Nat} {query next : CacheQuery}
    {index : List (String × CacheEntry)} (found : state.queries[id]? = some query)
    (self : next.Sound cache files)
    (frame : ∀ (other : Nat) (second : CacheQuery), state.queries[other]? = some second → other ≠ id →
      ∀ path, second.Uses path → files path = state.files path)
    (entries : ∀ entry ∈ index, cache.expired state.clock entry.2 = false →
      files entry.2.localPath = none ∨ Holds cache files entry.1 entry.2.localPath)
    (uses : ∀ path, next.Uses path → query.Uses path ∨
      ∀ (other : Nat) (second : CacheQuery), state.queries[other]? = some second → other ≠ id →
        ¬ second.Opens path)
    (opens : ∀ path, next.Opens path →
      (∀ (other : Nat) (second : CacheQuery), state.queries[other]? = some second → other ≠ id →
        ¬ second.Uses path) ∧
        path ∉ next.resolved.map Prod.snd ∧ Unlisted cache state.clock index path)
    (unlisted : ∀ (other : Nat) (second : CacheQuery) (path : String), state.queries[other]? = some second → other ≠ id →
      second.Opens path → Unlisted cache state.clock index path) :
    CacheSound cache { state with queries := state.queries.set id next, index, files } := by
  have inside : id < state.queries.length := (List.getElem?_eq_some_iff.mp found).1
  -- A query of the new state is the new one or an old one elsewhere.
  have queryAt : ∀ (other : Nat) (second : CacheQuery), (state.queries.set id next)[other]? = some second →
      (other = id ∧ second = next) ∨ (other ≠ id ∧ state.queries[other]? = some second) := by
    intro other second located
    by_cases here : other = id
    · subst here
      rw [List.getElem?_set_self inside] at located
      exact .inl ⟨rfl, (Option.some.inj located).symm⟩
    · rw [List.getElem?_set_ne (Ne.symm here)] at located
      exact .inr ⟨here, located⟩
  refine ⟨?_, entries, ?_⟩
  · intro second member
    obtain ⟨other, located⟩ := List.mem_iff_getElem?.mp member
    obtain ⟨_, rfl⟩ | ⟨elsewhere, old⟩ := queryAt other second located
    · exact self
    · exact (sound.queries second (List.mem_of_getElem? old)).of_files (frame other second old elsewhere)
  · intro opener query' path located opening
    obtain ⟨rfl, rfl⟩ | ⟨elsewhere, old⟩ := queryAt opener query' located
    · obtain ⟨alone, resolved, listed⟩ := opens path opening
      refine ⟨fun other second otherLocated relies => ?_, resolved, listed⟩
      obtain ⟨same, _⟩ | ⟨apart, otherOld⟩ := queryAt other second otherLocated
      · exact same
      · exact absurd relies (alone other second otherOld apart)
    · obtain ⟨alone, resolved, _⟩ := sound.alone opener query' path old opening
      refine ⟨fun other second otherLocated relies => ?_, resolved,
        unlisted opener query' path old elsewhere opening⟩
      obtain ⟨rfl, rfl⟩ | ⟨_, otherOld⟩ := queryAt other second otherLocated
      · obtain used | free := uses path relies
        · exact alone other query found used
        · exact absurd opening (free opener query' old elsewhere)
      · exact alone other second otherOld relies

/-- A step that only moves a query on, to files that are not being written. -/
theorem CacheSound.move (sound : CacheSound cache state) {id : Nat} {query next : CacheQuery}
    (found : state.queries[id]? = some query) (self : next.Sound cache state.files)
    (uses : ∀ path, next.Uses path → query.Uses path ∨ ¬ Unlisted cache state.clock state.index path)
    (opens : ∀ path, ¬ next.Opens path) : CacheSound cache (state.setQuery id next) := by
  -- The files do not change, so only the query that moves has to be looked at.
  have unlisted : ∀ (other : Nat) (second : CacheQuery) (path : String),
      state.queries[other]? = some second → other ≠ id → second.Opens path →
      Unlisted cache state.clock state.index path :=
    fun other second path located _ opening => (sound.alone other second path located opening).2.2
  refine sound.replace found self (fun _ _ _ _ _ _ => rfl) sound.index ?_
    (fun path opening => absurd opening (opens path)) unlisted
  intro path relies
  obtain used | listed := uses path relies
  · exact .inl used
  · exact .inr fun other second located apart opening =>
      listed (unlisted other second path located apart opening)

/-- An entry that is found is one of the index. -/
theorem lookUp_cases (cache : DiskCache) (state : DiskCacheState) (key : String) :
    lookUp cache state key = .miss key ∨
      ∃ entry, (key, entry) ∈ state.index ∧ cache.expired state.clock entry = false ∧
        (state.files entry.localPath).isSome = true ∧
        lookUp cache state key = .hit key entry.localPath := by
  -- The first entry of the key decides.
  unfold lookUp
  cases located : state.index.find? fun entry => entry.1 = key with
  | none => exact .inl rfl
  | some pair =>
    obtain ⟨other, entry⟩ := pair
    have same : other = key := by simpa using List.find?_some located
    subst same
    dsimp only
    split_ifs with good
    · simp only [Bool.and_eq_true, Bool.not_eq_true'] at good
      exact .inr ⟨entry, List.mem_of_find?_eq_some located, good.1, good.2, rfl⟩
    · exact .inl rfl

/-- A query takes what an entry that is still good leads to. -/
theorem sound_lookUp (sound : CacheSound cache state) {id : Nat} {query : CacheQuery}
    (found : state.queries[id]? = some query) (active : query.active = true) (key : String) :
    CacheSound cache (state.setQuery id { query with call := lookUp cache state key }) := by
  have own := sound.queries query (List.mem_of_getElem? found) active
  obtain missed | ⟨entry, listed, good, exists_, isHit⟩ := lookUp_cases cache state key
  -- Nothing is used after a miss.
  · rw [missed]
    refine sound.move found (fun _ => ⟨own.1, trivial⟩) ?_ ?_
    · rintro path ⟨_, resolved | named⟩
      · exact .inl ⟨active, .inl resolved⟩
      · exact nomatch named
    · rintro path ⟨_, _, _, opened⟩
      exact nomatch opened
  · -- The file exists, so that it is the object.
    rw [isHit]
    have holds : Holds cache state.files key entry.localPath := by
      obtain gone | holds := sound.index _ listed good
      · rw [gone] at exists_
        exact nomatch exists_
      · exact holds
    refine sound.move found (fun _ => ⟨own.1, holds⟩) ?_ ?_
    · rintro path ⟨_, resolved | named⟩
      · exact .inl ⟨active, .inl resolved⟩
      · cases named
        refine .inr fun unlisted => ?_
        have late := unlisted _ listed rfl
        rw [good] at late
        exact nomatch late
    · rintro path ⟨_, _, _, opened⟩
      exact nomatch opened

/-- A query that ends uses nothing any more. -/
theorem sound_finish (sound : CacheSound cache state) {id : Nat} {query : CacheQuery}
    (found : state.queries[id]? = some query) :
    CacheSound cache (state.setQuery id { query with active := false }) := by
  refine sound.move found (fun active => nomatch active) ?_ ?_
  · rintro path ⟨active, _⟩
    exact nomatch active
  · rintro path ⟨active, _⟩
    exact nomatch active

/-- A file that no query uses and no good entry leads to can be written. -/
theorem sound_open (sound : CacheSound cache state) {id : Nat} {query : CacheQuery} {key : String}
    {data : Bytes} (found : state.queries[id]? = some query) (active : query.active = true)
    (call : query.call = .downloaded key data)
    (unused : ∀ query ∈ state.queries, ¬ query.Uses (cache.localPath key))
    (unlisted : Unlisted cache state.clock state.index (cache.localPath key)) :
    CacheSound cache
      { state.setQuery id { query with call := .opened key (cache.localPath key) data } with
        files := Function.update state.files (cache.localPath key) (some []) } := by
  have own := sound.queries query (List.mem_of_getElem? found) active
  have free : ∀ (other : Nat) (second : CacheQuery), state.queries[other]? = some second →
      ¬ second.Uses (cache.localPath key) :=
    fun other second located => unused second (List.mem_of_getElem? located)
  -- The file that is emptied is one that no query uses.
  have elsewhere : ∀ {second : CacheQuery}, second ∈ state.queries → ∀ path, second.Uses path →
      Function.update state.files (cache.localPath key) (some []) path = state.files path := by
    intro second member path relies
    refine Function.update_of_ne ?_ _ _
    rintro rfl
    exact unused second member relies
  have resolved : cache.localPath key ∉ query.resolved.map Prod.snd :=
    fun member => free id query found ⟨active, .inl member⟩
  refine sound.replace found ?_ ?_ ?_ ?_ ?_ ?_
  · have kept := CacheQuery.Sound.of_files (fun _ => own) (elsewhere (List.mem_of_getElem? found))
    have object := own.2
    rw [call] at object
    exact fun _ => ⟨(kept active).1, object⟩
  · exact fun other second located _ => elsewhere (List.mem_of_getElem? located)
  · exact sound.index_update unlisted (some [])
  · rintro path ⟨_, member | named⟩
    · exact .inl ⟨active, .inl member⟩
    · cases named
      exact .inr fun other second located _ opening => free other second located opening.uses
  · rintro path ⟨_, _, _, opened⟩
    cases opened
    exact ⟨fun other second located _ => free other second located, resolved, unlisted⟩
  · exact fun other second path located _ opening => (sound.alone other second path located opening).2.2

/-- The content of a file is written while nobody else uses it. -/
theorem sound_write (sound : CacheSound cache state) {id : Nat} {query : CacheQuery}
    {key path : String} {data : Bytes} (found : state.queries[id]? = some query)
    (active : query.active = true) (call : query.call = .opened key path data) :
    CacheSound cache { state.setQuery id { query with call := .written key path data } with
      files := Function.update state.files path (some data) } := by
  -- The file is written by the one query that has opened it.
  have own := sound.queries query (List.mem_of_getElem? found) active
  have opening : query.Opens path := ⟨active, key, data, call⟩
  obtain ⟨alone, resolved, unlisted⟩ := sound.alone id query path found opening
  refine sound.replace found ?_ ?_ ?_ ?_ ?_ ?_
  · intro _
    have object := own.2
    rw [call] at object
    refine ⟨fun pair member => ?_, object, Function.update_self _ _ _⟩
    -- What the query has resolved is stored elsewhere.
    have apart : pair.2 ≠ path := by
      rintro rfl
      exact resolved (List.mem_map_of_mem member)
    rw [Holds, Function.update_of_ne apart]
    exact own.1 pair member
  · intro other second located apart path' relies
    refine Function.update_of_ne ?_ _ _
    rintro rfl
    exact apart (alone other second located relies)
  · exact sound.index_update unlisted (some data)
  · exact fun path' uses => .inl (uses.of_path (by rw [call]; rfl))
  · rintro path' ⟨_, _, _, opened⟩
    exact nomatch opened
  · exact fun other second path located _ opening => (sound.alone other second path located opening).2.2

/-- The index takes up a file that is written. -/
theorem sound_insert (sound : CacheSound cache state) {id : Nat} {query : CacheQuery}
    {key path : String} {data : Bytes} (found : state.queries[id]? = some query)
    (active : query.active = true) (call : query.call = .written key path data) :
    CacheSound cache { state.setQuery id { query with call := .inserted key path } with
      index := (key, ⟨path, data.length, state.clock, state.clock⟩) ::
        state.index.filter fun entry => entry.1 ≠ key } := by
  -- The file is complete, so its entry may be listed.
  have own := sound.queries query (List.mem_of_getElem? found) active
  have written := own.2
  rw [call] at written
  have holds : Holds cache state.files key path := ⟨data, written.1, written.2⟩
  have relies : query.Uses path := ⟨active, .inr (by rw [call]; rfl)⟩
  refine sound.replace found (fun _ => ⟨own.1, holds⟩) (fun _ _ _ _ _ _ => rfl) ?_ ?_ ?_ ?_
  · intro entry member good
    obtain rfl | older := List.mem_cons.mp member
    · exact .inr holds
    · exact sound.index entry (List.mem_of_mem_filter older) good
  · exact fun path' uses => .inl (uses.of_path (by rw [call]; rfl))
  · rintro path' ⟨_, _, _, opened⟩
    exact nomatch opened
  · -- Nobody else writes the file that is taken up.
    intro other second path' located apart opening
    obtain ⟨alone, _, unlisted⟩ := sound.alone other second path' located opening
    intro entry member same
    obtain rfl | older := List.mem_cons.mp member
    · cases same
      exact absurd (alone id query found relies).symm apart
    · exact unlisted entry (List.mem_of_mem_filter older) same

/-- A touch changes only when an entry was used. -/
theorem sound_touch (sound : CacheSound cache state) {id : Nat} {query : CacheQuery}
    {key path : String} (found : state.queries[id]? = some query) (active : query.active = true)
    (call : query.call = .hit key path) :
    CacheSound cache { state.setQuery id { query with call := .returned key path } with
      index := state.index.map fun entry =>
        if entry.1 = key then (entry.1, { entry.2 with lastAccessed := state.clock }) else entry } := by
  have own := sound.queries query (List.mem_of_getElem? found) active
  have holds := own.2
  rw [call] at holds
  -- Every entry comes from one with the same key, path and age.
  have origin : ∀ entry ∈ state.index.map (fun entry =>
      if entry.1 = key then (entry.1, { entry.2 with lastAccessed := state.clock }) else entry),
      ∃ old ∈ state.index, entry.1 = old.1 ∧ entry.2.localPath = old.2.localPath ∧
        entry.2.createdAt = old.2.createdAt := by
    intro entry member
    obtain ⟨old, listed, rfl⟩ := List.mem_map.mp member
    refine ⟨old, listed, ?_⟩
    split_ifs <;> exact ⟨rfl, rfl, rfl⟩
  have age : ∀ {entry old : CacheEntry}, entry.createdAt = old.createdAt →
      cache.expired state.clock entry = cache.expired state.clock old := by
    intro entry old same
    rw [DiskCache.expired, DiskCache.expired, same]
  refine sound.replace found (fun _ => ⟨own.1, holds⟩) (fun _ _ _ _ _ _ => rfl) ?_ ?_ ?_ ?_
  · intro entry member good
    obtain ⟨old, listed, name, place, created⟩ := origin entry member
    rw [name, place]
    exact sound.index old listed ((age created).symm.trans good)
  · exact fun path' uses => .inl (uses.of_path (by rw [call]; rfl))
  · rintro path' ⟨_, _, _, opened⟩
    exact nomatch opened
  · intro other second path' located _ opening entry member same
    obtain ⟨old, listed, _, place, created⟩ := origin entry member
    have late := (sound.alone other second path' located opening).2.2 old listed (place.symm.trans same)
    exact (age created).trans late

/-- An eviction that spares the files in use. -/
theorem sound_evict (sound : CacheSound cache state) {id : Nat} {query : CacheQuery}
    {key path : String} (found : state.queries[id]? = some query) (active : query.active = true)
    (call : query.call = .inserted key path) {removed : List (String × CacheEntry)}
    (spares : ∀ entry ∈ removed, ∀ query ∈ state.queries, ¬ query.Uses entry.2.localPath) :
    CacheSound cache { state.setQuery id { query with call := .returned key path } with
      index := state.index.filter fun entry => entry ∉ removed
      files := removeFiles state.files (removed.map fun entry => entry.2.localPath) } := by
  -- The files that queries use are spared.
  have kept : ∀ {second : CacheQuery}, second ∈ state.queries → ∀ path, second.Uses path →
      removeFiles state.files (removed.map fun entry => entry.2.localPath) path =
        state.files path := by
    intro second member path relies
    refine if_neg fun gone => ?_
    obtain ⟨entry, evicted, rfl⟩ := List.mem_map.mp gone
    exact spares entry evicted second member relies
  have own := (sound.queries query (List.mem_of_getElem? found)).of_files
    (kept (List.mem_of_getElem? found)) active
  have holds := own.2
  rw [call] at holds
  refine sound.replace found (fun _ => ⟨own.1, holds⟩) ?_ ?_ ?_ ?_ ?_
  · exact fun other second located _ => kept (List.mem_of_getElem? located)
  · -- A file that is gone is looked for before it is returned.
    intro entry member good
    by_cases gone : entry.2.localPath ∈ removed.map fun entry => entry.2.localPath
    · exact .inl (if_pos gone)
    · have same : removeFiles state.files (removed.map fun entry => entry.2.localPath)
          entry.2.localPath = state.files entry.2.localPath := if_neg gone
      rw [Holds, same]
      exact sound.index entry (List.mem_of_mem_filter member) good
  · exact fun path' uses => .inl (uses.of_path (by rw [call]; rfl))
  · rintro path' ⟨_, _, _, opened⟩
    exact nomatch opened
  · intro other second path' located _ opening entry member
    exact (sound.alone other second path' located opening).2.2 entry (List.mem_of_mem_filter member)

/-- A query keeps the path that it was given. -/
theorem sound_accept (sound : CacheSound cache state) {id : Nat} {query : CacheQuery}
    {key path : String} (found : state.queries[id]? = some query) (active : query.active = true)
    (call : query.call = .returned key path) :
    CacheSound cache (state.setQuery id
      { query with
        pending := query.pending.tail
        resolved := query.resolved ++ [(key, path)]
        call := .idle }) := by
  -- The path is moved from the call to the resolved ones.
  have own := sound.queries query (List.mem_of_getElem? found) active
  have holds := own.2
  rw [call] at holds
  refine sound.move found (fun _ => ⟨?_, trivial⟩) ?_ ?_
  · exact List.forall_mem_append.mpr ⟨own.1, List.forall_mem_singleton.mpr holds⟩
  · rintro path' ⟨_, member | named⟩
    · rw [List.map_append, List.mem_append] at member
      obtain earlier | last := member
      · exact .inl ⟨active, .inl earlier⟩
      · refine .inl ⟨active, .inr ?_⟩
        rw [call, List.mem_singleton.mp last]
        rfl
    · exact nomatch named
  · rintro path' ⟨_, _, _, opened⟩
    exact nomatch opened

/-- Every step of a query that spares the files in use keeps the invariant. -/
theorem sound_advance (sound : CacheSound cache state) {id : Nat} {query : CacheQuery}
    {order : List (String × CacheEntry)} {next : DiskCacheState}
    (found : state.queries[id]? = some query) (active : query.active = true)
    (spares : SparesFiles cache state (.advance id order))
    (stepped : advance cache state id query order = some next) : CacheSound cache next := by
  have own := sound.queries query (List.mem_of_getElem? found) active
  have spares : query.call.Spares cache state order := spares query found
  unfold advance at stepped
  -- One case for each place where a call can stand.
  split at stepped
  case h_1 =>
    split at stepped
    · exact nomatch stepped
    · cases stepped
      exact sound_lookUp sound found active _
  case h_2 call =>
    cases stepped
    exact sound_touch sound found active call
  case h_3 key call =>
    split at stepped
    case h_1 data object =>
      cases stepped
      refine sound.move found (fun _ => ⟨own.1, object⟩) ?_ ?_
      · rintro path ⟨_, member | named⟩
        · exact .inl ⟨active, .inl member⟩
        · exact nomatch named
      · rintro path ⟨_, _, _, opened⟩
        exact nomatch opened
    case h_2 =>
      cases stepped
      exact sound_finish sound found
  case h_4 key data call =>
    rw [call] at spares
    split_ifs at stepped
    · cases stepped
      exact sound_finish sound found
    · cases stepped
      exact sound_open sound found active call spares.1 spares.2
  case h_5 call =>
    cases stepped
    exact sound_write sound found active call
  case h_6 call =>
    cases stepped
    exact sound_insert sound found active call
  case h_7 call =>
    rw [call] at spares
    dsimp only at stepped
    split_ifs at stepped
    cases stepped
    exact sound_evict sound found active call spares
  case h_8 call =>
    cases stepped
    exact sound_accept sound found active call

/-- Every step that spares the files in use keeps the invariant. -/
theorem sound_cacheStep {label : CacheLabel} {next : DiskCacheState} (sound : CacheSound cache state)
    (spares : SparesFiles cache state label) (stepped : cacheStep cache state label = some next) :
    CacheSound cache next := by
  cases label with
  | pass time =>
    cases stepped
    -- Entries only get older.
    have older : ∀ entry, cache.expired state.clock entry = true →
        cache.expired (state.clock + time) entry = true := by
      intro entry late
      simp only [DiskCache.expired, decide_eq_true_eq] at late ⊢
      omega
    refine ⟨sound.queries, fun entry listed good => sound.index entry listed ?_, ?_⟩
    · by_contra late
      rw [older entry.2 (by simpa using late)] at good
      exact nomatch good
    · intro id query path located opening
      obtain ⟨alone, resolved, unlisted⟩ := sound.alone id query path located opening
      exact ⟨alone, resolved, fun entry listed same => older entry.2 (unlisted entry listed same)⟩
  | resolve s3Urls =>
    cases stepped
    have starts : ∀ path, ¬ CacheQuery.Uses ⟨true, s3Urls.map extractS3Key, [], .idle⟩ path := by
      rintro path ⟨_, member | named⟩
      · exact nomatch member
      · exact nomatch named
    -- A query of the new state that uses a file is an old one.
    have queryAt : ∀ (id : Nat) (query : CacheQuery) (path : String),
        (state.queries ++ [⟨true, s3Urls.map extractS3Key, [], .idle⟩])[id]? = some query →
        query.Uses path → state.queries[id]? = some query := by
      intro id query path located relies
      obtain inside | outside := Nat.lt_or_ge id state.queries.length
      · rwa [List.getElem?_append_left inside] at located
      · rw [List.getElem?_append_right outside] at located
        have last := List.mem_of_getElem? located
        rw [List.mem_singleton.mp last] at relies
        exact absurd relies (starts path)
    refine ⟨?_, sound.index, ?_⟩
    · refine List.forall_mem_append.mpr ⟨sound.queries, List.forall_mem_singleton.mpr fun _ => ?_⟩
      exact ⟨(fun _ member => nomatch member), trivial⟩
    · intro id query path located opening
      obtain ⟨alone, rest⟩ := sound.alone id query path (queryAt id query path located opening.uses)
        opening
      refine ⟨fun other second otherLocated relies => ?_, rest⟩
      exact alone other second (queryAt other second path otherLocated relies) relies
  | advance id order =>
    simp only [cacheStep] at stepped
    cases found : state.queries[id]? with
    | none => simp [found] at stepped
    | some query =>
      simp only [found] at stepped
      split_ifs at stepped with active
      exact sound_advance sound found active spares stepped
  | finish id =>
    simp only [cacheStep] at stepped
    cases found : state.queries[id]? with
    | none => simp [found] at stepped
    | some query =>
      simp only [found, Option.some.injEq] at stepped
      exact stepped ▸ sound_finish sound found

/-- Whatever a query has been given is valid under the invariant. -/
theorem CacheSound.pathsValid (sound : CacheSound cache state) : PathsValid cache state := by
  intro query member active
  obtain ⟨resolved, call⟩ := sound.queries query member active
  refine ⟨fun key path returned => ?_, fun _ _ => resolved⟩
  rw [returned] at call
  exact call

theorem emptyCache_sound (cache : DiskCache) : CacheSound cache emptyCache := by
  refine ⟨(fun _ member => nomatch member), (fun _ member => nomatch member), ?_⟩
  intro id query path located
  simp [emptyCache] at located

end

/--
In a run in which no write and no eviction touches a file that a query uses, and no write a file
that a good entry leads to, every path that is returned or about to be scanned is valid.
-/
theorem paths_valid_of_spared (cache : DiskCache) {labels : List CacheLabel} {state : DiskCacheState}
    (spared : Guarded (cacheStep cache) (SparesFiles cache) emptyCache labels)
    (reached : run (cacheStep cache) emptyCache labels = some state) : PathsValid cache state :=
  (run_invariant (fun _ _ _ sound spares stepped => sound_cacheStep sound spares stepped)
    (emptyCache_sound cache) spared reached).pathsValid

/-- A cache of one object of two bytes. -/
def smallCache (maxSizeBytes : Nat) : DiskCache where
  cacheDir := "/cache"
  maxSizeBytes := maxSizeBytes
  ttl := 3600
  download key := if key = "a/b.parquet" then some [1, 2] else none

/-- The call of a query for the object, up to where it returns, with no eviction. -/
def fetchOnce : List CacheLabel :=
  [.resolve ["s3://bucket/a/b.parquet"], .advance 0 [], .advance 0 [], .advance 0 [], .advance 0 [],
    .advance 0 [],
    .advance 0 [("a/b.parquet", ⟨"/cache/a_b.parquet", 2, 0, 0⟩)]]

theorem fetch_within_budget : ∃ state, run (cacheStep (smallCache 2)) emptyCache fetchOnce = some state ∧
    (state.queries.map fun query => query.call) = [.returned "a/b.parquet" "/cache/a_b.parquet"] ∧
    PathsValid (smallCache 2) state := by
  -- The object fits the budget, so no eviction touches its file.
  have spared : Guarded (cacheStep (smallCache 2)) (SparesFiles (smallCache 2)) emptyCache fetchOnce := by
    decide +kernel
  have returned : ((run (cacheStep (smallCache 2)) emptyCache fetchOnce).map fun state =>
      state.queries.map fun query => query.call) =
        some [.returned "a/b.parquet" "/cache/a_b.parquet"] := by
    decide +kernel
  obtain ⟨state, reached, calls⟩ := Option.map_eq_some_iff.mp returned
  exact ⟨state, reached, calls, paths_valid_of_spared (smallCache 2) spared reached⟩

theorem fetched_file_is_evicted :
    ¬ ∀ (cache : DiskCache) (labels : List CacheLabel) (state : DiskCacheState),
      run (cacheStep cache) emptyCache labels = some state → PathsValid cache state := by
  intro claim
  -- The object is larger than the budget, so the file goes before its path is returned.
  have gone : ((run (cacheStep (smallCache 1)) emptyCache fetchOnce).map fun state =>
      (state.queries, state.files "/cache/a_b.parquet")) =
        some ([⟨true, ["a/b.parquet"], [], .returned "a/b.parquet" "/cache/a_b.parquet"⟩], none) := by
    decide +kernel
  obtain ⟨state, reached, parts⟩ := Option.map_eq_some_iff.mp gone
  obtain ⟨queries, file⟩ := Prod.mk.inj parts
  have valid := claim (smallCache 1) fetchOnce state reached
  have member : (⟨true, ["a/b.parquet"], [], .returned "a/b.parquet" "/cache/a_b.parquet"⟩ :
      CacheQuery) ∈ state.queries := by
    rw [queries]
    exact List.mem_singleton.mpr rfl
  obtain ⟨data, _, held⟩ := (valid _ member rfl).1 _ _ rfl
  rw [file] at held
  exact nomatch held

end Zradar.Parquet

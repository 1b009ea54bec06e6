import Zradar.Storage.IngestUsage

/-! Stored bytes: the counter of the process and the sum of the database, against the live files. -/

namespace Zradar.Storage

open Parquet Policies Retention InMemoryUsageTracker

/-- Whether a live file counts for a workspace and a signal, by the signal it is billed to. -/
def countsFor (workspaceId : WorkspaceId) (signal : SignalKind) (entry : FileListEntry) : Bool :=
  billedTo workspaceId signal (writeSample entry.toNewFileListEntry)

/-- The bytes of the files that are chosen. -/
def chosenBytes (chosen : FileListEntry → Bool) (entries : List FileListEntry) : Int :=
  ((entries.filter chosen).map fun entry => entry.compressedSize.toInt).sum

/-- The bytes of the live files of a workspace and a signal. -/
def liveBytes (files : FileStore) (workspaceId : WorkspaceId) (signal : SignalKind) : Int :=
  chosenBytes (countsFor workspaceId signal) files.liveEntries

/-- The signal type that the database is asked for. -/
def signalTypeOf : SignalKind → String
  | .traces => "traces"
  | .logs => "logs"
  | .metrics => "metrics"
  | .rum => "rum"
  | .sessionReplay => "session_replay"
  | .errorTracking => "error_tracking"
  | .all => "all"

/-- Whether the database counts a live file, by its signal type. -/
def queriedFor (workspaceId : WorkspaceId) (signal : SignalKind) (entry : FileListEntry) : Bool :=
  entry.workspaceId = workspaceId &&
    (signal = .all || entry.signalType = signalTypeOf signal)

/-- The bytes of the live files that the database counts. -/
def queriedBytes (files : FileStore) (workspaceId : WorkspaceId) (signal : SignalKind) : Int :=
  chosenBytes (queriedFor workspaceId signal) files.liveEntries

/-- `PostgresUsageReader::stored_compressed_bytes`, which fails on a sum that is no `BIGINT`. -/
def postgresStored (files : FileStore) (workspaceId : WorkspaceId) (signal : SignalKind) :
    Option Int64 :=
  if FitsBigint (queriedBytes files workspaceId signal) then
    some (Int64.ofInt (queriedBytes files workspaceId signal))
  else none

/-- The tracker once the tasks that were spawned have run. -/
def settled (state : StorageState) : InMemoryUsageTracker :=
  (state.pending.map SpawnedSample.sample).foldl InMemoryUsageTracker.recordWrite state.tracker

/-- Both readers give the bytes of the live files. -/
structure MeasuresLive (state : StorageState) : Prop where
  inMemory : ∀ workspaceId signal,
    ((settled state).stored workspaceId signal).toInt = liveBytes state.files workspaceId signal
  postgres : ∀ workspaceId signal,
    (postgresStored state.files workspaceId signal).map Int64.toInt =
      some (liveBytes state.files workspaceId signal)

/-- A label with which the process stops and starts again. -/
def StorageLabel.restarts : StorageLabel → Bool
  | .system label => Storage.restarts label
  | _ => false

/-- What a step must not do: end a live file, file scores, outgrow `BIGINT`, or forget its files. -/
structure KeepsLive (state next : StorageState) (label : StorageLabel) : Prop where
  kept : ∀ entry ∈ state.files.liveEntries,
    entry.id ∈ next.files.liveEntries.map FileListEntry.id
  unscored : ∀ entry ∈ next.files.liveEntries, entry.signalType ≠ "scores"
  fits : ∀ entry ∈ next.files.liveEntries, liveBytes next.files entry.workspaceId .all < 2 ^ 63
  known : label.restarts → state.files.liveEntries = []

/-- Add bytes to a total that is not cut off. -/
def addTotal (key : StoredKey) (bytes : Int) : List (StoredKey × Int) → List (StoredKey × Int)
  | [] => [(key, bytes)]
  | (other, value) :: rest =>
    if key = other then (other, value + bytes) :: rest
    else (other, value) :: addTotal key bytes rest

/-- The exact total of the keys that are chosen. -/
def chosenTotal (chosen : StoredKey → Bool) (totals : List (StoredKey × Int)) : Int :=
  ((totals.filter fun entry => chosen entry.1).map Prod.snd).sum

theorem chosenTotal_addTotal (chosen : StoredKey → Bool) (key : StoredKey) (bytes : Int)
    (totals : List (StoredKey × Int)) :
    chosenTotal chosen (addTotal key bytes totals) =
      chosenTotal chosen totals + if chosen key then bytes else 0 := by
  -- The induction follows the search for the entry of the key.
  unfold chosenTotal
  fun_induction addTotal key bytes totals with
  | case1 => cases picked : chosen key <;> simp [picked]
  | case2 value rest =>
    cases picked : chosen key
    · simp [picked]
    · simp only [picked, List.filter_cons_of_pos, List.map_cons, List.sum_cons, if_true]
      omega
  | case3 other value rest apart ih =>
    cases picked : chosen other
    · simpa [picked] using ih
    · simp only [picked, List.filter_cons_of_pos, List.map_cons, List.sum_cons, ih]
      omega

theorem addTotal_nonneg {key : StoredKey} {bytes : Int} (positive : 0 ≤ bytes)
    {totals : List (StoredKey × Int)} (before : ∀ entry ∈ totals, 0 ≤ entry.2) :
    ∀ entry ∈ addTotal key bytes totals, 0 ≤ entry.2 := by
  -- A positive amount is added to one entry, or makes an entry of its own.
  fun_induction addTotal key bytes totals with
  | case1 => simpa using positive
  | case2 value rest =>
    obtain ⟨here, later⟩ := List.forall_mem_cons.mp before
    exact List.forall_mem_cons.mpr ⟨Int.add_nonneg here positive, later⟩
  | case3 other value rest apart ih =>
    obtain ⟨here, later⟩ := List.forall_mem_cons.mp before
    exact List.forall_mem_cons.mpr ⟨here, ih later⟩

/-- The counters of the tracker are the exact totals, each cut off once. -/
def cutOff (totals : List (StoredKey × Int)) : List (StoredKey × Int64) :=
  totals.map fun entry => (entry.1, Saturating.toI64 entry.2)

theorem addStored_cutOff (key : StoredKey) {bytes : Int64} (positive : 0 ≤ bytes.toInt)
    {totals : List (StoredKey × Int)} (before : ∀ entry ∈ totals, 0 ≤ entry.2) :
    addStored key bytes (cutOff totals) = cutOff (addTotal key bytes.toInt totals) := by
  have own : Saturating.toI64 bytes.toInt = bytes := by
    apply Int64.toInt_inj.mp
    have lower := bytes.le_toInt
    have upper := bytes.toInt_lt
    rw [Saturating.toI64_toInt]
    omega
  unfold cutOff
  fun_induction addTotal key bytes.toInt totals with
  | case1 => simp [addStored, own]
  | case2 value rest =>
    obtain ⟨here, later⟩ := List.forall_mem_cons.mp before
    -- What is cut off before the sum would be cut off behind it as well.
    have sum : Saturating.add (Saturating.toI64 value) bytes =
        Saturating.toI64 (value + bytes.toInt) := by
      apply Int64.toInt_inj.mp
      simp only at here
      rw [Saturating.add, Saturating.toI64_toInt, Saturating.toI64_toInt, Saturating.toI64_toInt]
      omega
    simp [addStored, sum]
  | case3 other value rest apart ih =>
    have later := (List.forall_mem_cons.mp before).2
    simp only [List.map_cons, addStored, if_neg apart]
    rw [ih later]

/-- The bytes of the samples that count for a workspace and a signal. -/
def sampleTotal (samples : List WriteSample) (workspaceId : WorkspaceId) (signal : SignalKind) :
    Int :=
  ((samples.filter (billedTo workspaceId signal)).map fun sample =>
    sample.compressedBytes.toInt).sum

/-- The counters of a tracker come from exact totals, which are those of the samples. -/
theorem stored_totals {samples : List WriteSample}
    (positive : ∀ sample ∈ samples, 0 ≤ sample.compressedBytes.toInt) :
    ∃ totals, (tracked samples).storedCompressedBytes = cutOff totals ∧
      (∀ entry ∈ totals, 0 ≤ entry.2) ∧
      ∀ workspaceId signal, chosenTotal (fun key => key.workspaceId = workspaceId &&
        (signal = .all || key.signal = signal)) totals = sampleTotal samples workspaceId signal := by
  -- The tracker holds exact totals that are cut off at the end of the range.
  induction samples using List.reverseRecOn with
  | nil => exact ⟨[], rfl, by simp, by simp [chosenTotal, sampleTotal]⟩
  | append_singleton samples sample ih =>
    obtain ⟨totals, stored, counted, total⟩ :=
      ih fun other listed => positive other (List.mem_append_left _ listed)
    have here := positive sample (List.mem_append_right _ List.mem_cons_self)
    refine ⟨addTotal ⟨sample.workspaceId, sample.signal⟩ sample.compressedBytes.toInt totals, ?_,
      addTotal_nonneg here counted, ?_⟩
    · rw [tracked_append, ← addStored_cutOff _ here counted, ← stored]
      rfl
    · intro workspaceId signal
      rw [chosenTotal_addTotal, total, sampleTotal, sampleTotal, List.filter_append,
        List.map_append, List.sum_append]
      -- What a sample adds is what it is billed for.
      congr 1
      show (if billedTo workspaceId signal sample then _ else _) = _
      cases billed : billedTo workspaceId signal sample <;> simp [billed]

/-- The reading of the stored bytes is the exact total, cut off once. -/
theorem stored_tracked {samples : List WriteSample}
    (positive : ∀ sample ∈ samples, 0 ≤ sample.compressedBytes.toInt) (workspaceId : WorkspaceId)
    (signal : SignalKind) :
    ((tracked samples).stored workspaceId signal).toInt =
      min (2 ^ 63 - 1) (sampleTotal samples workspaceId signal) := by
  -- The reading is a saturating sum over entries that are cut off themselves.
  obtain ⟨totals, stored, counted, total⟩ := stored_totals positive
  rw [← total, InMemoryUsageTracker.stored, stored, cutOff, List.filter_map, List.foldl_map]
  have sum := Saturating.foldl_add_toInt (fun entry : StoredKey × Int => Saturating.toI64 entry.2)
    Prod.snd (totals.filter fun entry => entry.1.workspaceId = workspaceId &&
      (signal = .all || entry.1.signal = signal)) ?_ 0 0 (le_refl _) rfl
  · rw [Int.zero_add] at sum
    exact sum
  · intro entry listed
    have here := counted entry (List.mem_of_mem_filter listed)
    refine ⟨here, ?_⟩
    rw [Saturating.toI64_toInt]
    omega

section

variable {chosen wider : FileListEntry → Bool} {entries : List FileListEntry}

/-- Files with bytes add up to more, the more of them are chosen. -/
theorem chosenBytes_le (sized : ∀ entry ∈ entries, 0 < entry.compressedSize.toInt)
    (more : ∀ entry ∈ entries, chosen entry = true → wider entry = true) :
    chosenBytes chosen entries ≤ chosenBytes wider entries := by
  -- Every file that is chosen is chosen by the wider choice, too.
  unfold chosenBytes
  induction entries with
  | nil => simp
  | cons entry entries ih =>
    obtain ⟨here, later⟩ := List.forall_mem_cons.mp sized
    obtain ⟨own, rest⟩ := List.forall_mem_cons.mp more
    have smaller := ih later rest
    cases picked : chosen entry <;> cases also : wider entry
    · simpa [picked, also] using smaller
    · simp only [List.filter_cons, picked, also, if_true, Bool.false_eq_true, if_false,
        List.map_cons, List.sum_cons]
      omega
    · rw [own picked] at also
      cases also
    · simp only [List.filter_cons, picked, also, if_true, List.map_cons, List.sum_cons]
      omega

/-- One file that only the wider choice takes makes the difference. -/
theorem chosenBytes_lt (sized : ∀ entry ∈ entries, 0 < entry.compressedSize.toInt)
    (more : ∀ entry ∈ entries, chosen entry = true → wider entry = true) {entry : FileListEntry}
    (listed : entry ∈ entries) (left : chosen entry = false) (taken : wider entry = true) :
    chosenBytes chosen entries < chosenBytes wider entries := by
  -- The file splits the list, and the parts around it compare as before.
  obtain ⟨front, back, rfl⟩ := List.append_of_mem listed
  have before : chosenBytes chosen front ≤ chosenBytes wider front :=
    chosenBytes_le (fun other inside => sized other (List.mem_append_left _ inside))
      fun other inside => more other (List.mem_append_left _ inside)
  have behind : chosenBytes chosen back ≤ chosenBytes wider back :=
    chosenBytes_le
      (fun other inside => sized other (List.mem_append_right _ (List.mem_cons_of_mem _ inside)))
      fun other inside => more other (List.mem_append_right _ (List.mem_cons_of_mem _ inside))
  have here := sized entry listed
  unfold chosenBytes at before behind ⊢
  simp only [List.filter_append, List.filter_cons, left, taken, Bool.false_eq_true, if_false,
    if_true, List.map_append, List.map_cons, List.sum_append, List.sum_cons]
  omega

/-- One file that is taken out of the list makes the difference. -/
theorem chosenBytes_filter_lt (sized : ∀ entry ∈ entries, 0 < entry.compressedSize.toInt)
    {ids : List Nat} {entry : FileListEntry} (listed : entry ∈ entries)
    (taken : chosen entry = true) (dropped : entry.id ∈ ids) :
    chosenBytes chosen (entries.filter fun other => other.id ∉ ids) <
      chosenBytes chosen entries := by
  -- Dropping an entry that is counted makes the sum smaller.
  have split : chosenBytes chosen (entries.filter fun other => other.id ∉ ids) =
      chosenBytes (fun other => chosen other && (other.id ∉ ids)) entries := by
    simp only [chosenBytes, List.filter_filter]
  rw [split]
  refine chosenBytes_lt sized ?_ listed (by simp [dropped]) taken
  intro other _ both
  exact (Bool.and_eq_true _ _ ▸ both).1

theorem chosenBytes_nonneg (sized : ∀ entry ∈ entries, 0 < entry.compressedSize.toInt) :
    0 ≤ chosenBytes chosen entries := by
  apply List.sum_nonneg
  intro size listed
  obtain ⟨entry, member, rfl⟩ := List.mem_map.mp listed
  exact le_of_lt (sized entry (List.mem_of_mem_filter member))

end

/-- Apart from scores, a file is billed to the signal that it is queried by. -/
theorem signalKind_eq_iff {signalType : String} (unscored : signalType ≠ "scores")
    {signal : SignalKind} (one : signal ≠ .all) :
    signalKind signalType = signal ↔ signalType = signalTypeOf signal := by
  unfold signalKind
  split
  · cases signal <;> simp_all [signalTypeOf]
  · cases signal <;> simp_all [signalTypeOf]
  · cases signal <;> simp_all [signalTypeOf]
  · exact absurd rfl unscored
  · cases signal <;> simp_all [signalTypeOf]
  · cases signal <;> simp_all [signalTypeOf]
  · cases signal <;> simp_all [signalTypeOf]
  · -- No signal of its own has a type that is not in the list.
    cases signal <;> simp_all [signalTypeOf]

theorem countsFor_iff {entry : FileListEntry} {workspaceId : WorkspaceId} {signal : SignalKind} :
    countsFor workspaceId signal entry = true ↔
      entry.workspaceId = workspaceId ∧ (signal = .all ∨ signalKind entry.signalType = signal) := by
  simp only [countsFor, billedTo, Bool.and_eq_true, Bool.or_eq_true, decide_eq_true_eq]
  rfl

/-- Without scores the database counts the files that are billed. -/
theorem queriedFor_eq_countsFor {entry : FileListEntry} (unscored : entry.signalType ≠ "scores")
    (workspaceId : WorkspaceId) (signal : SignalKind) :
    queriedFor workspaceId signal entry = countsFor workspaceId signal entry := by
  -- Labels and kinds of signals correspond, except for scores.
  apply Bool.eq_iff_iff.mpr
  rw [countsFor_iff]
  simp only [queriedFor, Bool.and_eq_true, Bool.or_eq_true, decide_eq_true_eq]
  apply and_congr_right
  intro _
  by_cases all : signal = .all
  · simp [all]
  · simp [all, signalKind_eq_iff unscored all]

section

variable {config : CompactorConfig} {env : WriterEnv} {flushIntervalSecs : Nat}
  {state next : StorageState} {label : StorageLabel}

/-- Under the conditions of a step, the samples add up to the live files. -/
structure LiveSound (state : StorageState) : Prop where
  sized : Sized state
  tracks : Tracks state
  account : ∀ workspaceId signal,
    sampleTotal state.samples workspaceId signal = liveBytes state.files workspaceId signal
  unscored : ∀ entry ∈ state.files.liveEntries, entry.signalType ≠ "scores"
  fits : ∀ workspaceId, liveBytes state.files workspaceId .all < 2 ^ 63

theorem settled_eq (tracks : Tracks state) : settled state = tracked state.samples := by
  rw [settled, tracks, tracked, ← List.foldl_append, ← List.map_append]
  rfl

theorem Sized.live (sized : Sized state) :
    ∀ entry ∈ state.files.liveEntries, 0 < entry.compressedSize.toInt :=
  fun entry live => sized.entries entry (state.files.mem_liveEntries.mp live).1

/-- The settled reading is the total of the samples, cut off once. -/
theorem settled_stored (sized : Sized state) (tracks : Tracks state) (workspaceId : WorkspaceId)
    (signal : SignalKind) :
    ((settled state).stored workspaceId signal).toInt =
      min (2 ^ 63 - 1) (sampleTotal state.samples workspaceId signal) := by
  -- All samples have been recorded, and each of them is positive.
  rw [settled_eq tracks]
  apply stored_tracked
  intro sample listed
  obtain ⟨spawned, member, rfl⟩ := List.mem_map.mp listed
  rcases List.mem_append.mp member with recorded | pending
  · exact le_of_lt (sized.recorded spawned recorded)
  · exact le_of_lt (sized.pending spawned pending)

/-- A signal has no more bytes than all signals together. -/
theorem liveBytes_le_all (sized : Sized state) (workspaceId : WorkspaceId) (signal : SignalKind) :
    liveBytes state.files workspaceId signal ≤ liveBytes state.files workspaceId .all := by
  apply chosenBytes_le sized.live
  intro entry _ counts
  exact countsFor_iff.mpr ⟨(countsFor_iff.mp counts).1, .inl rfl⟩

theorem LiveSound.measures (sound : LiveSound state) : MeasuresLive state := by
  have bounded : ∀ workspaceId signal, 0 ≤ liveBytes state.files workspaceId signal ∧
      liveBytes state.files workspaceId signal < 2 ^ 63 := by
    intro workspaceId signal
    exact ⟨chosenBytes_nonneg sound.sized.live,
      lt_of_le_of_lt (liveBytes_le_all sound.sized workspaceId signal) (sound.fits workspaceId)⟩
  constructor
  · intro workspaceId signal
    obtain ⟨_, upper⟩ := bounded workspaceId signal
    rw [settled_stored sound.sized sound.tracks, sound.account]
    omega
  · intro workspaceId signal
    obtain ⟨lower, upper⟩ := bounded workspaceId signal
    -- The database counts the same files, as none of them holds scores.
    have same : queriedBytes state.files workspaceId signal =
        liveBytes state.files workspaceId signal := by
      unfold queriedBytes liveBytes chosenBytes
      congr 2
      apply List.filter_congr
      intro entry live
      exact queriedFor_eq_countsFor (sound.unscored entry live) workspaceId signal
    have fits : FitsBigint (queriedBytes state.files workspaceId signal) := by
      rw [same]
      exact ⟨by omega, upper⟩
    rw [postgresStored, if_pos fits, Option.map_some, same,
      Int64.toInt_ofInt_of_le (by omega) (by omega)]

/-- Live scores are billed to traces, and the database does not find them there. -/
theorem MeasuresLive.unscored (measures : MeasuresLive state) (sized : Sized state) :
    ∀ entry ∈ state.files.liveEntries, entry.signalType ≠ "scores" := by
  intro entry live scored
  -- A score file is counted as traces and is not among those queried for them.
  have fewer : queriedBytes state.files entry.workspaceId .traces <
      liveBytes state.files entry.workspaceId .traces := by
    refine chosenBytes_lt sized.live ?_ live ?_ ?_
    · intro other _ queried
      simp only [queriedFor, Bool.and_eq_true, Bool.or_eq_true, decide_eq_true_eq] at queried
      refine countsFor_iff.mpr ⟨queried.1, .inr ?_⟩
      rcases queried.2 with all | traces
      · cases all
      · rw [traces]
        rfl
    · simp [queriedFor, scored, signalTypeOf]
    · exact countsFor_iff.mpr ⟨rfl, .inr (by rw [scored]; rfl)⟩
  have reading := measures.postgres entry.workspaceId .traces
  unfold postgresStored at reading
  split at reading
  · rename_i fits
    obtain ⟨lower, upper⟩ := fits
    rw [Option.map_some, Option.some.injEq, Int64.toInt_ofInt_of_le (by omega) (by omega)] at reading
    omega
  · cases reading

theorem MeasuresLive.fits (measures : MeasuresLive state) (workspaceId : WorkspaceId)
    (signal : SignalKind) : liveBytes state.files workspaceId signal < 2 ^ 63 := by
  rw [← measures.inMemory]
  exact Int64.toInt_lt _

/-- A sample that is added counts for its own workspace and signal. -/
theorem sampleTotal_append (samples : List WriteSample) (entry : FileListEntry)
    (workspaceId : WorkspaceId) (signal : SignalKind) :
    sampleTotal (samples ++ [writeSample entry.toNewFileListEntry]) workspaceId signal =
      sampleTotal samples workspaceId signal +
        chosenBytes (countsFor workspaceId signal) [entry] := by
  -- The sample of a file weighs what the file does.
  simp only [sampleTotal, List.filter_append, List.map_append, List.sum_append]
  congr 1
  unfold chosenBytes countsFor
  cases billed : billedTo workspaceId signal (writeSample entry.toNewFileListEntry)
  · simp [billed]
  · simp only [List.filter_cons, billed, if_true, List.filter_nil, List.map_cons, List.map_nil]
    rfl

theorem chosenBytes_append (chosen : FileListEntry → Bool) (front back : List FileListEntry) :
    chosenBytes chosen (front ++ back) = chosenBytes chosen front + chosenBytes chosen back := by
  simp [chosenBytes]

theorem sampleTotal_perm {first second : List WriteSample} (same : first.Perm second)
    (workspaceId : WorkspaceId) (signal : SignalKind) :
    sampleTotal first workspaceId signal = sampleTotal second workspaceId signal :=
  ((same.filter _).map _).sum_eq

/-- While the counter of the process is right, a step that ends a live file makes it wrong. -/
theorem LiveSound.dropped (sound : LiveSound state) {ids : List Nat}
    (live : next.files.liveEntries = state.files.liveEntries.filter fun entry => entry.id ∉ ids)
    (samples : next.samples = state.samples) (sized : Sized next) (tracks : Tracks next)
    (measures : MeasuresLive next) : ∀ entry ∈ state.files.liveEntries, entry.id ∉ ids := by
  intro entry listed marked
  -- The counter still has the bytes of the file.
  have reading := measures.inMemory entry.workspaceId .all
  rw [settled_stored sized tracks, samples, sound.account] at reading
  have before := sound.fits entry.workspaceId
  have fewer : liveBytes next.files entry.workspaceId .all <
      liveBytes state.files entry.workspaceId .all := by
    unfold liveBytes
    rw [live]
    exact chosenBytes_filter_lt sound.sized.live listed (countsFor_iff.mpr ⟨rfl, .inl rfl⟩) marked
  omega

/-- A restart that leaves live files makes the counter of the process wrong. -/
theorem MeasuresLive.restarted (measures : MeasuresLive next) (sized : Sized next)
    (tracks : Tracks next) (samples : next.samples = []) : next.files.liveEntries = [] := by
  -- After a restart the tracker is empty, so no live file can be left.
  apply List.eq_nil_iff_forall_not_mem.mpr
  intro entry live
  have reading := measures.inMemory entry.workspaceId .all
  rw [settled_stored sized tracks, samples] at reading
  have some : 0 < liveBytes next.files entry.workspaceId .all := by
    have none : chosenBytes (fun _ => false) next.files.liveEntries = 0 := by simp [chosenBytes]
    rw [← none]
    exact chosenBytes_lt sized.live (by simp) live rfl (countsFor_iff.mpr ⟨rfl, .inl rfl⟩)
  have zero : sampleTotal [] entry.workspaceId .all = 0 := rfl
  omega

/-- A restart is a step of the system. -/
theorem StorageLabel.restarts_iff : label.restarts = true ↔ label = .system .crash := by
  -- Only a crash of the system loses what was in memory.
  constructor
  · intro stops
    cases label with
    | system label =>
      cases label with
      | crash => rfl
      | write | flush | query | compact => cases stops
    | record | cleanup | reclaim => cases stops
  · rintro rfl
    rfl

/-- What both readers need of a step. -/
theorem LiveSound.needs (written : WritesBytes env) (sound : LiveSound state)
    (stepped : storageStep config env flushIntervalSecs state label = some next)
    (measures : MeasuresLive next) : KeepsLive state next label := by
  have sized := sound.sized.step written stepped
  have tracks := sound.tracks.step stepped
  have unscored := measures.unscored sized
  have fits : ∀ entry ∈ next.files.liveEntries,
      liveBytes next.files entry.workspaceId .all < 2 ^ 63 :=
    fun entry _ => measures.fits entry.workspaceId .all
  have runs (on : label ≠ .system .crash) : label.restarts → state.files.liveEntries = [] :=
    fun stops => absurd (StorageLabel.restarts_iff.mp stops) on
  -- Each change of the live files gives its part of the condition.
  cases liveChange_of_storageStep stepped with
  | same live samples =>
    refine ⟨?_, unscored, fits, ?_⟩
    · rw [live]
      exact fun entry => List.mem_map_of_mem
    · intro stops
      rw [StorageLabel.restarts_iff.mp stops] at stepped
      obtain ⟨system, inner, rfl⟩ := system_of_storageStep stepped
      rw [← live]
      exact measures.restarted sized tracks rfl
  | added entry live samples on =>
    refine ⟨?_, unscored, fits, runs on⟩
    rw [live]
    exact fun other listed => List.mem_map_of_mem (List.mem_append_left _ listed)
  | dropped ids live samples on =>
    refine ⟨?_, unscored, fits, runs on⟩
    have unmarked := sound.dropped live samples sized tracks measures
    rw [live]
    intro entry listed
    exact List.mem_map_of_mem (List.mem_filter.mpr ⟨listed, by simpa using unmarked entry listed⟩)
  | restarted live samples stopped =>
    refine ⟨?_, unscored, fits, ?_⟩
    · rw [live]
      exact fun entry => List.mem_map_of_mem
    · intro _
      rw [← live]
      exact measures.restarted sized tracks samples

/-- A step that ends no live file leaves all of them. -/
theorem filter_of_kept {ids : List Nat}
    (live : next.files.liveEntries = state.files.liveEntries.filter fun entry => entry.id ∉ ids)
    (kept : ∀ entry ∈ state.files.liveEntries,
      entry.id ∈ next.files.liveEntries.map FileListEntry.id) :
    next.files.liveEntries = state.files.liveEntries := by
  -- Every file that was live is kept, so nothing is filtered out.
  rw [live, List.filter_eq_self]
  intro entry listed
  have there := kept entry listed
  rw [live] at there
  obtain ⟨other, member, same⟩ := List.mem_map.mp there
  obtain ⟨inside, unmarked⟩ := List.mem_filter.mp member
  rw [← same]
  exact unmarked

/-- What is enough for both readers. -/
theorem LiveSound.step (written : WritesBytes env) (sound : LiveSound state)
    (stepped : storageStep config env flushIntervalSecs state label = some next)
    (keeps : KeepsLive state next label) : LiveSound next := by
  have sized := sound.sized.step written stepped
  have fits : ∀ workspaceId, liveBytes next.files workspaceId .all < 2 ^ 63 := by
    intro workspaceId
    by_cases some : ∃ entry ∈ next.files.liveEntries, entry.workspaceId = workspaceId
    · obtain ⟨entry, live, rfl⟩ := some
      exact keeps.fits entry live
    · -- A workspace without live files has no live bytes.
      have none : next.files.liveEntries.filter (countsFor workspaceId .all) = [] := by
        rw [List.filter_eq_nil_iff]
        intro entry live counts
        exact some ⟨entry, live, (countsFor_iff.mp counts).1⟩
      simp [liveBytes, chosenBytes, none]
  refine ⟨sized, sound.tracks.step stepped, ?_, keeps.unscored, fits⟩
  intro workspaceId signal
  have before := sound.account workspaceId signal
  cases liveChange_of_storageStep stepped with
  | same live samples =>
    rw [sampleTotal_perm samples, before, liveBytes, liveBytes, live]
  | added entry live samples on =>
    rw [sampleTotal_perm samples, sampleTotal_append, before, liveBytes, liveBytes, live,
      chosenBytes_append]
  | dropped ids live samples on =>
    rw [samples, before, liveBytes, liveBytes, filter_of_kept live keeps.kept]
  | restarted live samples stopped =>
    have none := keeps.known (StorageLabel.restarts_iff.mpr stopped)
    rw [samples, liveBytes, live, none]
    rfl

end

/-- What a step must meet so that both readers stay right. -/
def LiveGuard (config : CompactorConfig) (env : WriterEnv) (flushIntervalSecs : Nat)
    (state : StorageState) (label : StorageLabel) : Prop :=
  ∀ next ∈ storageStep config env flushIntervalSecs state label, KeepsLive state next label

/--
The size limit measures live storage in every state of a run exactly when no step of the run ends
a live file, files scores, outgrows `BIGINT` or restarts the process over live files.
-/
theorem size_limit_measures_live_iff (config : CompactorConfig) {env : WriterEnv}
    (written : WritesBytes env) (flushIntervalSecs : Nat) (maxSlotBytes : Option Nat)
    {labels : List StorageLabel} {final : StorageState}
    (reached : run (storageStep config env flushIntervalSecs) (initialStorage maxSlotBytes) labels =
      some final) :
    (∀ taken middle,
        run (storageStep config env flushIntervalSecs) (initialStorage maxSlotBytes)
          (labels.take taken) = some middle → MeasuresLive middle) ↔
      Guarded (storageStep config env flushIntervalSecs) (LiveGuard config env flushIntervalSecs)
        (initialStorage maxSlotBytes) labels := by
  -- Sound states measure what is live, and guarded steps keep them sound.
  have empty : (initialStorage maxSlotBytes).files.liveEntries = [] := rfl
  have start : LiveSound (initialStorage maxSlotBytes) := by
    refine ⟨.initial maxSlotBytes, rfl, ?_, by simp [empty], ?_⟩
    · intro workspaceId signal
      rw [liveBytes, empty]
      rfl
    · intro workspaceId
      rw [liveBytes, empty]
      show (0 : Int) < 2 ^ 63
      decide
  refine run_always_iff_of (fun _ => LiveSound.measures) ?_ ?_ start reached
  · intro state label next sound stepped measures other there
    obtain rfl := Option.some.inj (stepped.symm.trans there)
    exact sound.needs written stepped measures
  · intro state label next sound stepped guarded
    exact sound.step written stepped (guarded next stepped)

instance (state next : StorageState) (label : StorageLabel) :
    Decidable (KeepsLive state next label) :=
  decidable_of_iff
    ((∀ entry ∈ state.files.liveEntries,
        entry.id ∈ next.files.liveEntries.map FileListEntry.id) ∧
      (∀ entry ∈ next.files.liveEntries, entry.signalType ≠ "scores") ∧
      (∀ entry ∈ next.files.liveEntries, liveBytes next.files entry.workspaceId .all < 2 ^ 63) ∧
      (label.restarts → state.files.liveEntries.length = 0))
    ⟨fun ⟨kept, unscored, fits, known⟩ =>
        ⟨kept, unscored, fits, fun stops => List.eq_nil_of_length_eq_zero (known stops)⟩,
      fun ⟨kept, unscored, fits, known⟩ =>
        ⟨kept, unscored, fits, fun stops => by rw [known stops, List.length_nil]⟩⟩

instance (config : CompactorConfig) (env : WriterEnv) (flushIntervalSecs : Nat)
    (state : StorageState) (label : StorageLabel) :
    Decidable (LiveGuard config env flushIntervalSecs state label) :=
  inferInstanceAs (Decidable (∀ next ∈ storageStep config env flushIntervalSecs state label,
    KeepsLive state next label))

/-- One file is written and its sample recorded, and a month of retention is enforced at a time. -/
def writeAndClean (nowUs : Int64) : List StorageLabel := [
  .system (.write (.logs [logAt Uuid.nil.toText "api" 10]) 0 []),
  .record 0,
  .cleanup (RetentionConfigStore.new 30) ⟨fun _ => nowUs, nowUs, none, fun _ => none, fun _ => ""⟩
    none,
  .reclaim ⟨fun _ => false, fun _ => true, fun _ => false⟩ none]

/-- On the next day nothing has expired, and both readers see the file. -/
theorem size_limit_measures_live_next_day :
    ∃ final, run (storageStep pairConfig firstDayEnv 1) (initialStorage none)
        (writeAndClean 86400000000) = some final ∧
      ∀ taken middle, run (storageStep pairConfig firstDayEnv 1) (initialStorage none)
        ((writeAndClean 86400000000).take taken) = some middle → MeasuresLive middle := by
  -- On the next day the file has not expired, so the cleanup leaves it.
  have arrives : (run (storageStep pairConfig firstDayEnv 1) (initialStorage none)
      (writeAndClean 86400000000)).isSome := by decide +kernel
  obtain ⟨final, reached⟩ := Option.isSome_iff_exists.mp arrives
  refine ⟨final, reached, ?_⟩
  exact (size_limit_measures_live_iff pairConfig firstDayEnv_writesBytes 1 none reached).mpr
    (by decide +kernel)

/-- Half a century later the file has expired, and the counter still has its bytes. -/
theorem expired_file_stays_counted :
    ¬ ∀ (config : CompactorConfig) (env : WriterEnv) (flushIntervalSecs : Nat)
      (maxSlotBytes : Option Nat) (labels : List StorageLabel) (final : StorageState),
      run (storageStep config env flushIntervalSecs) (initialStorage maxSlotBytes) labels =
        some final → MeasuresLive final := by
  intro claim
  -- The file has expired and is marked, and the tracker still counts it.
  have readings : (run (storageStep pairConfig firstDayEnv 1) (initialStorage none)
      (writeAndClean 1735689600000000)).map (fun state =>
        (((settled state).stored Uuid.nil .logs).toInt, liveBytes state.files Uuid.nil .logs)) =
          some (500, 0) := by
    decide +kernel
  obtain ⟨final, reached, read⟩ := Option.map_eq_some_iff.mp readings
  have same := (claim pairConfig firstDayEnv 1 none _ final reached).inMemory Uuid.nil .logs
  simp only [Prod.mk.injEq] at read
  omega

end Zradar.Storage

import Zradar.Lib.Run
import Zradar.Policies.PostgresUsage

/-! The worker that flushes usage samples to Postgres, with what becomes of every sample. -/

namespace Zradar.Policies

/-- After so many failed flushes in a row, samples are dropped. -/
def maxFlushRetries : Nat := 3

/-- The samples of one kind: those that wait, the oldest first, and those that are gone. -/
structure SampleBuffer (α : Type) where
  samples : List α
  flushFailures : Nat
  /-- The samples that were inserted into the database. -/
  rows : List α
  /-- What the worker has added to the counter of dropped samples. -/
  droppedTotal : Nat

namespace SampleBuffer

variable {α : Type}

def empty : SampleBuffer α := ⟨[], 0, [], 0⟩

variable (buffer : SampleBuffer α)

def push (sample : α) : SampleBuffer α := { buffer with samples := buffer.samples ++ [sample] }

/-- Flush the samples of one kind, where a failed insertion leaves the database as it was. -/
def flush (inserted : Bool) : SampleBuffer α :=
  if buffer.samples = [] then buffer
  else if inserted then
    { buffer with samples := [], flushFailures := 0, rows := buffer.rows ++ buffer.samples }
  else if maxFlushRetries ≤ buffer.flushFailures + 1 then
    { buffer with
      samples := []
      flushFailures := 0
      droppedTotal := buffer.droppedTotal + buffer.samples.length }
  else { buffer with flushFailures := buffer.flushFailures + 1 }

/-- Drain samples from the front, and count them. -/
def dropOldest (count : Nat) : SampleBuffer α :=
  { buffer with
    samples := buffer.samples.drop count
    droppedTotal := buffer.droppedTotal + count }

/-- What is left of a buffer when the worker returns. -/
def freed : SampleBuffer α := { buffer with samples := [] }

/-- Every sample that was received is flushed, dropped or buffered, the buffered ones being the last. -/
structure Accounts (received : List α) : Prop where
  total : received.length = buffer.rows.length + buffer.droppedTotal + buffer.samples.length
  newest : buffer.samples <:+ received
  /-- No sample is flushed twice, or flushed and still buffered. -/
  once : (buffer.rows ++ buffer.samples).Sublist received

/-- Whether a flush leaves no sample behind. -/
def LeavesNothing (inserted : Bool) : Prop :=
  buffer.samples = [] ∨ inserted = true ∨ maxFlushRetries ≤ buffer.flushFailures + 1

instance [DecidableEq α] (inserted : Bool) : Decidable (buffer.LeavesNothing inserted) :=
  inferInstanceAs (Decidable (_ ∨ _ ∨ _))

end SampleBuffer

/-- The counters that are about both kinds of samples. -/
structure FlushMetrics where
  flushFailuresTotal : Nat
  flushBatchesTotal : Nat
  flushSamplesTotal : Nat
  bufferedSamples : Nat

/-- Count a flush of some samples, unless there are none. -/
def FlushMetrics.flushed {α : Type} (metrics : FlushMetrics) (samples : List α) (inserted : Bool) :
    FlushMetrics :=
  if samples = [] then metrics
  else if inserted then
    { metrics with
      flushBatchesTotal := metrics.flushBatchesTotal + 1
      flushSamplesTotal := metrics.flushSamplesTotal + samples.length }
  else { metrics with flushFailuresTotal := metrics.flushFailuresTotal + 1 }

/-- How many writes and how many queries to drop, always one of the kind with more samples. -/
def balance : Nat → Nat → Nat → Nat × Nat
  | 0, _, _ => (0, 0)
  | remaining + 1, writeLen, queryLen =>
    if queryLen ≤ writeLen ∧ 0 < writeLen then
      let rest := balance remaining (writeLen - 1) queryLen
      (rest.1 + 1, rest.2)
    else if 0 < queryLen then
      let rest := balance remaining writeLen (queryLen - 1)
      (rest.1, rest.2 + 1)
    else (0, 0)

/-- The worker, with its limits and what it has flushed. -/
structure UsageFlushWorker where
  batchSize : Nat
  retryBufferMaxSamples : Nat
  writes : SampleBuffer WriteSample
  queries : SampleBuffer QuerySample
  metrics : FlushMetrics

namespace UsageFlushWorker

variable (worker : UsageFlushWorker)

/-- The number of samples in both buffers. -/
def buffered : Nat := worker.writes.samples.length + worker.queries.samples.length

def recordBufferedSamples : UsageFlushWorker :=
  { worker with metrics := { worker.metrics with bufferedSamples := worker.buffered } }

/-- Drop what is over the limit. -/
def enforceRetryBufferLimit : UsageFlushWorker :=
  let dropped := balance (worker.buffered - worker.retryBufferMaxSamples)
    worker.writes.samples.length worker.queries.samples.length
  recordBufferedSamples
    { worker with
      writes := worker.writes.dropOldest dropped.1
      queries := worker.queries.dropOldest dropped.2 }

/-- Flush both kinds, each with its own insertion. -/
def flush (writesInserted queriesInserted : Bool) : UsageFlushWorker :=
  if worker.writes.samples = [] ∧ worker.queries.samples = [] then worker
  else
    enforceRetryBufferLimit (recordBufferedSamples
      { worker with
        writes := worker.writes.flush writesInserted
        queries := worker.queries.flush queriesInserted
        metrics := (worker.metrics.flushed worker.writes.samples writesInserted).flushed
          worker.queries.samples queriesInserted })

/-- Take in a sample. -/
def push : UsageEvent → UsageFlushWorker
  | .write sample => { worker with writes := worker.writes.push sample }
  | .query sample => { worker with queries := worker.queries.push sample }

/-- Take in a sample, and flush when a batch is full. -/
def receive (event : UsageEvent) (writesInserted queriesInserted : Bool) : UsageFlushWorker :=
  let worker := (worker.push event).recordBufferedSamples.enforceRetryBufferLimit
  if worker.batchSize ≤ worker.buffered then worker.flush writesInserted queriesInserted
  else worker

/-- Flush a last time and return, which frees both buffers. -/
def close (writesInserted queriesInserted : Bool) : UsageFlushWorker :=
  let worker := worker.flush writesInserted queriesInserted
  { worker with writes := worker.writes.freed, queries := worker.queries.freed }

end UsageFlushWorker

/-- The worker with the samples that it has received. -/
structure UsageRun where
  worker : UsageFlushWorker
  running : Bool
  receivedWrites : List WriteSample
  receivedQueries : List QuerySample

/-- What the worker waits for, with the outcomes of the insertions of a flush. -/
inductive UsageLabel where
  | event (event : UsageEvent) (writesInserted queriesInserted : Bool)
  | tick (writesInserted queriesInserted : Bool)
  | close (writesInserted queriesInserted : Bool)

/-- One round of the loop, until the worker has returned. -/
def usageStep (state : UsageRun) (label : UsageLabel) : Option UsageRun :=
  if state.running then
    match label with
    | .event event writesInserted queriesInserted =>
      let worker := state.worker.receive event writesInserted queriesInserted
      match event with
      | .write sample =>
        some { state with worker, receivedWrites := state.receivedWrites ++ [sample] }
      | .query sample =>
        some { state with worker, receivedQueries := state.receivedQueries ++ [sample] }
    | .tick writesInserted queriesInserted =>
      some { state with worker := state.worker.flush writesInserted queriesInserted }
    | .close writesInserted queriesInserted =>
      some { state with
        worker := state.worker.close writesInserted queriesInserted
        running := false }
  else none

/-- A worker that has received nothing. -/
def initialUsage (batchSize retryBufferMaxSamples : Nat) : UsageRun where
  worker := ⟨batchSize, retryBufferMaxSamples, .empty, .empty, ⟨0, 0, 0, 0⟩⟩
  running := true
  receivedWrites := []
  receivedQueries := []

/-- Samples are accounted for, and no more are buffered than the limit says. -/
structure UsageRun.Accounted (state : UsageRun) : Prop where
  writes : state.worker.writes.Accounts state.receivedWrites
  queries : state.worker.queries.Accounts state.receivedQueries
  bounded : state.worker.buffered ≤ state.worker.retryBufferMaxSamples

/-- Whether a step closes the worker only with nothing left behind. -/
def ClosesClean (state : UsageRun) : UsageLabel → Prop
  | .close writesInserted queriesInserted =>
    state.worker.writes.LeavesNothing writesInserted ∧
      state.worker.queries.LeavesNothing queriesInserted
  | .event _ _ _ | .tick _ _ => True

instance (state : UsageRun) : ∀ label, Decidable (ClosesClean state label)
  | .close writesInserted queriesInserted =>
    inferInstanceAs (Decidable (state.worker.writes.LeavesNothing writesInserted ∧
      state.worker.queries.LeavesNothing queriesInserted))
  | .event _ _ _ | .tick _ _ => .isTrue trivial

/-- As many samples are dropped as were asked for, if there are so many. -/
theorem balance_spec (remaining writeLen queryLen : Nat) :
    (balance remaining writeLen queryLen).1 ≤ writeLen ∧
      (balance remaining writeLen queryLen).2 ≤ queryLen ∧
      (balance remaining writeLen queryLen).1 + (balance remaining writeLen queryLen).2 =
        min remaining (writeLen + queryLen) := by
  -- One sample is dropped in each round of the loop.
  fun_induction balance remaining writeLen queryLen with
  | case1 => simp
  | case2 remaining writeLen queryLen more rest ih =>
    dsimp only [rest] at ih ⊢
    omega
  | case3 remaining writeLen queryLen fewer some rest ih =>
    dsimp only [rest] at ih ⊢
    omega
  | case4 remaining writeLen queryLen fewer none =>
    dsimp only
    omega

namespace SampleBuffer

variable {α : Type} {buffer : SampleBuffer α} {received : List α}

theorem Accounts.push (accounts : buffer.Accounts received) (sample : α) :
    (buffer.push sample).Accounts (received ++ [sample]) := by
  -- The new sample is counted and stands behind all others, in the buffer and in what came in.
  obtain ⟨total, newest, once⟩ := accounts
  refine ⟨?_, ?_, ?_⟩
  · simp only [SampleBuffer.push, List.length_append, List.length_singleton]
    omega
  · obtain ⟨front, whole⟩ := newest
    exact ⟨front, by rw [← whole, SampleBuffer.push, List.append_assoc]⟩
  · simp only [SampleBuffer.push]
    rw [← List.append_assoc]
    exact once.append (List.Sublist.refl [sample])

theorem Accounts.dropOldest (accounts : buffer.Accounts received) {count : Nat}
    (within : count ≤ buffer.samples.length) : (buffer.dropOldest count).Accounts received := by
  obtain ⟨total, newest, once⟩ := accounts
  refine ⟨?_, ?_, ?_⟩
  · simp only [SampleBuffer.dropOldest, List.length_drop]
    omega
  · exact (List.drop_suffix count buffer.samples).trans newest
  · exact (List.Sublist.append (List.Sublist.refl _) (List.drop_sublist _ _)).trans once

theorem Accounts.flush (accounts : buffer.Accounts received) (inserted : Bool) :
    (buffer.flush inserted).Accounts received := by
  obtain ⟨total, newest, once⟩ := accounts
  unfold SampleBuffer.flush
  split_ifs
  · exact ⟨total, newest, once⟩
  · -- The samples become rows.
    refine ⟨?_, List.nil_suffix, ?_⟩
    · simp only [List.length_append, List.length_nil]
      omega
    · rwa [List.append_nil]
  · -- The samples are dropped and counted.
    refine ⟨?_, List.nil_suffix, ?_⟩
    · simp only [List.length_nil]
      omega
    · rw [List.append_nil]
      exact (List.sublist_append_left _ _).trans once
  · exact ⟨total, newest, once⟩

/-- A flush adds no samples. -/
theorem length_flush_le (inserted : Bool) :
    (buffer.flush inserted).samples.length ≤ buffer.samples.length := by
  unfold SampleBuffer.flush
  split_ifs <;> simp

/-- A flush leaves nothing exactly if it can. -/
theorem flush_samples_eq_nil (inserted : Bool) :
    (buffer.flush inserted).samples = [] ↔ buffer.LeavesNothing inserted := by
  unfold SampleBuffer.flush LeavesNothing
  split_ifs with nothing ok give
  · simp [nothing]
  · simp [ok]
  · simp [give]
  · simp [nothing, ok, give]

/-- Freeing a buffer loses count of the samples in it. -/
theorem freed_accounts_iff (accounts : buffer.Accounts received) :
    buffer.freed.Accounts received ↔ buffer.samples = [] := by
  -- The total counts each sample once, so that a freed one is missing from it.
  obtain ⟨total, newest, once⟩ := accounts
  constructor
  · rintro ⟨after, -, -⟩
    simp only [freed, List.length_nil] at after
    exact List.length_eq_zero_iff.mp (by omega)
  · intro nothing
    have same : buffer.freed = buffer := by
      unfold freed
      rw [← nothing]
    rw [same]
    exact ⟨total, newest, once⟩

end SampleBuffer

namespace UsageFlushWorker

variable {worker : UsageFlushWorker}

/-- Enforcing the limit drops samples from the front of both buffers until it is kept. -/
theorem enforceRetryBufferLimit_spec (worker : UsageFlushWorker) :
    ∃ writesToDrop queriesToDrop,
      writesToDrop ≤ worker.writes.samples.length ∧
      queriesToDrop ≤ worker.queries.samples.length ∧
      writesToDrop + queriesToDrop = worker.buffered - worker.retryBufferMaxSamples ∧
      worker.enforceRetryBufferLimit.writes = worker.writes.dropOldest writesToDrop ∧
      worker.enforceRetryBufferLimit.queries = worker.queries.dropOldest queriesToDrop := by
  obtain ⟨writes, queries, both⟩ := balance_spec (worker.buffered - worker.retryBufferMaxSamples)
    worker.writes.samples.length worker.queries.samples.length
  refine ⟨_, _, writes, queries, ?_, rfl, rfl⟩
  rw [both, buffered]
  omega

/-- Behind it the limit is kept. -/
theorem enforceRetryBufferLimit_bounded (worker : UsageFlushWorker) :
    worker.enforceRetryBufferLimit.buffered ≤ worker.retryBufferMaxSamples := by
  obtain ⟨writesToDrop, queriesToDrop, writes, queries, both, droppedWrites, droppedQueries⟩ :=
    enforceRetryBufferLimit_spec worker
  rw [buffered, droppedWrites, droppedQueries]
  simp only [SampleBuffer.dropOldest, List.length_drop]
  rw [buffered] at both
  omega

/-- Within the limit nothing is dropped. -/
theorem enforceRetryBufferLimit_within
    (bounded : worker.buffered ≤ worker.retryBufferMaxSamples) :
    worker.enforceRetryBufferLimit.writes.samples = worker.writes.samples ∧
      worker.enforceRetryBufferLimit.queries.samples = worker.queries.samples := by
  obtain ⟨writesToDrop, queriesToDrop, -, -, both, droppedWrites, droppedQueries⟩ :=
    enforceRetryBufferLimit_spec worker
  have none : writesToDrop = 0 ∧ queriesToDrop = 0 := by omega
  rw [droppedWrites, droppedQueries, none.1, none.2]
  exact ⟨rfl, rfl⟩

/-- Both kinds of samples are accounted for. -/
def Accounts (worker : UsageFlushWorker) (receivedWrites : List WriteSample)
    (receivedQueries : List QuerySample) : Prop :=
  worker.writes.Accounts receivedWrites ∧ worker.queries.Accounts receivedQueries

variable {receivedWrites : List WriteSample} {receivedQueries : List QuerySample}

theorem Accounts.enforce (accounts : worker.Accounts receivedWrites receivedQueries) :
    worker.enforceRetryBufferLimit.Accounts receivedWrites receivedQueries := by
  obtain ⟨writesToDrop, queriesToDrop, writes, queries, -, droppedWrites, droppedQueries⟩ :=
    enforceRetryBufferLimit_spec worker
  refine ⟨?_, ?_⟩
  · rw [droppedWrites]
    exact accounts.1.dropOldest writes
  · rw [droppedQueries]
    exact accounts.2.dropOldest queries

/-- A flush keeps the account and the limit. -/
theorem Accounts.flush (accounts : worker.Accounts receivedWrites receivedQueries)
    (bounded : worker.buffered ≤ worker.retryBufferMaxSamples)
    (writesInserted queriesInserted : Bool) :
    (worker.flush writesInserted queriesInserted).Accounts receivedWrites receivedQueries ∧
      (worker.flush writesInserted queriesInserted).buffered ≤ worker.retryBufferMaxSamples := by
  unfold UsageFlushWorker.flush
  split_ifs
  · exact ⟨accounts, bounded⟩
  · refine ⟨Accounts.enforce ?_, enforceRetryBufferLimit_bounded _⟩
    exact ⟨accounts.1.flush writesInserted, accounts.2.flush queriesInserted⟩

/-- What a flush leaves is what the flushes of the two kinds leave. -/
theorem flush_samples (bounded : worker.buffered ≤ worker.retryBufferMaxSamples)
    (writesInserted queriesInserted : Bool) :
    (worker.flush writesInserted queriesInserted).writes.samples =
        (worker.writes.flush writesInserted).samples ∧
      (worker.flush writesInserted queriesInserted).queries.samples =
        (worker.queries.flush queriesInserted).samples := by
  unfold UsageFlushWorker.flush
  split_ifs with nothing
  · -- Flushing no samples leaves none.
    rw [SampleBuffer.flush, if_pos nothing.1, SampleBuffer.flush, if_pos nothing.2]
    exact ⟨rfl, rfl⟩
  · -- Fewer samples are still within the limit.
    apply enforceRetryBufferLimit_within
    have writes := worker.writes.length_flush_le writesInserted
    have queries := worker.queries.length_flush_le queriesInserted
    unfold buffered at bounded
    simp only [buffered, recordBufferedSamples]
    omega

@[simp] theorem flush_retryBufferMaxSamples (writesInserted queriesInserted : Bool) :
    (worker.flush writesInserted queriesInserted).retryBufferMaxSamples =
      worker.retryBufferMaxSamples := by
  unfold UsageFlushWorker.flush
  split_ifs <;> rfl

@[simp] theorem receive_retryBufferMaxSamples (event : UsageEvent)
    (writesInserted queriesInserted : Bool) :
    (worker.receive event writesInserted queriesInserted).retryBufferMaxSamples =
      worker.retryBufferMaxSamples := by
  unfold receive
  dsimp only
  split_ifs
  · rw [flush_retryBufferMaxSamples]
    cases event <;> rfl
  · cases event <;> rfl

/-- Taking in a sample keeps the account and the limit. -/
theorem Accounts.receive {event : UsageEvent}
    (pushed : (worker.push event).Accounts receivedWrites receivedQueries)
    (writesInserted queriesInserted : Bool) :
    (worker.receive event writesInserted queriesInserted).Accounts receivedWrites
        receivedQueries ∧
      (worker.receive event writesInserted queriesInserted).buffered ≤
        worker.retryBufferMaxSamples := by
  have limit : (worker.push event).recordBufferedSamples.retryBufferMaxSamples =
      worker.retryBufferMaxSamples := by
    cases event <;> rfl
  have enforced : (worker.push event).recordBufferedSamples.enforceRetryBufferLimit.Accounts
      receivedWrites receivedQueries := Accounts.enforce pushed
  have bounded := enforceRetryBufferLimit_bounded (worker.push event).recordBufferedSamples
  unfold UsageFlushWorker.receive
  dsimp only
  -- The limit is enforced first, whether a flush follows or not.
  split_ifs
  · rw [← limit]
    exact enforced.flush bounded writesInserted queriesInserted
  · rw [← limit]
    exact ⟨enforced, bounded⟩

end UsageFlushWorker

/-- A step of a worker that has everything accounted for does so exactly if it closes clean. -/
theorem usageStep_accounted_iff {state next : UsageRun} {label : UsageLabel}
    (accounted : state.Accounted) (stepped : usageStep state label = some next) :
    next.Accounted ↔ ClosesClean state label := by
  obtain ⟨writes, queries, bounded⟩ := accounted
  have accounts : state.worker.Accounts state.receivedWrites state.receivedQueries :=
    ⟨writes, queries⟩
  unfold usageStep at stepped
  split at stepped
  case isFalse => cases stepped
  case isTrue =>
    cases label with
    | event event writesInserted queriesInserted =>
      refine iff_of_true ?_ trivial
      cases event with
      | write sample =>
        obtain rfl := Option.some.inj stepped
        have pushed : (state.worker.push (.write sample)).Accounts
            (state.receivedWrites ++ [sample]) state.receivedQueries :=
          ⟨writes.push sample, queries⟩
        obtain ⟨after, limit⟩ := pushed.receive writesInserted queriesInserted
        exact ⟨after.1, after.2, by simpa using limit⟩
      | query sample =>
        obtain rfl := Option.some.inj stepped
        have pushed : (state.worker.push (.query sample)).Accounts
            state.receivedWrites (state.receivedQueries ++ [sample]) :=
          ⟨writes, queries.push sample⟩
        obtain ⟨after, limit⟩ := pushed.receive writesInserted queriesInserted
        exact ⟨after.1, after.2, by simpa using limit⟩
    | tick writesInserted queriesInserted =>
      refine iff_of_true ?_ trivial
      obtain rfl := Option.some.inj stepped
      obtain ⟨after, limit⟩ := accounts.flush bounded writesInserted queriesInserted
      exact ⟨after.1, after.2, by simpa using limit⟩
    | close writesInserted queriesInserted =>
      -- The buffers are freed, so all depends on what the last flush leaves in them.
      obtain rfl := Option.some.inj stepped
      obtain ⟨after, limit⟩ := accounts.flush bounded writesInserted queriesInserted
      obtain ⟨leftWrites, leftQueries⟩ :=
        UsageFlushWorker.flush_samples bounded writesInserted queriesInserted
      have freedWrites := SampleBuffer.freed_accounts_iff after.1
      have freedQueries := SampleBuffer.freed_accounts_iff after.2
      rw [leftWrites, SampleBuffer.flush_samples_eq_nil] at freedWrites
      rw [leftQueries, SampleBuffer.flush_samples_eq_nil] at freedQueries
      constructor
      · rintro ⟨closedWrites, closedQueries, -⟩
        exact ⟨freedWrites.mp closedWrites, freedQueries.mp closedQueries⟩
      · rintro ⟨cleanWrites, cleanQueries⟩
        refine ⟨freedWrites.mpr cleanWrites, freedQueries.mpr cleanQueries, ?_⟩
        exact Nat.zero_le _

/-- A worker that has received nothing has nothing to account for. -/
theorem initialUsage_accounted (batchSize retryBufferMaxSamples : Nat) :
    (initialUsage batchSize retryBufferMaxSamples).Accounted :=
  ⟨⟨rfl, List.nil_suffix, List.Sublist.slnil⟩, ⟨rfl, List.nil_suffix, List.Sublist.slnil⟩,
    Nat.zero_le _⟩

/--
Throughout a run every sample is flushed, counted as dropped or buffered, within the limit of the
buffers, exactly if the worker closes clean; and the limit is enforced by dropping the oldest.
-/
theorem samples_accounted_iff {batchSize retryBufferMaxSamples : Nat} {labels : List UsageLabel}
    {final : UsageRun}
    (reached : run usageStep (initialUsage batchSize retryBufferMaxSamples) labels = some final) :
    ((∀ taken middle, run usageStep (initialUsage batchSize retryBufferMaxSamples)
          (labels.take taken) = some middle → middle.Accounted) ↔
        Guarded usageStep ClosesClean (initialUsage batchSize retryBufferMaxSamples) labels) ∧
      ∀ worker : UsageFlushWorker, ∃ writesToDrop queriesToDrop,
        writesToDrop ≤ worker.writes.samples.length ∧
        queriesToDrop ≤ worker.queries.samples.length ∧
        writesToDrop + queriesToDrop = worker.buffered - worker.retryBufferMaxSamples ∧
        worker.enforceRetryBufferLimit.writes = worker.writes.dropOldest writesToDrop ∧
        worker.enforceRetryBufferLimit.queries = worker.queries.dropOldest queriesToDrop :=
  ⟨run_always_iff (fun _ _ _ accounted stepped => usageStep_accounted_iff accounted stepped)
      (initialUsage_accounted batchSize retryBufferMaxSamples) reached,
    UsageFlushWorker.enforceRetryBufferLimit_spec⟩

/-- One write of a workspace. -/
def oneWrite : WriteSample := ⟨Uuid.nil, .logs, 10, 1, 0⟩

/-- A write is received, a flush of it fails, and the last one succeeds. -/
def cleanClose : List UsageLabel :=
  [.event (.write oneWrite) true true, .tick false true, .close true true]

/-- A write is received, and the only flush of it is the one at the end, which fails. -/
def lossyClose : List UsageLabel := [.event (.write oneWrite) true true, .close false true]

theorem clean_close_accounted : ∃ final,
    run usageStep (initialUsage 512 16384) cleanClose = some final ∧
      ∀ taken middle, run usageStep (initialUsage 512 16384) (cleanClose.take taken) = some middle →
        middle.Accounted := by
  have reached : run usageStep (initialUsage 512 16384) cleanClose = some _ := rfl
  exact ⟨_, reached, (samples_accounted_iff reached).1.mpr (by decide)⟩

/-- The write is gone, and was neither flushed nor counted. -/
theorem lossy_close_uncounted : ∃ final,
    run usageStep (initialUsage 512 16384) lossyClose = some final ∧
      final.receivedWrites.length = 1 ∧ final.worker.writes.rows = [] ∧
      final.worker.writes.droppedTotal = 0 ∧ final.worker.writes.samples = [] :=
  ⟨_, rfl, rfl, rfl, rfl, rfl⟩

end Zradar.Policies

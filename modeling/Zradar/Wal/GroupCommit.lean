import Zradar.Wal.Append

/-! Group commit: which fsync stands behind a durability acknowledgement. -/

namespace Zradar.Wal

/-- An fsync of a segment file, with the records that were written before it started. -/
structure Fsync where
  segmentId : Nat
  written : List (Nat × WalRecord)

/-- Where the group-commit task stands in its loop. -/
inductive CommitPhase where
  | idle
  /-- There are waiters, and the fsync function is about to be called. -/
  | checked
  /-- The link has been read, and the file it names is about to be opened. -/
  | resolved (target : Option Nat)
  | syncing (sync : Fsync)
  /-- The fsync has succeeded, and the waiters are about to be drained. -/
  | synced

/-- A WAL with its producers, the queue of waiters and the group-commit task. -/
structure CommitState where
  wal : WalState
  /-- Records that are written and whose producers have not registered yet. -/
  unregistered : List (Nat × WalRecord)
  pending : List (Nat × WalRecord)
  committer : CommitPhase
  /-- Every fsync that has completed successfully. -/
  completed : List Fsync
  /-- The records for which `durable()` has returned without an error. -/
  acknowledged : List (Nat × WalRecord)

/-- One step of a producer or of the group-commit task. -/
inductive CommitLabel where
  | append (label : AppendLabel)
  | register (index : Nat)
  | hasPending
  | readLink
  | openTarget
  | syncOk
  | syncErr
  | drainAndNotify
  deriving DecidableEq

/-- One step of `group_commit_loop`. -/
def committerStep (state : CommitState) (label : CommitLabel) : Option CommitState :=
  match state.committer, label with
  | .idle, .hasPending =>
    if state.pending = [] then some state else some { state with committer := .checked }
  | .checked, .readLink => some { state with committer := .resolved state.wal.dir.current }
  | .resolved target, .openTarget =>
    match target with
    | some segmentId =>
      if segmentId ∈ state.wal.dir.segmentIds then
        some { state with committer := .syncing ⟨segmentId, state.wal.written⟩ }
      else some { state with committer := .idle }
    -- A missing link is opened under its own name, which fails.
    | none => some { state with committer := .idle }
  | .syncing sync, .syncOk =>
    some { state with committer := .synced, completed := state.completed ++ [sync] }
  -- A failed fsync notifies nobody, and the waiters stay.
  | .syncing _, .syncErr => some { state with committer := .idle }
  | .synced, .drainAndNotify =>
    some { state with
      committer := .idle
      pending := []
      acknowledged := state.acknowledged ++ state.pending }
  | _, _ => none

/-- The fsync that seals the old segment, when a step has rotated away from it. -/
def sealingFsync (wal next : WalState) : List Fsync :=
  if next.writer.segmentId = wal.writer.segmentId then []
  else [⟨wal.writer.segmentId, wal.written⟩]

/-- One step of the WAL with its group-commit task. -/
def commitStep (crc : Bytes → UInt32) (segmentMaxBytes : Nat) (state : CommitState) :
    CommitLabel → Option CommitState
  | .append label =>
    (appendStep crc segmentMaxBytes state.wal label).map fun next =>
      { state with
        wal := next
        unregistered := state.unregistered ++ next.written.drop state.wal.written.length
        completed := state.completed ++ sealingFsync state.wal next }
  | .register index =>
    match state.unregistered[index]? with
    | some entry =>
      some { state with
        unregistered := state.unregistered.eraseIdx index
        pending := state.pending ++ [entry] }
    | none => none
  | label => committerStep state label

/-- A completed fsync of the record's segment started after the record was written. -/
def CommitState.Durable (state : CommitState) (entry : Nat × WalRecord) : Prop :=
  ∃ sync ∈ state.completed, sync.segmentId = entry.1 ∧ entry ∈ sync.written

/-- Every acknowledgement is backed by an fsync that covers its record. -/
def AcksDurable (state : CommitState) : Prop :=
  ∀ entry ∈ state.acknowledged, state.Durable entry

/-- The record is covered by what the running commit cycle syncs before it drains. -/
def CoveredByCycle (state : CommitState) (entry : Nat × WalRecord) : Prop :=
  match state.committer with
  | .idle => True
  | .checked => True
  | .resolved target => target = some entry.1 ∨ state.Durable entry
  | .syncing sync => sync.segmentId = entry.1 ∧ entry ∈ sync.written ∨ state.Durable entry
  | .synced => state.Durable entry

instance (state : CommitState) (entry : Nat × WalRecord) : Decidable (state.Durable entry) :=
  inferInstanceAs (Decidable (∃ sync ∈ _, _))

instance (state : CommitState) (entry : Nat × WalRecord) : Decidable (CoveredByCycle state entry) :=
  match committer : state.committer with
  | .idle | .checked => .isTrue (by simp [CoveredByCycle, committer])
  | .resolved target =>
    decidable_of_iff (target = some entry.1 ∨ state.Durable entry) (by
      simp [CoveredByCycle, committer])
  | .syncing sync =>
    decidable_of_iff (sync.segmentId = entry.1 ∧ entry ∈ sync.written ∨ state.Durable entry) (by
      simp [CoveredByCycle, committer])
  | .synced => decidable_of_iff (state.Durable entry) (by simp [CoveredByCycle, committer])

/-- A waiter joins no commit cycle whose fsync does not cover its record. -/
def TimelyRegister (state : CommitState) : CommitLabel → Prop
  | .register index => ∀ entry ∈ state.unregistered[index]?, CoveredByCycle state entry
  | _ => True

instance (state : CommitState) : ∀ label, Decidable (TimelyRegister state label)
  | .register _ => inferInstanceAs (Decidable (∀ entry ∈ _, _))
  | .append _ | .hasPending | .readLink | .openTarget | .syncOk | .syncErr | .drainAndNotify =>
    .isTrue trivial

/-- What every step under the guard keeps true. -/
structure CommitState.Sound (state : CommitState) : Prop where
  /-- The link names the active segment. -/
  linked : state.wal.dir.current = some state.wal.writer.segmentId
  /-- A record that waits is in the active segment, or in one that was synced when it was sealed. -/
  waiting : ∀ entry ∈ state.unregistered ++ state.pending, entry ∈ state.wal.written ∧
    (state.Durable entry ∨ entry.1 = state.wal.writer.segmentId)
  cycle : ∀ entry ∈ state.pending, CoveredByCycle state entry
  acknowledged : AcksDurable state

/-- Further completed fsyncs take no durability away. -/
theorem CommitState.Durable.mono {state next : CommitState} {entry : Nat × WalRecord}
    (durable : state.Durable entry) (more : ∀ sync ∈ state.completed, sync ∈ next.completed) :
    next.Durable entry := by
  obtain ⟨sync, member, covers⟩ := durable
  exact ⟨sync, more sync member, covers⟩

theorem CoveredByCycle.mono {state next : CommitState} {entry : Nat × WalRecord}
    (covered : CoveredByCycle state entry) (phase : next.committer = state.committer)
    (more : ∀ sync ∈ state.completed, sync ∈ next.completed) : CoveredByCycle next entry := by
  -- More syncs can only make more records durable.
  simp only [CoveredByCycle, phase] at covered ⊢
  split
  · trivial
  · trivial
  · rename_i target same
    simp only [same] at covered
    exact covered.imp_right fun durable => durable.mono more
  · rename_i sync same
    simp only [same] at covered
    exact covered.imp_right fun durable => durable.mono more
  · rename_i same
    simp only [same] at covered
    exact covered.mono more

/-- Rotation moves the link and the writer together. -/
theorem appendStep_linked {crc : Bytes → UInt32} {segmentMaxBytes : Nat} {wal next : WalState}
    {label : AppendLabel} (stepped : appendStep crc segmentMaxBytes wal label = some next)
    (linked : wal.dir.current = some wal.writer.segmentId) :
    next.dir.current = some next.writer.segmentId := by
  cases AppendStep.of_appendStep stepped with
  | lockRotating free held full => rfl
  | _ => exact linked

/-- A record that a step adds was written to the active segment. -/
theorem appendStep_new {crc : Bytes → UInt32} {segmentMaxBytes : Nat} {wal next : WalState}
    {label : AppendLabel} (stepped : appendStep crc segmentMaxBytes wal label = some next)
    {entry : Nat × WalRecord} (new : entry ∈ next.written.drop wal.written.length) :
    entry.1 = next.writer.segmentId := by
  -- A record is added by the end of its write only, to the active segment.
  cases AppendStep.of_appendStep stepped with
  | finishWrite locked =>
    simp only [WalState.finish, WalState.writeActive, List.drop_left, List.mem_singleton] at new
    rw [new]
    rfl
  | takeOffset record => simp [WalState.takeOffset] at new
  | abandon index => simp [WalState.abandon] at new
  | lockRotating free held full => simp [WalState.acquire, WalState.rotate] at new
  | lockActive free held room => simp [WalState.acquire] at new
  | writeBytes locked short => simp [WalState.writePart, WalState.writeActive] at new
  | failWrite locked => simp [WalState.release] at new

namespace CommitState.Sound

variable {crc : Bytes → UInt32} {segmentMaxBytes : Nat} {state next : CommitState}

/-- A producer's step leaves records behind only in segments that it seals with an fsync. -/
theorem append (sound : state.Sound) {label : AppendLabel}
    (stepped : commitStep crc segmentMaxBytes state (.append label) = some next) : next.Sound := by
  simp only [commitStep, Option.map_eq_some_iff] at stepped
  obtain ⟨wal, stepped, rfl⟩ := stepped
  have effect := appendStep_effect stepped
  have more : ∀ sync ∈ state.completed, sync ∈ state.completed ++ sealingFsync state.wal wal :=
    fun sync member => List.mem_append_left _ member
  -- What waited in a segment that was sealed is covered by the sealing fsync.
  have stays : ∀ entry ∈ state.unregistered ++ state.pending, entry ∈ wal.written ∧
      (CommitState.Durable { state with
        wal := wal
        unregistered := state.unregistered ++ wal.written.drop state.wal.written.length
        completed := state.completed ++ sealingFsync state.wal wal } entry ∨
        entry.1 = wal.writer.segmentId) := by
    intro entry member
    obtain ⟨written, safe⟩ := sound.waiting entry member
    refine ⟨effect.kept entry written, ?_⟩
    rcases safe with durable | active
    · exact Or.inl (durable.mono more)
    · by_cases same : wal.writer.segmentId = state.wal.writer.segmentId
      · exact Or.inr (active.trans same.symm)
      · left
        refine ⟨⟨state.wal.writer.segmentId, state.wal.written⟩, ?_, active.symm, written⟩
        exact List.mem_append_right _ (by simp [sealingFsync, same])
  refine ⟨appendStep_linked stepped sound.linked, ?_, ?_, ?_⟩
  · intro entry member
    rcases List.mem_append.mp member with unregistered | pending
    · rcases List.mem_append.mp unregistered with old | new
      · exact stays entry (List.mem_append_left _ old)
      · exact ⟨List.mem_of_mem_drop new, Or.inr (appendStep_new stepped new)⟩
    · exact stays entry (List.mem_append_right _ pending)
  · exact fun entry member => (sound.cycle entry member).mono rfl more
  · exact fun entry member => (sound.acknowledged entry member).mono more

theorem register (sound : state.Sound) {index : Nat}
    (guard : TimelyRegister state (.register index))
    (stepped : commitStep crc segmentMaxBytes state (.register index) = some next) :
    next.Sound := by
  simp only [commitStep] at stepped
  split at stepped
  · rename_i entry found
    cases stepped
    refine ⟨sound.linked, ?_, ?_, sound.acknowledged⟩
    · intro other member
      apply sound.waiting other
      rcases List.mem_append.mp member with waiting | joined
      · exact List.mem_append_left _ (List.mem_of_mem_eraseIdx waiting)
      · rcases List.mem_append.mp joined with old | new
        · exact List.mem_append_right _ old
        · rw [List.mem_singleton.mp new]
          exact List.mem_append_left _ (List.mem_of_getElem? found)
    · intro other member
      rcases List.mem_append.mp member with old | new
      · exact sound.cycle other old
      · -- The guard is about the cycle this waiter joins.
        rw [List.mem_singleton.mp new]
        exact guard entry found
  · cases stepped

theorem committerStep (sound : state.Sound) {label : CommitLabel}
    (stepped : Wal.committerStep state label = some next) : next.Sound := by
  have cycle := sound.cycle
  simp only [Wal.committerStep] at stepped
  split at stepped
  · split at stepped
    · cases stepped
      exact sound
    · cases stepped
      exact ⟨sound.linked, sound.waiting, fun _ _ => trivial, sound.acknowledged⟩
  · -- The link names the active segment, where every record without an fsync waits.
    cases stepped
    refine ⟨sound.linked, sound.waiting, ?_, sound.acknowledged⟩
    intro entry member
    rcases (sound.waiting entry (List.mem_append_right _ member)).2 with durable | active
    · exact Or.inr durable
    · exact Or.inl (sound.linked.trans (congrArg some active.symm))
  · rename_i target phase
    simp only [CoveredByCycle, phase] at cycle
    split at stepped
    · rename_i segmentId
      split at stepped
      · cases stepped
        refine ⟨sound.linked, sound.waiting, ?_, sound.acknowledged⟩
        intro entry member
        refine (cycle entry member).imp_left fun same => ?_
        exact ⟨Option.some.inj same, (sound.waiting entry (List.mem_append_right _ member)).1⟩
      · cases stepped
        exact ⟨sound.linked, sound.waiting, fun _ _ => trivial, sound.acknowledged⟩
    · cases stepped
      exact ⟨sound.linked, sound.waiting, fun _ _ => trivial, sound.acknowledged⟩
  · rename_i sync phase
    simp only [CoveredByCycle, phase] at cycle
    cases stepped
    have more : ∀ other ∈ state.completed, other ∈ state.completed ++ [sync] :=
      fun other member => List.mem_append_left _ member
    refine ⟨sound.linked, ?_, ?_, fun entry member => (sound.acknowledged entry member).mono more⟩
    · intro entry member
      obtain ⟨written, safe⟩ := sound.waiting entry member
      exact ⟨written, safe.imp_left fun durable => durable.mono more⟩
    · intro entry member
      rcases cycle entry member with covered | durable
      · exact ⟨sync, List.mem_append_right _ (List.mem_singleton.mpr rfl), covered⟩
      · exact durable.mono more
  · cases stepped
    exact ⟨sound.linked, sound.waiting, fun _ _ => trivial, sound.acknowledged⟩
  · rename_i phase
    simp only [CoveredByCycle, phase] at cycle
    cases stepped
    refine ⟨sound.linked, ?_, by simp, ?_⟩
    · intro entry member
      rw [List.append_nil] at member
      exact sound.waiting entry (List.mem_append_left _ member)
    · intro entry member
      rcases List.mem_append.mp member with old | drained
      · exact sound.acknowledged entry old
      · exact cycle entry drained
  · cases stepped

theorem step (sound : state.Sound) {label : CommitLabel} (guard : TimelyRegister state label)
    (stepped : commitStep crc segmentMaxBytes state label = some next) : next.Sound := by
  cases label with
  | append label => exact sound.append stepped
  | register index => exact sound.register guard stepped
  | _ => exact sound.committerStep stepped

end CommitState.Sound

/-- A handle whose producers and group-commit task have not started yet. -/
def CommitState.ofOpened (crc : Bytes → UInt32) (opened : OpenedWal) : CommitState where
  wal := .ofOpened crc opened
  unregistered := []
  pending := []
  committer := .idle
  completed := []
  acknowledged := []

/--
Every acknowledgement is backed by an fsync of the record's own segment that started after the write.

This holds in every interleaving in which the link names the active segment at the start, and no waiter joins a commit cycle whose fsync does not cover its record.
-/
theorem acks_are_durable (crc : Bytes → UInt32) (segmentMaxBytes : Nat) (opened : OpenedWal)
    (linked : opened.dir.current = some opened.writer.segmentId) (labels : List CommitLabel)
    (timely : Guarded (commitStep crc segmentMaxBytes) TimelyRegister (.ofOpened crc opened) labels)
    (state : CommitState)
    (reached : run (commitStep crc segmentMaxBytes) (.ofOpened crc opened) labels = some state) :
    AcksDurable state := by
  -- Nothing is written and nobody waits when the log has just been opened.
  have start : (CommitState.ofOpened crc opened).Sound :=
    ⟨linked, by simp [CommitState.ofOpened], by simp [CommitState.ofOpened],
      by simp [AcksDurable, CommitState.ofOpened]⟩
  have final := run_invariant (fun _ _ _ sound guard stepped =>
    CommitState.Sound.step sound guard stepped) start timely reached
  exact final.acknowledged

/-- A record is written, registered, synced and acknowledged. -/
def commitOne : List CommitLabel :=
  [.append (.takeOffset sampleRecord), .append (.lockWriter 0), .append .finishWrite, .register 0,
    .hasPending, .readLink, .openTarget, .syncOk, .drainAndNotify]

theorem acks_are_durable_commitOne :
    ∃ state, run (commitStep (fun _ => 0) 1000) (.ofOpened (fun _ => 0) freshOpened) commitOne =
        some state ∧ state.acknowledged.length = 1 ∧ AcksDurable state := by
  refine ⟨_, rfl, rfl, ?_⟩
  exact acks_are_durable (fun _ => 0) 1000 freshOpened rfl commitOne (by decide) _ rfl

/-- A second record is written and registered after the fsync for the first one has returned. -/
def registerBeforeDrain : List CommitLabel :=
  [.append (.takeOffset sampleRecord), .append (.lockWriter 0), .append .finishWrite, .register 0,
    .hasPending, .readLink, .openTarget, .syncOk, .append (.takeOffset sampleRecord),
    .append (.lockWriter 0), .append .finishWrite, .register 0, .drainAndNotify]

/-- A waiter that registers between the fsync and the drain is acknowledged without an fsync. -/
theorem ack_without_fsync :
    ¬ ∃ crc : Bytes → UInt32, ∀ segmentMaxBytes labels state,
      run (commitStep crc segmentMaxBytes) (.ofOpened crc freshOpened) labels = some state →
        AcksDurable state := by
  -- The second record registers between the drain and the sync of the first.
  rintro ⟨crc, claim⟩
  let first : WalRecord := { sampleRecord with assignedOffset := 0 }
  let second : WalRecord := { sampleRecord with assignedOffset := 1 }
  obtain ⟨sync, completed, _, covered⟩ : ∃ sync ∈ [(⟨0, [(0, first)]⟩ : Fsync)],
      sync.segmentId = 0 ∧ (0, second) ∈ sync.written :=
    claim 1000 registerBeforeDrain _ rfl (0, second) (List.mem_of_getLast? rfl)
  rw [List.mem_singleton.mp completed] at covered
  -- The sync covers the first record only.
  have same : (0, second) = (0, first) := List.mem_singleton.mp covered
  exact absurd same (by decide)

end Zradar.Wal

import Zradar.Lib.Positions
import Zradar.Lib.Run
import Zradar.Storage.FileTasks

/-! Leases on files as single operations on the map of their counts, in any interleaving. -/

namespace Zradar.Storage

/-- The map of the counts, where a file without an entry has no lease. -/
abbrev LeaseCounts (ι : Type) := ι → Option Nat

/-- Whether a reader holds a lease on a file. -/
def LeaseCounts.isLeased {ι : Type} (counts : LeaseCounts ι) (id : ι) : Bool :=
  (counts id).any fun count => 0 < count

/-- A file is leased exactly when its count is not zero. -/
theorem LeaseCounts.isLeased_iff {ι : Type} (counts : LeaseCounts ι) (id : ι) :
    counts.isLeased id = true ↔ 0 < (counts id).getD 0 := by
  unfold isLeased
  cases counts id with
  | none => simp
  | some count => simp

section

variable {ι : Type} [DecidableEq ι]

namespace LeaseCounts

variable (counts : LeaseCounts ι) (id : ι)

/-- The entry of a file is made if there is none, and counts one more. -/
def increment : LeaseCounts ι := Function.update counts id (some ((counts id).getD 0 + 1))

/-- The entry of a file counts one less, with whether it is to be removed then. -/
def decrement : LeaseCounts ι × Bool :=
  match counts id with
  -- The subtraction saturates at zero.
  | some count => (Function.update counts id (some (count - 1)), count - 1 = 0)
  | none => (counts, false)

/-- The entry of a file is removed, if it still counts zero. -/
def removeIf : LeaseCounts ι :=
  if counts id = some 0 then Function.update counts id none else counts

/-- The drop of a lease, where nothing comes between its two operations. -/
def release : LeaseCounts ι :=
  if (counts.decrement id).2 then (counts.decrement id).1.removeIf id
  else (counts.decrement id).1

end LeaseCounts

/-- A call of `acquire` under way. -/
structure AcquireCall (ι : Type) where
  /-- The ids that have no lease yet. -/
  pending : List ι
  /-- The files of the leases that were made, in the order of their ids. -/
  leases : List ι

/-- The registry, and what all of its users are about. -/
structure LeaseState (ι : Type) where
  counts : LeaseCounts ι
  calls : List (AcquireCall ι)
  /-- The files of the leases that were returned and are not dropped. -/
  held : List ι
  /-- The files whose count a drop took to zero, and whose entry it removes next. -/
  removals : List ι

/-- One operation of one of the users. -/
inductive LeaseLabel (ι : Type) where
  | acquire (ids : List ι)
  /-- A call makes the lease of its next id. -/
  | enter (position : Nat)
  /-- A call returns its leases. -/
  | answer (position : Nat)
  /-- The drop of a lease counts it out. -/
  | release (position : Nat)
  /-- The drop of a lease removes the entry of its file. -/
  | remove (position : Nat)

/-- One operation on the map, or one between two of them. -/
def leaseStep (state : LeaseState ι) : LeaseLabel ι → Option (LeaseState ι)
  | .acquire ids => some { state with calls := ⟨ids, []⟩ :: state.calls }
  | .enter position =>
    match state.calls[position]? with
    | some ⟨id :: pending, leases⟩ =>
      some { state with
        counts := state.counts.increment id
        calls := state.calls.set position ⟨pending, leases ++ [id]⟩ }
    | some ⟨[], _⟩ | none => none
  | .answer position =>
    match state.calls[position]? with
    | some ⟨[], leases⟩ =>
      some { state with
        calls := state.calls.eraseIdx position
        held := leases ++ state.held }
    | some ⟨_ :: _, _⟩ | none => none
  | .release position =>
    state.held[position]?.map fun id =>
      let (counts, shouldRemove) := state.counts.decrement id
      { state with
        counts
        held := state.held.eraseIdx position
        removals := if shouldRemove then id :: state.removals else state.removals }
  | .remove position =>
    state.removals[position]?.map fun id =>
      { state with
        counts := state.counts.removeIf id
        removals := state.removals.eraseIdx position }

/-- A registry without leases. -/
def initialLeases : LeaseState ι where
  counts := fun _ => none
  calls := []
  held := []
  removals := []

/-- The files of the leases that were made and not counted out. -/
def LeaseState.live (state : LeaseState ι) : List ι :=
  state.calls.flatMap AcquireCall.leases ++ state.held

/-- Every entry counts the leases on its file, and an entry of zero is about to be removed. -/
structure LeaseState.Counted (state : LeaseState ι) : Prop where
  counts : ∀ id, (state.counts id).getD 0 = state.live.count id
  removed : ∀ id, state.counts id = some 0 → id ∈ state.removals

namespace LeaseCounts

variable (counts : LeaseCounts ι) (id other : ι)

theorem getD_increment : (counts.increment id other).getD 0 =
    (counts other).getD 0 + if other = id then 1 else 0 := by
  -- Only the entry of the file is written.
  by_cases same : other = id
  · subst same
    simp [increment]
  · simp [increment, same]

theorem getD_decrement : ((counts.decrement id).1 other).getD 0 =
    (counts other).getD 0 - if other = id then 1 else 0 := by
  unfold decrement
  by_cases same : other = id
  · subst same
    -- A file without an entry counts zero before and after.
    cases found : counts other with
    | none => simp [found]
    | some count => simp
  · cases counts id with
    | none => simp [same]
    | some count => simp [same]

theorem getD_removeIf : (counts.removeIf id other).getD 0 = (counts other).getD 0 := by
  unfold removeIf
  split
  case isTrue zero =>
    -- What is removed counted zero, as a missing entry does.
    by_cases same : other = id
    · subst same
      simp [zero]
    · simp [same]
  case isFalse => rfl

variable {counts id other}

/-- An entry is zero behind an increment only if it was before, and is of another file. -/
theorem zero_of_increment (zero : counts.increment id other = some 0) : counts other = some 0 := by
  by_cases same : other = id
  · subst same
    simp [increment] at zero
  · simpa [increment, same] using zero

/-- An entry that a decrement leaves at zero was zero before, or is to be removed. -/
theorem zero_of_decrement (zero : (counts.decrement id).1 other = some 0) :
    counts other = some 0 ∨ other = id ∧ (counts.decrement id).2 = true := by
  unfold decrement at zero ⊢
  cases found : counts id with
  | none => exact .inl (by simpa [found] using zero)
  | some count =>
    by_cases same : other = id
    · subst same
      -- The flag is set by the value that was just written.
      simp only [found, Function.update_self, Option.some.injEq] at zero
      exact .inr ⟨rfl, by simp [zero]⟩
    · exact .inl (by simpa [found, same] using zero)

/-- No entry becomes zero by a removal, and the one of the file is not zero behind it. -/
theorem zero_of_removeIf (zero : counts.removeIf id other = some 0) :
    counts other = some 0 ∧ other ≠ id := by
  unfold removeIf at zero
  split at zero
  case isTrue gone =>
    by_cases same : other = id
    · subst same
      simp at zero
    · exact ⟨by simpa [same] using zero, same⟩
  case isFalse kept =>
    refine ⟨zero, ?_⟩
    -- An entry of zero would have been removed.
    rintro rfl
    exact kept zero

end LeaseCounts

variable {state next : LeaseState ι}

theorem LeaseState.Counted.enter (counted : state.Counted) {position : Nat} {id : ι}
    {pending leases : List ι} (found : state.calls[position]? = some ⟨id :: pending, leases⟩) :
    LeaseState.Counted
      { state with
        counts := state.counts.increment id
        calls := state.calls.set position ⟨pending, leases ++ [id]⟩ } where
  counts := by
    intro other
    -- The call has one lease more, and the other calls have theirs.
    have before := ((taken_perm found).flatMap_right AcquireCall.leases).count_eq other
    have after := ((replaced_perm found ⟨pending, leases ++ [id]⟩).flatMap_right
      AcquireCall.leases).count_eq other
    have own := counted.counts other
    simp only [List.flatMap_cons, List.count_append, List.count_singleton] at before after
    simp only [LeaseState.live, List.count_append] at own ⊢
    rw [LeaseCounts.getD_increment, own, after, ← before]
    by_cases same : other = id
    · simp [same]
      omega
    · simp [same, Ne.symm same]
  removed := fun other zero => counted.removed other (LeaseCounts.zero_of_increment zero)

theorem LeaseState.Counted.answer (counted : state.Counted) {position : Nat} {leases : List ι}
    (found : state.calls[position]? = some ⟨[], leases⟩) :
    LeaseState.Counted
      { state with
        calls := state.calls.eraseIdx position
        held := leases ++ state.held } where
  counts := by
    intro other
    -- The leases move from the call to its caller.
    have moved := ((taken_perm found).flatMap_right AcquireCall.leases).count_eq other
    have own := counted.counts other
    simp only [List.flatMap_cons, List.count_append] at moved
    simp only [LeaseState.live, List.count_append] at own ⊢
    omega
  removed := counted.removed

theorem LeaseState.Counted.release (counted : state.Counted) {position : Nat} {id : ι}
    (found : state.held[position]? = some id) :
    LeaseState.Counted
      { state with
        counts := (state.counts.decrement id).1
        held := state.held.eraseIdx position
        removals := if (state.counts.decrement id).2 then id :: state.removals
          else state.removals } where
  counts := by
    intro other
    -- The lease was counted, so the subtraction does not saturate.
    have moved := (taken_perm found).count_eq other
    have own := counted.counts other
    simp only [List.count_cons] at moved
    simp only [LeaseState.live, List.count_append] at own ⊢
    rw [LeaseCounts.getD_decrement, own]
    by_cases same : other = id
    · simp [same] at moved ⊢
      omega
    · simp [same, Ne.symm same] at moved ⊢
      omega
  removed := by
    intro other zero
    -- An entry that just became zero is noted, and the others were noted before.
    rcases LeaseCounts.zero_of_decrement zero with old | ⟨rfl, noted⟩
    · have listed := counted.removed other old
      show other ∈ if _ then _ else _
      split
      · exact List.mem_cons_of_mem _ listed
      · exact listed
    · show other ∈ if _ then _ else _
      rw [if_pos noted]
      exact List.mem_cons_self

theorem LeaseState.Counted.remove (counted : state.Counted) {position : Nat} {id : ι}
    (found : state.removals[position]? = some id) :
    LeaseState.Counted
      { state with
        counts := state.counts.removeIf id
        removals := state.removals.eraseIdx position } where
  counts := by
    intro other
    rw [LeaseCounts.getD_removeIf]
    exact counted.counts other
  removed := by
    intro other zero
    -- Only the note of another file is needed now.
    obtain ⟨old, apart⟩ := LeaseCounts.zero_of_removeIf zero
    have listed := (taken_perm found).mem_iff.mpr (counted.removed other old)
    exact (List.mem_cons.mp listed).resolve_left apart

/-- Every operation keeps the counts right. -/
theorem LeaseState.Counted.step (counted : state.Counted) {label : LeaseLabel ι}
    (stepped : leaseStep state label = some next) : next.Counted := by
  -- One lemma for each operation; an acquisition only queues its ids.
  cases label with
  | acquire ids =>
    cases stepped
    exact ⟨counted.counts, counted.removed⟩
  | enter position =>
    simp only [leaseStep] at stepped
    split at stepped
    · rename_i found
      cases stepped
      exact counted.enter found
    · cases stepped
    · cases stepped
  | answer position =>
    simp only [leaseStep] at stepped
    split at stepped
    · rename_i found
      cases stepped
      exact counted.answer found
    · cases stepped
    · cases stepped
  | release position =>
    obtain ⟨id, found, rfl⟩ := Option.map_eq_some_iff.mp stepped
    exact counted.release found
  | remove position =>
    obtain ⟨id, found, rfl⟩ := Option.map_eq_some_iff.mp stepped
    exact counted.remove found

theorem initialLeases_counted : (initialLeases : LeaseState ι).Counted where
  counts := fun id => by simp [initialLeases, LeaseState.live]
  removed := fun id zero => by simp [initialLeases] at zero

/--
Whatever the order of the operations, a file counts the leases on it that were made and not counted
out, it is leased exactly while there is one, and its entry is gone once all drops are through.
-/
theorem lease_counts_live_guards {labels : List (LeaseLabel ι)}
    (reached : run leaseStep initialLeases labels = some state) (id : ι) :
    (state.counts id).getD 0 = state.live.count id ∧
      (state.counts.isLeased id = true ↔ id ∈ state.live) ∧
      (id ∉ state.live → id ∉ state.removals → state.counts id = none) := by
  have counted : state.Counted := run_keeps (fun _ _ _ counted stepped => counted.step stepped)
    initialLeases_counted reached
  refine ⟨counted.counts id, ?_, ?_⟩
  · rw [LeaseCounts.isLeased_iff, counted.counts id, List.count_pos_iff]
  · intro free through
    have zero := counted.counts id
    rw [List.count_eq_zero_of_not_mem free] at zero
    -- An entry of zero would be about to be removed.
    cases found : state.counts id with
    | none => rfl
    | some count =>
      rw [found, Option.getD_some] at zero
      exact absurd (counted.removed id (by rw [found, zero])) through

end

/-- A lease on file 7 is dropped and taken again, before its entry is removed. -/
def lateLease : List (LeaseLabel Nat) :=
  [.acquire [7], .enter 0, .answer 0, .release 0, .acquire [7], .enter 0, .remove 0]

/-- The removal leaves the new lease alone. -/
theorem late_lease_is_counted : ∃ state, run leaseStep initialLeases lateLease = some state ∧
    (state.counts 7).getD 0 = 1 ∧ state.counts.isLeased 7 = true := by
  have reached : run leaseStep initialLeases lateLease = some _ := rfl
  obtain ⟨counts, leased, -⟩ := lease_counts_live_guards reached 7
  exact ⟨_, reached, counts.trans (by decide), leased.mpr (by decide)⟩

/-- The registry that the tasks of the process see. -/
def LeaseCounts.registry (counts : LeaseCounts Nat) : FileLeaseRegistry :=
  ⟨fun id => (counts id).getD 0⟩

/-- A call that makes its leases one by one acquires them all. -/
theorem LeaseCounts.registry_acquire (counts : LeaseCounts Nat) (ids : List Nat) :
    (ids.foldl LeaseCounts.increment counts).registry = counts.registry.acquire ids := by
  -- Every id adds one to its own count.
  induction ids generalizing counts with
  | nil => simp [FileLeaseRegistry.acquire]
  | cons id ids ih =>
    rw [List.foldl_cons, ih]
    simp only [registry, FileLeaseRegistry.acquire, getD_increment, List.count_cons, beq_iff_eq]
    congr 1
    funext other
    by_cases same : other = id
    · simp [same]
      omega
    · simp [same, Ne.symm same]

/-- So it is with the drops of some leases. -/
theorem LeaseCounts.registry_release (counts : LeaseCounts Nat) (ids : List Nat) :
    (ids.foldl LeaseCounts.release counts).registry = counts.registry.release ids := by
  -- The removal of an entry does not show in the counts.
  have one (counts : LeaseCounts Nat) (id other : Nat) :
      (counts.release id other).getD 0 = (counts other).getD 0 - if other = id then 1 else 0 := by
    unfold release
    split
    · rw [getD_removeIf, getD_decrement]
    · rw [getD_decrement]
  induction ids generalizing counts with
  | nil => simp [FileLeaseRegistry.release]
  | cons id ids ih =>
    rw [List.foldl_cons, ih]
    simp only [registry, FileLeaseRegistry.release, one, List.count_cons, beq_iff_eq]
    congr 1
    funext other
    by_cases same : other = id
    · simp [same]
      omega
    · simp [same, Ne.symm same]

theorem LeaseCounts.registry_isLeased (counts : LeaseCounts Nat) (id : Nat) :
    counts.registry.isLeased id = counts.isLeased id := by
  rw [Bool.eq_iff_iff, isLeased_iff]
  exact decide_eq_true_iff

end Zradar.Storage

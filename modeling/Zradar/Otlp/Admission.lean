import Zradar.Lib.Permits
import Zradar.Lib.Positions
import Zradar.Lib.Run
import Zradar.Otlp.IngestGuard

/-! The slots of an ingest listener, and the bodies that it drains, over all of its connections. -/

namespace Zradar.Otlp

/-- The protocol that a rejection is written in. -/
inductive IngestProtocol where
  | http
  | grpc
  deriving DecidableEq

/-- Why an export did not run to its end. -/
inductive Rejection where
  | overloaded
  | timedOut

/-- The answer to an export that did not run to its end. -/
def reject : IngestProtocol → Rejection → HttpResponse ⊕ RpcStatus
  | .grpc, .overloaded =>
    .inr ⟨.unavailable, "server overloaded: too many concurrent export requests", none⟩
  | .grpc, .timedOut => .inr ⟨.deadlineExceeded, "export request timed out", none⟩
  | .http, .overloaded => .inl ⟨503, some 1⟩
  | .http, .timedOut => .inl ⟨504, some 1⟩

/-- The limits of a listener, which all of its connections share. -/
structure AdmissionLayer where
  /-- No semaphore is no limit. -/
  semaphore : Option Permits
  timeout : Option Duration
  protocol : IngestProtocol

namespace AdmissionLayer

/-- A limit of zero is no limit. -/
def new (maxConcurrentRequests : Nat) (timeout : Option Duration) (protocol : IngestProtocol) :
    AdmissionLayer where
  semaphore := if maxConcurrentRequests > 0 then some (.new maxConcurrentRequests) else none
  timeout := timeout.filter fun limit => limit ≠ 0
  protocol

def availablePermits (layer : AdmissionLayer) : Option Nat := layer.semaphore.map Permits.available

/-- Take a slot without waiting for one. -/
def tryAcquireOwned (layer : AdmissionLayer) : Option AdmissionLayer :=
  match layer.semaphore with
  | some semaphore => semaphore.tryAcquire.map fun semaphore =>
    { layer with semaphore := some semaphore }
  | none => some layer

/-- Give a slot back. -/
def leave (layer : AdmissionLayer) : AdmissionLayer :=
  { layer with semaphore := layer.semaphore.map Permits.release }

end AdmissionLayer

/-- The most rejected bodies that are drained at once. -/
def maxConcurrentDrains : Nat := 64

/-- An export under way, and whether its headers have been checked. -/
structure Export where
  id : Nat
  checked : Bool

/-- How an export ended. -/
inductive Ending where
  /-- There was no slot for it beside the others. -/
  | shed (beside : Nat)
  /-- It was answered from its headers. -/
  | refused
  | handled
  | expired
  /-- Its future was dropped. -/
  | dropped
  deriving DecidableEq

/-- What the listener itself answers to an export that ended. -/
def Ending.reply (protocol : IngestProtocol) : Ending → Option (HttpResponse ⊕ RpcStatus)
  | .shed _ => some (reject protocol .overloaded)
  | .expired => some (reject protocol .timedOut)
  | .refused | .handled | .dropped => none

/-- A listener with everything that it is about. -/
structure Listener where
  layer : AdmissionLayer
  drains : Permits
  drainLimit : Nat
  /-- How many exports there have been, each with its own number. -/
  arrived : Nat
  underWay : List Export
  /-- For each body that is drained, how much of it was. -/
  draining : List Nat
  ended : List (Nat × Ending)

/-- What can happen at a listener. -/
inductive ListenerLabel where
  | call
  | accept (position : Nat)
  /-- An export is answered from its headers, and its body may not have been read to its end. -/
  | refuse (position : Nat) (unread : Bool)
  | finish (position : Nat)
  | expire (position : Nat)
  | drop (position : Nat)
  /-- A frame of a body that is drained. -/
  | frame (position length : Nat)
  /-- A body that is drained ends or fails, or its deadline has passed. -/
  | drained (position : Nat)

namespace Listener

/-- An export ends and gives its slot back. -/
def finishWith (state : Listener) (position : Nat) (export_ : Export) (ending : Ending) : Listener :=
  { state with
    layer := state.layer.leave
    underWay := state.underWay.eraseIdx position
    ended := (export_.id, ending) :: state.ended }

/-- Read a body that nobody wants in the background, unless too many are read already. -/
def drainRejectedBody (state : Listener) (unread : Bool) : Listener :=
  if unread = true ∧ state.layer.protocol = .http then
    match state.drains.tryAcquire with
    | some drains => { state with drains, draining := 0 :: state.draining }
    | none => state
  else state

end Listener

/-- One step of a listener. -/
def listenerStep (state : Listener) : ListenerLabel → Option Listener
  | .call =>
    match state.layer.tryAcquireOwned with
    | some layer =>
      some { state with
        layer
        arrived := state.arrived + 1
        underWay := ⟨state.arrived, false⟩ :: state.underWay }
    | none =>
      some { state with
        arrived := state.arrived + 1
        ended := (state.arrived, .shed state.underWay.length) :: state.ended }
  | .accept position =>
    match state.underWay[position]? with
    | some ⟨id, false⟩ => some { state with underWay := state.underWay.set position ⟨id, true⟩ }
    | _ => none
  | .refuse position unread =>
    match state.underWay[position]? with
    | some ⟨id, false⟩ =>
      some ((state.drainRejectedBody unread).finishWith position ⟨id, false⟩ .refused)
    | _ => none
  | .finish position =>
    match state.underWay[position]? with
    | some ⟨id, true⟩ => some (state.finishWith position ⟨id, true⟩ .handled)
    | _ => none
  | .expire position =>
    match state.layer.timeout, state.underWay[position]? with
    | some _, some request => some (state.finishWith position request .expired)
    | _, _ => none
  | .drop position =>
    state.underWay[position]?.map fun request => state.finishWith position request .dropped
  | .frame position length =>
    match state.draining[position]? with
    | some drained =>
      -- The sum saturates, and a body past the limit is read no further.
      let drained := min (drained + length) (2 ^ 64 - 1)
      if drained > state.drainLimit then
        some { state with
          drains := state.drains.release
          draining := state.draining.eraseIdx position }
      else some { state with draining := state.draining.set position drained }
    | none => none
  | .drained position =>
    match state.draining[position]? with
    | some _ =>
      some { state with
        drains := state.drains.release
        draining := state.draining.eraseIdx position }
    | none => none

/-- A listener that nobody has called. -/
def startListener (maxConcurrentRequests : Nat) (timeout : Option Duration)
    (protocol : IngestProtocol) (drainLimit : Nat) : Listener where
  layer := .new maxConcurrentRequests timeout protocol
  drains := .new maxConcurrentDrains
  drainLimit
  arrived := 0
  underWay := []
  draining := []
  ended := []

/-- What holds of a listener at any time, under the limits that it was built with. -/
structure Listener.Kept (maxConcurrentRequests : Nat) (timeout : Option Duration)
    (drainLimit : Nat) (state : Listener) : Prop where
  /-- Every slot is free or taken by an export under way. -/
  slots : match state.layer.semaphore with
    | some semaphore => 0 < maxConcurrentRequests ∧ semaphore.most = maxConcurrentRequests ∧
        semaphore.Balanced state.underWay.length
    | none => maxConcurrentRequests = 0
  timeout_eq : state.layer.timeout = timeout.filter fun limit => limit ≠ 0
  /-- Each export is under way, or has ended once. -/
  once : (state.underWay.map Export.id ++ state.ended.map Prod.fst).Perm (List.range state.arrived)
  /-- An export is turned away only when every slot is taken. -/
  shed : ∀ id beside, (id, Ending.shed beside) ∈ state.ended →
    0 < maxConcurrentRequests ∧ beside = maxConcurrentRequests
  /-- An export is cut off only under a limit. -/
  expired : ∀ id, (id, Ending.expired) ∈ state.ended →
    ∃ limit, timeout = some limit ∧ limit ≠ 0
  drains : state.drains.Balanced state.draining.length ∧ state.drains.most = maxConcurrentDrains
  drained : state.drainLimit = drainLimit ∧ ∀ drained ∈ state.draining, drained ≤ drainLimit

namespace Listener.Kept

variable {maxConcurrentRequests drainLimit : Nat} {timeout : Option Duration} {state : Listener}

/-- An export that ends leaves its slot, and its number among those that ended. -/
theorem finishWith (kept : state.Kept maxConcurrentRequests timeout drainLimit) {position : Nat}
    {request : Export} (found : state.underWay[position]? = some request) {ending : Ending}
    (asked : ∀ beside, ending ≠ .shed beside)
    (limited : ending = .expired → state.layer.timeout.isSome) :
    (state.finishWith position request ending).Kept maxConcurrentRequests timeout drainLimit where
  slots := by
    have before := kept.slots
    have length : state.underWay.length = (state.underWay.eraseIdx position).length + 1 := by
      rw [← (taken_perm found).length_eq, List.length_cons]
    cases held : state.layer.semaphore with
    | none =>
      rw [held] at before
      simpa [Listener.finishWith, AdmissionLayer.leave, held] using before
    | some semaphore =>
      rw [held] at before
      obtain ⟨positive, most, balanced⟩ := before
      rw [length] at balanced
      simpa [Listener.finishWith, AdmissionLayer.leave, held] using
        ⟨positive, most, balanced.release⟩
  timeout_eq := kept.timeout_eq
  once := by
    -- The number moves from one list to the other.
    have moved := (taken_perm found).map Export.id
    refine List.Perm.trans ?_ kept.once
    refine List.Perm.trans ?_ (moved.append_right _)
    exact List.perm_middle
  shed := by
    intro id beside member
    obtain same | old := List.mem_cons.mp member
    · exact absurd (Prod.mk.inj same).2.symm (asked beside)
    · exact kept.shed id beside old
  expired := by
    intro id member
    obtain same | old := List.mem_cons.mp member
    · obtain ⟨limit, set⟩ := Option.isSome_iff_exists.mp (limited (Prod.mk.inj same).2.symm)
      rw [kept.timeout_eq] at set
      obtain ⟨given, positive⟩ := Option.filter_eq_some_iff.mp set
      exact ⟨limit, given, by simpa using positive⟩
    · exact kept.expired id old
  drains := kept.drains
  drained := kept.drained

/-- A body that is drained takes one of the permits, or is not drained at all. -/
theorem drainRejectedBody (kept : state.Kept maxConcurrentRequests timeout drainLimit)
    (unread : Bool) :
    (state.drainRejectedBody unread).Kept maxConcurrentRequests timeout drainLimit := by
  unfold Listener.drainRejectedBody
  split
  · split
    · rename_i drains acquired
      obtain ⟨balanced, most⟩ := kept.drains.1.acquire acquired
      refine ⟨kept.slots, kept.timeout_eq, kept.once, kept.shed, kept.expired,
        ⟨balanced, most.trans kept.drains.2⟩, kept.drained.1, fun drained member => ?_⟩
      obtain rfl | old := List.mem_cons.mp member
      · exact Nat.zero_le _
      · exact kept.drained.2 drained old
    · exact kept
  · exact kept

/-- A body that is not drained any more gives its permit back. -/
theorem endDrain (kept : state.Kept maxConcurrentRequests timeout drainLimit) {position : Nat}
    {drained : Nat} (found : state.draining[position]? = some drained) :
    Listener.Kept maxConcurrentRequests timeout drainLimit
      { state with
        drains := state.drains.release
        draining := state.draining.eraseIdx position } where
  slots := kept.slots
  timeout_eq := kept.timeout_eq
  once := kept.once
  shed := kept.shed
  expired := kept.expired
  drains := by
    have balanced := kept.drains.1
    rw [← (taken_perm found).length_eq, List.length_cons] at balanced
    exact ⟨balanced.release, kept.drains.2⟩
  drained := ⟨kept.drained.1, fun other member =>
    kept.drained.2 other (List.mem_of_mem_eraseIdx member)⟩

/-- An export that arrives takes a slot, or finds every slot taken. -/
theorem call (kept : state.Kept maxConcurrentRequests timeout drainLimit) {next : Listener}
    (stepped : listenerStep state .call = some next) :
    next.Kept maxConcurrentRequests timeout drainLimit := by
  have before := kept.slots
  -- The new number is above all of the others.
  have numbered : (state.arrived :: (state.underWay.map Export.id ++ state.ended.map Prod.fst)).Perm
      (List.range (state.arrived + 1)) := by
    rw [List.range_succ]
    exact (kept.once.cons _).trans (List.perm_append_singleton _ _).symm
  simp only [listenerStep, AdmissionLayer.tryAcquireOwned] at stepped
  cases held : state.layer.semaphore with
  | none =>
    rw [held] at before
    simp only [held, Option.some.injEq] at stepped
    subst stepped
    refine ⟨?_, kept.timeout_eq, numbered, kept.shed, kept.expired, kept.drains, kept.drained⟩
    simpa [held] using before
  | some semaphore =>
    rw [held] at before
    obtain ⟨positive, most, balanced⟩ := before
    cases acquired : semaphore.tryAcquire with
    | none =>
      simp only [held, acquired, Option.map_none, Option.some.injEq] at stepped
      subst stepped
      have full : state.underWay.length = maxConcurrentRequests :=
        (balanced.tryAcquire_eq_none.mp acquired).trans most
      refine ⟨?_, kept.timeout_eq, List.perm_middle.trans numbered, ?_, ?_, kept.drains,
        kept.drained⟩
      · simpa [held] using ⟨positive, most, balanced⟩
      · intro id beside member
        obtain same | old := List.mem_cons.mp member
        · cases same
          exact ⟨positive, full⟩
        · exact kept.shed id beside old
      · intro id member
        obtain same | old := List.mem_cons.mp member
        · cases same
        · exact kept.expired id old
    | some left =>
      simp only [held, acquired, Option.map_some, Option.some.injEq] at stepped
      subst stepped
      obtain ⟨taken, same⟩ := balanced.acquire acquired
      refine ⟨?_, kept.timeout_eq, numbered, kept.shed, kept.expired, kept.drains, kept.drained⟩
      exact ⟨positive, same.trans most, taken⟩

/-- Checking the headers of an export leaves its slot and its number as they are. -/
theorem accept (kept : state.Kept maxConcurrentRequests timeout drainLimit) {position id : Nat}
    (found : state.underWay[position]? = some ⟨id, false⟩) :
    Listener.Kept maxConcurrentRequests timeout drainLimit
      { state with underWay := state.underWay.set position ⟨id, true⟩ } where
  slots := by
    have before := kept.slots
    simpa using before
  timeout_eq := kept.timeout_eq
  once := by
    have same : (state.underWay.set position ⟨id, true⟩).map Export.id =
        state.underWay.map Export.id := by
      obtain ⟨inside, is⟩ := List.getElem?_eq_some_iff.mp found
      have within : position < (state.underWay.map Export.id).length := by
        simpa using inside
      have own : (state.underWay.map Export.id)[position] = id := by
        rw [List.getElem_map, is]
      rw [List.map_set, ← own]
      exact List.set_getElem_self _
    show (List.map Export.id (state.underWay.set position ⟨id, true⟩) ++ _).Perm _
    rw [same]
    exact kept.once
  shed := kept.shed
  expired := kept.expired
  drains := kept.drains
  drained := kept.drained

/-- Every step keeps the limits of the listener. -/
theorem step (kept : state.Kept maxConcurrentRequests timeout drainLimit) {label : ListenerLabel}
    {next : Listener} (stepped : listenerStep state label = some next) :
    next.Kept maxConcurrentRequests timeout drainLimit := by
  -- One lemma for each way in which slots or permits move.
  cases label with
  | call => exact kept.call stepped
  | accept position =>
    simp only [listenerStep] at stepped
    split at stepped
    · rename_i found
      cases stepped
      exact kept.accept found
    · cases stepped
  | refuse position unread =>
    simp only [listenerStep] at stepped
    split at stepped
    · rename_i id found
      cases stepped
      have same : (state.drainRejectedBody unread).underWay = state.underWay := by
        unfold Listener.drainRejectedBody
        split
        · split <;> rfl
        · rfl
      exact (kept.drainRejectedBody unread).finishWith (same ▸ found) (fun _ => nofun) nofun
    · cases stepped
  | finish position =>
    simp only [listenerStep] at stepped
    split at stepped
    · rename_i found
      cases stepped
      exact kept.finishWith found (fun _ => nofun) nofun
    · cases stepped
  | expire position =>
    simp only [listenerStep] at stepped
    split at stepped
    · rename_i set found
      cases stepped
      exact kept.finishWith found (fun _ => nofun) fun _ => Option.isSome_of_mem set
    · cases stepped
  | drop position =>
    obtain ⟨request, found, rfl⟩ := Option.map_eq_some_iff.mp stepped
    exact kept.finishWith found (fun _ => nofun) nofun
  | frame position length =>
    simp only [listenerStep] at stepped
    split at stepped
    · rename_i drained found
      split at stepped
      · cases stepped
        exact kept.endDrain found
      · rename_i below
        cases stepped
        refine ⟨kept.slots, kept.timeout_eq, kept.once, kept.shed, kept.expired, ?_,
          kept.drained.1, fun other member => ?_⟩
        · simpa using kept.drains
        · -- What was read so far is not past the limit.
          obtain old | rfl := List.mem_or_eq_of_mem_set member
          · exact kept.drained.2 other old
          · exact kept.drained.1 ▸ Nat.not_lt.mp below
    · cases stepped
  | drained position =>
    simp only [listenerStep] at stepped
    split at stepped
    · rename_i found
      cases stepped
      exact kept.endDrain found
    · cases stepped

end Listener.Kept

theorem startListener_kept (maxConcurrentRequests : Nat) (timeout : Option Duration)
    (protocol : IngestProtocol) (drainLimit : Nat) :
    (startListener maxConcurrentRequests timeout protocol drainLimit).Kept maxConcurrentRequests
      timeout drainLimit where
  slots := by
    by_cases positive : maxConcurrentRequests > 0
    · simp [startListener, AdmissionLayer.new, positive, Permits.new, Permits.Balanced]
    · simp [startListener, AdmissionLayer.new, positive]
      omega
  timeout_eq := rfl
  once := .refl _
  shed := by simp [startListener]
  expired := by simp [startListener]
  drains := ⟨Permits.new_balanced _, rfl⟩
  drained := ⟨rfl, by simp [startListener]⟩

/--
However exports arrive, end, expire or go away, a listener keeps its limits.

With a limit, the free slots are those that no export under way has, and an export is turned away
exactly when none is free. Each export ends once, and gives its slot back.
-/
theorem listener_kept {maxConcurrentRequests drainLimit : Nat} {timeout : Option Duration}
    {protocol : IngestProtocol} {labels : List ListenerLabel} {final : Listener}
    (reached : run listenerStep (startListener maxConcurrentRequests timeout protocol drainLimit)
      labels = some final) :
    final.Kept maxConcurrentRequests timeout drainLimit ∧
      (0 < maxConcurrentRequests → final.underWay.length ≤ maxConcurrentRequests ∧
        final.layer.availablePermits = some (maxConcurrentRequests - final.underWay.length)) ∧
      (final.layer.tryAcquireOwned = none ↔
        0 < maxConcurrentRequests ∧ final.underWay.length = maxConcurrentRequests) ∧
      final.draining.length ≤ maxConcurrentDrains := by
  have kept : final.Kept maxConcurrentRequests timeout drainLimit :=
    run_keeps (fun _ _ _ kept stepped => kept.step stepped) (startListener_kept _ _ _ _) reached
  have slots := kept.slots
  have drains := kept.drains.2 ▸ kept.drains.1.held_le
  cases held : final.layer.semaphore with
  | none =>
    rw [held] at slots
    refine ⟨kept, fun positive => absurd slots (by omega), ?_, drains⟩
    simp [AdmissionLayer.tryAcquireOwned, held, slots]
  | some semaphore =>
    rw [held] at slots
    obtain ⟨positive, rfl, balanced⟩ := slots
    refine ⟨kept, fun _ => ⟨balanced.held_le, ?_⟩, ?_, drains⟩
    · -- What is not held is free.
      have sum : _ = _ := balanced
      simp [AdmissionLayer.availablePermits, held]
      omega
    · rw [AdmissionLayer.tryAcquireOwned, held]
      simp only [Option.map_eq_none_iff, balanced.tryAcquire_eq_none, positive, true_and]

/-- Two slots, a third export, one that is cut off, and one whose body is drained. -/
def crowdedListener : List ListenerLabel :=
  [.call, .call, .call, .accept 1, .expire 1, .call, .refuse 0 true, .frame 0 60, .frame 0 60,
    .accept 0, .finish 0]

theorem listener_kept_crowded :
    ∃ final, run listenerStep (startListener 2 (some 1000) .http 100) crowdedListener =
        some final ∧
      final.ended = [(1, .handled), (3, .refused), (0, .expired), (2, .shed 2)] ∧
      final.Kept 2 (some 1000) 100 := by
  have ended : (run listenerStep (startListener 2 (some 1000) .http 100) crowdedListener).map
      Listener.ended = some [(1, .handled), (3, .refused), (0, .expired), (2, .shed 2)] := by
    decide
  obtain ⟨final, reached, same⟩ := Option.map_eq_some_iff.mp ended
  exact ⟨final, reached, same, (listener_kept reached).1⟩

end Zradar.Otlp

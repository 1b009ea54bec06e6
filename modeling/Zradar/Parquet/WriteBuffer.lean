import Zradar.Parquet.Writer

/-! The in-memory write buffer: slots by workspace, signal, stream and hour. -/

namespace Zradar.Parquet

/-- Identifies a single accumulating slot. -/
structure BufferKey where
  workspaceId : String
  signalType : String
  streamName : String
  hour : String
  deriving DecidableEq, Repr

/-- A single accumulating slot. -/
structure BufferSlot where
  data : IngestBatch
  /-- A rough estimate of the bytes in memory. -/
  sizeBytes : Nat
  createdAt : Nat

/-- The estimated size of one row of a batch. -/
def bytesPerRecord : IngestBatch → Nat
  | .spans _ => 512
  | .metrics _ => 256
  | .logs _ => 384
  | .scores _ => 256

/-- A batch with the rows of another one behind its own, if both are of one signal. -/
def extend : IngestBatch → IngestBatch → IngestBatch
  | .spans rows, .spans more => .spans (rows ++ more)
  | .metrics rows, .metrics more => .metrics (rows ++ more)
  | .logs rows, .logs more => .logs (rows ++ more)
  | .scores rows, .scores more => .scores (rows ++ more)
  -- A slot of another signal would keep its rows and drop the new ones.
  | kept, _ => kept

/-- Put a batch into the slots, in the slot of its key or in a new one. -/
def pushSlot (key : BufferKey) (batch : IngestBatch) (now : Nat) :
    List (BufferKey × BufferSlot) → List (BufferKey × BufferSlot)
  | [] => [(key, ⟨batch, batch.rows.length * bytesPerRecord batch, now⟩)]
  | (other, slot) :: rest =>
    if other = key then
      (other, { slot with
        data := extend slot.data batch
        sizeBytes := slot.sizeBytes + batch.rows.length * bytesPerRecord batch }) :: rest
    else (other, slot) :: pushSlot key batch now rest

theorem mem_keys_pushSlot {key other : BufferKey} {batch : IngestBatch} {now : Nat}
    {slots : List (BufferKey × BufferSlot)} :
    other ∈ (pushSlot key batch now slots).map Prod.fst ↔
      other = key ∨ other ∈ slots.map Prod.fst := by
  induction slots with
  | nil => simp [pushSlot]
  | cons entry rest ih =>
    simp only [pushSlot]
    split
    · -- The slot is there already, so no key is new.
      rename_i here
      simp [← here]
    · simp only [List.map_cons, List.mem_cons, ih]
      exact or_left_comm

/-- Pushing opens at most one slot, and only under a key that has none. -/
theorem pushSlot_distinct (key : BufferKey) (batch : IngestBatch) (now : Nat)
    {slots : List (BufferKey × BufferSlot)} (distinct : (slots.map Prod.fst).Nodup) :
    ((pushSlot key batch now slots).map Prod.fst).Nodup := by
  -- A slot is added only when none of the earlier ones has its key.
  induction slots with
  | nil => simp [pushSlot]
  | cons entry rest ih =>
    obtain ⟨fresh, later⟩ := List.nodup_cons.mp distinct
    simp only [pushSlot]
    split
    · exact distinct
    · rename_i apart
      rw [List.map_cons, List.nodup_cons]
      refine ⟨?_, ih later⟩
      intro again
      rcases mem_keys_pushSlot.mp again with here | old
      · exact apart here
      · exact fresh old

/-- The slots of the buffer, which are the entries of a map. -/
structure WriteBuffer where
  slots : List (BufferKey × BufferSlot)
  maxSlotBytes : Nat
  distinct : (slots.map Prod.fst).Nodup

namespace WriteBuffer

/-- A buffer without slots. -/
def new (maxSlotBytes : Nat) : WriteBuffer where
  slots := []
  maxSlotBytes := maxSlotBytes
  distinct := List.nodup_nil

/-- Move a batch into the buffer. -/
def push (buffer : WriteBuffer) (key : BufferKey) (batch : IngestBatch) (now : Nat) :
    WriteBuffer where
  slots := pushSlot key batch now buffer.slots
  maxSlotBytes := buffer.maxSlotBytes
  distinct := pushSlot_distinct key batch now buffer.distinct

/-- The keys of the slots that are over the size limit or old enough. -/
def eligibleKeys (buffer : WriteBuffer) (now flushIntervalSecs : Nat) : List BufferKey :=
  (buffer.slots.filter fun entry =>
    buffer.maxSlotBytes ≤ entry.2.sizeBytes ∨ flushIntervalSecs ≤ now - entry.2.createdAt).map
      Prod.fst

/-- Remove the slot of a key, if there is one. -/
def remove (buffer : WriteBuffer) (key : BufferKey) :
    Option (BufferKey × BufferSlot) × WriteBuffer :=
  (buffer.slots.find? fun entry => entry.1 = key,
    { slots := buffer.slots.filter fun entry => entry.1 ≠ key
      maxSlotBytes := buffer.maxSlotBytes
      distinct := buffer.distinct.sublist (List.filter_sublist.map _) })

end WriteBuffer

/-- The rows in some slots. -/
def slotRows (slots : List (BufferKey × BufferSlot)) : List AnyRow :=
  slots.flatMap fun entry => entry.2.data.rows

/-- Every row in the slots is as it should be under the key of its slot. -/
def SlotsHold (holds : BufferKey → AnyRow → Prop) (slots : List (BufferKey × BufferSlot)) : Prop :=
  ∀ entry ∈ slots, ∀ row ∈ entry.2.data.rows, holds entry.1 row

/-- Every slot holds rows of the signal that its key names. -/
def Tagged (slots : List (BufferKey × BufferSlot)) : Prop :=
  ∀ entry ∈ slots, entry.1.signalType = signalTag entry.2.data

theorem extend_rows {kept more : IngestBatch} (same : signalTag kept = signalTag more) :
    (extend kept more).rows = kept.rows ++ more.rows := by
  -- Batches of different signals have different tags.
  cases kept <;> cases more <;> simp [signalTag] at same <;> simp [extend, IngestBatch.rows]

/-- Extending a batch adds no rows but those of the other batch. -/
theorem mem_extend_rows {kept more : IngestBatch} {row : AnyRow}
    (listed : row ∈ (extend kept more).rows) : row ∈ kept.rows ∨ row ∈ more.rows := by
  by_cases same : signalTag kept = signalTag more
  · rw [extend_rows same] at listed
    exact List.mem_append.mp listed
  · -- Rows of another signal are dropped.
    have whole : extend kept more = kept := by
      cases kept <;> cases more <;> first | rfl | exact absurd rfl same
    exact .inl (whole ▸ listed)

theorem signalTag_extend (kept more : IngestBatch) : signalTag (extend kept more) = signalTag kept := by
  cases kept <;> cases more <;> rfl

section

variable {key : BufferKey} {batch : IngestBatch} {slots : List (BufferKey × BufferSlot)}

/--
What holds of the slots holds of them after a push, if it holds of a slot that is new and still
holds of one that is extended.
-/
theorem forall_mem_pushSlot (holds : BufferKey → IngestBatch → Prop)
    (held : ∀ entry ∈ slots, holds entry.1 entry.2.data) (fresh : holds key batch)
    (extended : ∀ kept, holds key kept → holds key (extend kept batch)) (now : Nat) :
    ∀ entry ∈ pushSlot key batch now slots, holds entry.1 entry.2.data := by
  induction slots with
  | nil => exact List.forall_mem_singleton.mpr fresh
  | cons first rest ih =>
    obtain ⟨here, others⟩ := List.forall_mem_cons.mp held
    rw [pushSlot]
    split
    · -- Only the first slot of the key is extended.
      rename_i same
      refine List.forall_mem_cons.mpr ⟨?_, others⟩
      subst same
      exact extended first.2.data here
    · exact List.forall_mem_cons.mpr ⟨here, ih others⟩

/-- A push of rows of the signal of its key leaves every slot with rows of one signal. -/
theorem pushSlot_tagged {signalOf : BufferKey → String}
    (tagged : ∀ entry ∈ slots, signalTag entry.2.data = signalOf entry.1)
    (named : signalTag batch = signalOf key) (now : Nat) :
    ∀ entry ∈ pushSlot key batch now slots, signalTag entry.2.data = signalOf entry.1 := by
  -- A slot that is extended keeps its variant.
  refine forall_mem_pushSlot (fun key data => signalTag data = signalOf key) tagged named ?_ now
  intro kept own
  exact (signalTag_extend kept batch).trans own

theorem Tagged.pushSlot (tagged : Tagged slots) (named : key.signalType = signalTag batch)
    (now : Nat) : Tagged (pushSlot key batch now slots) := by
  -- The signal of a key is the one in its name.
  refine forall_mem_pushSlot (fun key data => key.signalType = signalTag data) tagged named ?_ now
  intro kept own
  exact own.trans (signalTag_extend kept batch).symm

theorem SlotsHold.pushSlot {holds : BufferKey → AnyRow → Prop} (held : SlotsHold holds slots)
    (own : ∀ row ∈ batch.rows, holds key row) (now : Nat) :
    SlotsHold holds (pushSlot key batch now slots) := by
  -- The slot of the key has its own rows and the new ones.
  refine forall_mem_pushSlot (fun key data => ∀ row ∈ data.rows, holds key row) held own ?_ now
  intro kept here row inside
  rcases mem_extend_rows inside with before | new
  · exact here row before
  · exact own row new

/-- Pushing adds the rows of the batch and loses none. -/
theorem pushSlot_rows (tagged : Tagged slots) (named : key.signalType = signalTag batch)
    (now : Nat) : (slotRows (pushSlot key batch now slots)).Perm (slotRows slots ++ batch.rows) := by
  induction slots with
  | nil => simp [pushSlot, slotRows]
  | cons first rest ih =>
    obtain ⟨other, slot⟩ := first
    have own : other.signalType = signalTag slot.data := tagged (other, slot) List.mem_cons_self
    have later := ih fun entry member => tagged entry (List.mem_cons_of_mem _ member)
    simp only [pushSlot]
    split
    · -- The rows join those of the slot, in front of the other slots.
      rename_i here
      have same : signalTag slot.data = signalTag batch := by rw [← own, here, named]
      simp only [slotRows, List.flatMap_cons, extend_rows same, List.append_assoc]
      exact List.perm_append_comm.append_left _
    · simp only [slotRows, List.flatMap_cons, List.append_assoc] at later ⊢
      exact later.append_left _

end

/-- A removed slot takes its rows out of the buffer, and the other rows stay. -/
theorem WriteBuffer.remove_rows (buffer : WriteBuffer) (key : BufferKey) :
    (slotRows buffer.slots).Perm
      (slotRows (buffer.remove key).1.toList ++ slotRows (buffer.remove key).2.slots) := by
  obtain ⟨slots, maxSlotBytes, distinct⟩ := buffer
  simp only [remove]
  induction slots with
  | nil => exact .nil
  | cons first rest ih =>
    obtain ⟨fresh, later⟩ := List.nodup_cons.mp distinct
    by_cases here : first.1 = key
    · -- No other slot has the key.
      have others : (rest.filter fun entry => entry.1 ≠ key) = rest := by
        rw [List.filter_eq_self]
        intro entry member
        refine decide_eq_true ?_
        intro again
        exact fresh (List.mem_map.mpr ⟨entry, member, again.trans here.symm⟩)
      rw [List.find?_cons_of_pos (by simpa using here), List.filter_cons_of_neg (by simpa using here),
        others]
      simp [slotRows]
    · rw [List.find?_cons_of_neg (by simpa using here), List.filter_cons_of_pos (by simpa using here)]
      have rest := (ih later).append_left first.2.data.rows
      simp only [slotRows, List.flatMap_cons] at rest ⊢
      refine rest.trans ?_
      rw [← List.append_assoc, ← List.append_assoc]
      exact List.perm_append_comm.append_right _

theorem WriteBuffer.remove_tagged {buffer : WriteBuffer} (tagged : Tagged buffer.slots)
    (key : BufferKey) : Tagged (buffer.remove key).2.slots :=
  fun entry member => tagged entry (List.mem_filter.mp member).1

end Zradar.Parquet

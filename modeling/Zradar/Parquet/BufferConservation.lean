import Zradar.Lib.Positions
import Zradar.Lib.Run
import Zradar.Parquet.WriteBuffer

/-! The write buffer under pushes and drains in any order: where every pushed row is. -/

namespace Zradar.Parquet

section

variable (key : BufferKey)

/-- The entry of a key, changed in place, or made from a fresh slot. -/
def entryOrInsert (fresh : BufferSlot) (change : BufferSlot → BufferSlot) :
    List (BufferKey × BufferSlot) → List (BufferKey × BufferSlot)
  | [] => [(key, change fresh)]
  | (other, slot) :: rest =>
    if other = key then (other, change slot) :: rest
    else (other, slot) :: entryOrInsert fresh change rest

theorem keys_entryOrInsert (fresh : BufferSlot) (change : BufferSlot → BufferSlot)
    (slots : List (BufferKey × BufferSlot)) :
    (entryOrInsert key fresh change slots).map Prod.fst =
      (pushSlot key fresh.data fresh.createdAt slots).map Prod.fst := by
  induction slots with
  | nil => rfl
  | cons entry rest ih =>
    rw [entryOrInsert, pushSlot]
    split
    · rfl
    · rw [List.map_cons, List.map_cons, ih]

/-- Change the slot of a key under the lock of its shard. -/
def WriteBuffer.withEntry (buffer : WriteBuffer) (fresh : BufferSlot)
    (change : BufferSlot → BufferSlot) : WriteBuffer where
  slots := entryOrInsert key fresh change buffer.slots
  maxSlotBytes := buffer.maxSlotBytes
  distinct := by
    rw [keys_entryOrInsert]
    exact pushSlot_distinct key fresh.data fresh.createdAt buffer.distinct

end

/-- One variant of the batches, with the estimated size of one of its rows. -/
structure SignalVariant (α : Type) where
  wrap : List α → IngestBatch
  unwrap : IngestBatch → Option (List α)
  bytesPerRecord : Nat

def spansVariant : SignalVariant Span where
  wrap := .spans
  unwrap
    | .spans rows => some rows
    | _ => none
  bytesPerRecord := 512

def metricsVariant : SignalVariant Metric where
  wrap := .metrics
  unwrap
    | .metrics rows => some rows
    | _ => none
  bytesPerRecord := 256

def logsVariant : SignalVariant LogRecord where
  wrap := .logs
  unwrap
    | .logs rows => some rows
    | _ => none
  bytesPerRecord := 384

def scoresVariant : SignalVariant EvaluationScore where
  wrap := .scores
  unwrap
    | .scores rows => some rows
    | _ => none
  bytesPerRecord := 256

section

variable {α : Type} (signal : SignalVariant α) (buffer : WriteBuffer) (key : BufferKey)
  (rows : List α) (now : Nat)

/-- Push rows into the slot of a key, with what becomes of the rows of a slot of their variant. -/
def pushRows (combine : List α → List α) : WriteBuffer :=
  buffer.withEntry key ⟨signal.wrap [], 0, now⟩ fun slot =>
    { slot with
      -- A slot of another variant is left as it is.
      data := match signal.unwrap slot.data with
        | some kept => signal.wrap (combine kept)
        | none => slot.data
      sizeBytes := slot.sizeBytes + rows.length * signal.bytesPerRecord }

/-- Append a copy of the rows. -/
def pushBorrowed : WriteBuffer := pushRows signal buffer key rows now (· ++ rows)

/-- Move the rows, which become the slot's own where it has none. -/
def pushOwned : WriteBuffer :=
  pushRows signal buffer key rows now fun kept => if kept = [] then rows else kept ++ rows

end

section

variable (buffer : WriteBuffer) (key : BufferKey) (now : Nat)

def pushSpans (spans : List Span) := pushBorrowed spansVariant buffer key spans now

def pushMetrics (metrics : List Metric) := pushBorrowed metricsVariant buffer key metrics now

def pushLogs (logs : List LogRecord) := pushBorrowed logsVariant buffer key logs now

def pushScores (scores : List EvaluationScore) := pushBorrowed scoresVariant buffer key scores now

def pushSpansOwned (spans : List Span) := pushOwned spansVariant buffer key spans now

def pushMetricsOwned (metrics : List Metric) := pushOwned metricsVariant buffer key metrics now

def pushLogsOwned (logs : List LogRecord) := pushOwned logsVariant buffer key logs now

def pushScoresOwned (scores : List EvaluationScore) := pushOwned scoresVariant buffer key scores now

/-- The push that takes a batch, by reference or by move. -/
def pushBatch (owned : Bool) : IngestBatch → WriteBuffer
  | .spans spans =>
    if owned then pushSpansOwned buffer key now spans else pushSpans buffer key now spans
  | .metrics metrics =>
    if owned then pushMetricsOwned buffer key now metrics else pushMetrics buffer key now metrics
  | .logs logs =>
    if owned then pushLogsOwned buffer key now logs else pushLogs buffer key now logs
  | .scores scores =>
    if owned then pushScoresOwned buffer key now scores else pushScores buffer key now scores

end

/-- The number of rows in the slots. -/
def WriteBuffer.recordCount (buffer : WriteBuffer) : Nat :=
  (buffer.slots.map fun entry => entry.2.data.rows.length).sum

/-- A drain: which slots it takes, the keys that it has found, and the slots that it has removed. -/
structure DrainCall where
  takes : BufferSlot → Bool
  scanning : Bool
  keys : List BufferKey
  result : List (BufferKey × BufferSlot)

/-- The buffer, the drains under way, the results of the others, and what was pushed and removed. -/
structure BufferState where
  buffer : WriteBuffer
  drains : List DrainCall
  results : List (List (BufferKey × BufferSlot))
  pushed : List (BufferKey × IngestBatch)
  removed : List (BufferKey × BufferSlot)

/-- One step of a pusher or of a drain. -/
inductive BufferLabel where
  | push (owned : Bool) (key : BufferKey) (batch : IngestBatch) (now : Nat)
  | drainEligible (now flushIntervalSecs : Nat)
  | drainAll
  /-- The scan of a drain comes to a slot and finds it eligible. -/
  | visit (drain : Nat) (key : BufferKey)
  | endScan (drain : Nat)
  | removeNext (drain : Nat)
  | finish (drain : Nat)

/-- Pushes are atomic, and drains go on with other steps in between. -/
def bufferStep (state : BufferState) : BufferLabel → Option BufferState
  | .push owned key batch now =>
    some { state with
      buffer := pushBatch state.buffer key now owned batch
      pushed := state.pushed ++ [(key, batch)] }
  | .drainEligible now flushIntervalSecs =>
    let takes := fun slot : BufferSlot => decide
      (state.buffer.maxSlotBytes ≤ slot.sizeBytes ∨ flushIntervalSecs ≤ now - slot.createdAt)
    some { state with drains := ⟨takes, true, [], []⟩ :: state.drains }
  | .drainAll => some { state with drains := ⟨fun _ => true, true, [], []⟩ :: state.drains }
  | .visit drain key => do
    let call ← state.drains[drain]?
    let entry ← state.buffer.slots.find? fun entry => entry.1 = key
    -- A scan comes to every key at most once, in the state in which it comes there.
    if call.scanning ∧ call.takes entry.2 ∧ key ∉ call.keys then
      some { state with drains := state.drains.set drain { call with keys := call.keys ++ [key] } }
    else none
  | .endScan drain => do
    let call ← state.drains[drain]?
    some { state with drains := state.drains.set drain { call with scanning := false } }
  | .removeNext drain => do
    let call ← state.drains[drain]?
    match call.scanning, call.keys with
    | false, key :: keys =>
      -- The slot may be gone, or another one than the one that was found.
      let (found, buffer) := state.buffer.remove key
      some { state with
        buffer
        drains := state.drains.set drain
          { call with keys, result := call.result ++ found.toList }
        removed := state.removed ++ found.toList }
    | _, _ => none
  | .finish drain => do
    let call ← state.drains[drain]?
    if call.scanning = false ∧ call.keys = [] then
      some { state with
        drains := state.drains.eraseIdx drain
        results := call.result :: state.results }
    else none

/-- An empty buffer that nobody uses. -/
def initialBuffer (maxSlotBytes : Nat) : BufferState := ⟨.new maxSlotBytes, [], [], [], []⟩

/-- The rows of some slots, each with the key of its slot. -/
def keyedRows (slots : List (BufferKey × BufferSlot)) : List (BufferKey × AnyRow) :=
  slots.flatMap fun entry => entry.2.data.rows.map (Prod.mk entry.1)

/-- The rows that were pushed, each with the key that it was pushed with. -/
def BufferState.pushedRows (state : BufferState) : List (BufferKey × AnyRow) :=
  state.pushed.flatMap fun entry => entry.2.rows.map (Prod.mk entry.1)

/-- The slots in the results of all drains, finished or not. -/
def BufferState.drained (state : BufferState) : List (BufferKey × BufferSlot) :=
  state.results.flatten ++ state.drains.flatMap DrainCall.result

/-- The rows of one key, in their order. -/
def rowsUnder (key : BufferKey) (rows : List (BufferKey × AnyRow)) : List (BufferKey × AnyRow) :=
  rows.filter fun row => row.1 = key

/-- Whether a push has rows of the signal that its key stands for. -/
def BufferLabel.KeepsSignal (signalOf : BufferKey → String) : BufferLabel → Prop
  | .push _ key batch _ => signalTag batch = signalOf key
  | _ => True

/-- Rows are where they should be, in the order of the pushes, and every slot is in one result. -/
structure BufferState.Conserved (signalOf : BufferKey → String) (state : BufferState) : Prop where
  tagged : ∀ entry ∈ state.buffer.slots, signalTag entry.2.data = signalOf entry.1
  order : ∀ key, rowsUnder key state.pushedRows =
    rowsUnder key (keyedRows state.removed ++ keyedRows state.buffer.slots)
  once : state.drained.Perm state.removed
  finished : ∀ result ∈ state.results, result.Sublist state.removed
  unfinished : ∀ call ∈ state.drains, call.result.Sublist state.removed

section

variable {α : Type} (signal : SignalVariant α) (buffer : WriteBuffer) (key : BufferKey)
  (rows : List α) (now : Nat)

/-- Moving rows into a slot leaves the rows there that appending them leaves. -/
theorem pushOwned_eq :
    pushOwned signal buffer key rows now = pushBorrowed signal buffer key rows now := by
  have combine : (fun kept => if kept = [] then rows else kept ++ rows) = (· ++ rows) := by
    funext kept
    split
    · rename_i empty
      rw [empty, List.nil_append]
    · rfl
  rw [pushOwned, combine, pushBorrowed]

/-- A variant that extends slots as batches are extended pushes as batches are pushed. -/
theorem pushBorrowed_eq
    (extends_ : ∀ data, (match signal.unwrap data with
      | some kept => signal.wrap (kept ++ rows)
      | none => data) = extend data (signal.wrap rows))
    (fresh : extend (signal.wrap []) (signal.wrap rows) = signal.wrap rows)
    (size : rows.length * signal.bytesPerRecord =
      (signal.wrap rows).rows.length * bytesPerRecord (signal.wrap rows)) :
    pushBorrowed signal buffer key rows now = buffer.push key (signal.wrap rows) now := by
  obtain ⟨slots, maxSlotBytes, distinct⟩ := buffer
  simp only [pushBorrowed, pushRows, WriteBuffer.withEntry, WriteBuffer.push,
    WriteBuffer.mk.injEq, and_true, extends_, size]
  clear distinct
  -- The entries of other keys are passed over in both.
  induction slots with
  | nil => simp only [entryOrInsert, pushSlot, fresh, Nat.zero_add]
  | cons entry rest ih => rw [entryOrInsert, pushSlot, ih]

/-- All eight pushes are the push of a batch. -/
theorem pushBatch_eq (owned : Bool) (batch : IngestBatch) :
    pushBatch buffer key now owned batch = buffer.push key batch now := by
  -- Borrowed pushes build the variant of their signal, and owned ones hand the batch on.
  cases batch with
  | spans spans =>
    have borrowed : pushSpans buffer key now spans = buffer.push key (.spans spans) now :=
      pushBorrowed_eq spansVariant buffer key spans now (fun data => by cases data <;> rfl) rfl
        (by simp [spansVariant, IngestBatch.rows, bytesPerRecord])
    rw [pushBatch, pushSpansOwned, pushOwned_eq, ← pushSpans, borrowed, ite_self]
  | metrics metrics =>
    have borrowed : pushMetrics buffer key now metrics = buffer.push key (.metrics metrics) now :=
      pushBorrowed_eq metricsVariant buffer key metrics now (fun data => by cases data <;> rfl) rfl
        (by simp [metricsVariant, IngestBatch.rows, bytesPerRecord])
    rw [pushBatch, pushMetricsOwned, pushOwned_eq, ← pushMetrics, borrowed, ite_self]
  | logs logs =>
    have borrowed : pushLogs buffer key now logs = buffer.push key (.logs logs) now :=
      pushBorrowed_eq logsVariant buffer key logs now (fun data => by cases data <;> rfl) rfl
        (by simp [logsVariant, IngestBatch.rows, bytesPerRecord])
    rw [pushBatch, pushLogsOwned, pushOwned_eq, ← pushLogs, borrowed, ite_self]
  | scores scores =>
    have borrowed : pushScores buffer key now scores = buffer.push key (.scores scores) now :=
      pushBorrowed_eq scoresVariant buffer key scores now (fun data => by cases data <;> rfl) rfl
        (by simp [scoresVariant, IngestBatch.rows, bytesPerRecord])
    rw [pushBatch, pushScoresOwned, pushOwned_eq, ← pushScores, borrowed, ite_self]

end

section

variable {key other : BufferKey} {slots : List (BufferKey × BufferSlot)} {batch : IngestBatch}

theorem rowsUnder_append (first second : List (BufferKey × AnyRow)) :
    rowsUnder key (first ++ second) = rowsUnder key first ++ rowsUnder key second :=
  List.filter_append _ _

theorem keyedRows_append (first second : List (BufferKey × BufferSlot)) :
    keyedRows (first ++ second) = keyedRows first ++ keyedRows second :=
  List.flatMap_append

/-- Rows with one key are under it, and under no other one. -/
theorem rowsUnder_mk (rows : List AnyRow) :
    rowsUnder key (rows.map (Prod.mk other)) =
      if other = key then rows.map (Prod.mk other) else [] := by
  unfold rowsUnder
  split
  · rename_i same
    rw [List.filter_eq_self]
    intro row member
    obtain ⟨inner, -, rfl⟩ := List.mem_map.mp member
    exact decide_eq_true same
  · rename_i apart
    rw [List.filter_eq_nil_iff]
    intro row member
    obtain ⟨inner, -, rfl⟩ := List.mem_map.mp member
    simpa using apart

/-- The rows under a key are those of the slots with the key. -/
theorem rowsUnder_keyedRows (key : BufferKey) (slots : List (BufferKey × BufferSlot)) :
    rowsUnder key (keyedRows slots) = keyedRows (slots.filter fun entry => entry.1 = key) := by
  -- The rows of a slot all have its key, so a slot is kept or left out as a whole.
  induction slots with
  | nil => rfl
  | cons entry rest ih =>
    have first : keyedRows (entry :: rest) =
        entry.2.data.rows.map (Prod.mk entry.1) ++ keyedRows rest := List.flatMap_cons
    rw [first, rowsUnder_append, rowsUnder_mk, ih]
    by_cases here : entry.1 = key
    · rw [if_pos here, List.filter_cons_of_pos (by simpa using here)]
      rfl
    · rw [if_neg here, List.filter_cons_of_neg (by simpa using here), List.nil_append]

/-- A key without a slot has no rows. -/
theorem rowsUnder_eq_nil (absent : key ∉ slots.map Prod.fst) :
    rowsUnder key (keyedRows slots) = [] := by
  rw [rowsUnder_keyedRows, List.filter_eq_nil_iff.mpr]
  · rfl
  · intro entry member same
    exact absent (List.mem_map.mpr ⟨entry, member, of_decide_eq_true same⟩)

/-- A push puts its rows behind those of its key, and leaves the others alone. -/
theorem rowsUnder_pushSlot (distinct : (slots.map Prod.fst).Nodup)
    (same : ∀ entry ∈ slots, entry.1 = key → signalTag entry.2.data = signalTag batch) (now : Nat) :
    rowsUnder other (keyedRows (pushSlot key batch now slots)) =
      rowsUnder other (keyedRows slots) ++ rowsUnder other (batch.rows.map (Prod.mk key)) := by
  induction slots with
  | nil => simp [pushSlot, keyedRows, rowsUnder]
  | cons entry rest ih =>
    obtain ⟨fresh, later⟩ := List.nodup_cons.mp distinct
    have first (entry : BufferKey × BufferSlot) : keyedRows (entry :: rest) =
        entry.2.data.rows.map (Prod.mk entry.1) ++ keyedRows rest := List.flatMap_cons
    rw [pushSlot]
    split
    · -- No other slot has the key, so its rows are the last ones under it.
      rename_i here
      rw [first, first, rowsUnder_append, rowsUnder_append,
        extend_rows (same entry List.mem_cons_self here), List.map_append, rowsUnder_append, here,
        List.append_assoc, List.append_assoc]
      by_cases own : key = other
      · rw [rowsUnder_eq_nil (by rw [← own, ← here]; exact fresh), List.append_nil, List.nil_append]
      · rw [rowsUnder_mk batch.rows, if_neg own, List.nil_append, List.append_nil]
    · have tail := ih later fun entry member => same entry (List.mem_cons_of_mem _ member)
      have whole : keyedRows (entry :: pushSlot key batch now rest) =
          entry.2.data.rows.map (Prod.mk entry.1) ++ keyedRows (pushSlot key batch now rest) :=
        List.flatMap_cons
      rw [whole, first, rowsUnder_append, rowsUnder_append, tail, List.append_assoc]

/-- The slot of a key is all there is of the key. -/
theorem find?_toList (distinct : (slots.map Prod.fst).Nodup) (key : BufferKey) :
    (slots.find? fun entry => entry.1 = key).toList = slots.filter fun entry => entry.1 = key := by
  induction slots with
  | nil => rfl
  | cons entry rest ih =>
    obtain ⟨fresh, later⟩ := List.nodup_cons.mp distinct
    by_cases here : entry.1 = key
    · rw [List.find?_cons_of_pos (by simpa using here),
        List.filter_cons_of_pos (by simpa using here), List.filter_eq_nil_iff.mpr]
      · rfl
      · -- A second slot of the key is ruled out.
        intro other member same
        have again : other.1 = key := of_decide_eq_true same
        exact fresh (List.mem_map.mpr ⟨other, member, again.trans here.symm⟩)
    · rw [List.find?_cons_of_neg (by simpa using here),
        List.filter_cons_of_neg (by simpa using here)]
      exact ih later

/-- A removal moves the rows of its key out of the buffer, and leaves the others alone. -/
theorem rowsUnder_remove (buffer : WriteBuffer) (key other : BufferKey) :
    rowsUnder other (keyedRows buffer.slots) =
      rowsUnder other (keyedRows (buffer.remove key).1.toList) ++
        rowsUnder other (keyedRows (buffer.remove key).2.slots) := by
  simp only [WriteBuffer.remove]
  rw [find?_toList buffer.distinct]
  simp only [rowsUnder_keyedRows, List.filter_filter]
  generalize buffer.slots = slots
  by_cases own : other = key
  · -- All rows of the key are removed.
    subst own
    have none : slots.filter (fun entry =>
        decide (entry.1 = other) && decide (entry.1 ≠ other)) = [] := by
      rw [List.filter_eq_nil_iff]
      intro entry _
      simp
    simp only [Bool.and_self]
    rw [none]
    simp [keyedRows]
  · have none : slots.filter (fun entry =>
        decide (entry.1 = other) && decide (entry.1 = key)) = [] := by
      rw [List.filter_eq_nil_iff]
      intro entry _ both
      simp only [Bool.and_eq_true, decide_eq_true_eq] at both
      exact own (both.1.symm.trans both.2)
    have all : slots.filter (fun entry => decide (entry.1 = other) && decide (entry.1 ≠ key)) =
        slots.filter fun entry => entry.1 = other := by
      refine List.filter_congr fun entry _ => ?_
      by_cases here : entry.1 = other
      · simp [here, own]
      · simp [here]
    rw [all, none]
    rfl

/-- Lists with the same rows under every key have the same rows. -/
theorem perm_of_rowsUnder {first second : List (BufferKey × AnyRow)}
    (same : ∀ key, rowsUnder key first = rowsUnder key second) : first.Perm second := by
  classical
  rw [List.perm_iff_count]
  intro row
  have counts := congrArg (List.count row) (same row.1)
  unfold rowsUnder at counts
  rwa [List.count_filter (by simp), List.count_filter (by simp)] at counts

end

section

variable {drains : List DrainCall} {drain : Nat} {call : DrainCall}

/-- The results of the drains under way are that of one of them and those of the others. -/
theorem taken_results (found : drains[drain]? = some call) :
    (call.result ++ (drains.eraseIdx drain).flatMap DrainCall.result).Perm
      (drains.flatMap DrainCall.result) := by
  have taken := (taken_perm found).flatMap_right DrainCall.result
  rwa [List.flatMap_cons] at taken

/-- A drain that goes on changes no result but its own. -/
theorem replaced_results (found : drains[drain]? = some call) (next : DrainCall) :
    ((drains.set drain next).flatMap DrainCall.result).Perm
      (next.result ++ (drains.eraseIdx drain).flatMap DrainCall.result) := by
  have replaced := (replaced_perm found next).flatMap_right DrainCall.result
  rwa [List.flatMap_cons] at replaced

end

variable {signalOf : BufferKey → String} {state next : BufferState} {label : BufferLabel}

/-- A drain that only looks for keys moves no rows. -/
theorem BufferState.Conserved.look (conserved : state.Conserved signalOf) {drain : Nat}
    {call after : DrainCall} (found : state.drains[drain]? = some call)
    (same : after.result = call.result) :
    BufferState.Conserved signalOf { state with drains := state.drains.set drain after } := by
  refine ⟨conserved.tagged, conserved.order, ?_, conserved.finished, ?_⟩
  · have kept := (replaced_results found after).trans (same ▸ taken_results found)
    exact (kept.append_left _).trans conserved.once
  · intro other member
    rcases List.mem_or_eq_of_mem_set member with old | rfl
    · exact conserved.unfinished other old
    · rw [same]
      exact conserved.unfinished call (List.mem_of_getElem? found)

theorem BufferState.Conserved.push (conserved : state.Conserved signalOf) {key : BufferKey}
    {batch : IngestBatch} (named : signalTag batch = signalOf key) (now : Nat) :
    BufferState.Conserved signalOf { state with
      buffer := state.buffer.push key batch now
      pushed := state.pushed ++ [(key, batch)] } := by
  refine ⟨pushSlot_tagged conserved.tagged named now, ?_, conserved.once, conserved.finished,
    conserved.unfinished⟩
  intro other
  have rows : pushedRows { state with
      buffer := state.buffer.push key batch now
      pushed := state.pushed ++ [(key, batch)] } =
        state.pushedRows ++ batch.rows.map (Prod.mk key) := by
    simp [pushedRows]
  have same (entry : BufferKey × BufferSlot) (member : entry ∈ state.buffer.slots)
      (here : entry.1 = key) : signalTag entry.2.data = signalTag batch := by
    rw [conserved.tagged entry member, here, named]
  have pushed :=
    @rowsUnder_pushSlot key other state.buffer.slots batch state.buffer.distinct same now
  have before := conserved.order other
  rw [rowsUnder_append] at before
  rw [rows, rowsUnder_append, before, rowsUnder_append]
  -- The new rows are the last ones under their key on both sides.
  rw [List.append_assoc]
  exact congrArg _ pushed.symm

theorem BufferState.Conserved.remove (conserved : state.Conserved signalOf) {drain : Nat}
    {call : DrainCall} (found : state.drains[drain]? = some call) (key : BufferKey)
    (keys : List BufferKey) :
    BufferState.Conserved signalOf { state with
      buffer := (state.buffer.remove key).2
      drains := state.drains.set drain
        { call with keys, result := call.result ++ (state.buffer.remove key).1.toList }
      removed := state.removed ++ (state.buffer.remove key).1.toList } := by
  refine ⟨?_, ?_, ?_, ?_, ?_⟩
  · exact fun entry member => conserved.tagged entry (List.mem_filter.mp member).1
  · intro other
    have before := conserved.order other
    have removed := rowsUnder_remove state.buffer key other
    rw [rowsUnder_append, removed] at before
    dsimp only
    rw [keyedRows_append, rowsUnder_append, rowsUnder_append, List.append_assoc]
    exact before
  · -- The slot that is removed comes into the result of this drain only.
    unfold drained
    dsimp only
    refine ((replaced_results found _).append_left _).trans ?_
    dsimp only
    have rest := ((taken_results found).append_left state.results.flatten).trans conserved.once
    refine List.Perm.trans ?_ (rest.append_right _)
    simp only [List.append_assoc]
    refine List.Perm.append_left _ (List.Perm.append_left _ ?_)
    exact List.perm_append_comm
  · exact fun result member =>
      (conserved.finished result member).trans (List.sublist_append_left _ _)
  · intro other member
    rcases List.mem_or_eq_of_mem_set member with old | rfl
    · exact (conserved.unfinished other old).trans (List.sublist_append_left _ _)
    · exact (conserved.unfinished call (List.mem_of_getElem? found)).append (List.Sublist.refl _)

theorem BufferState.Conserved.finish (conserved : state.Conserved signalOf) {drain : Nat}
    {call : DrainCall} (found : state.drains[drain]? = some call) :
    BufferState.Conserved signalOf { state with
      drains := state.drains.eraseIdx drain
      results := call.result :: state.results } := by
  refine ⟨conserved.tagged, conserved.order, ?_, ?_, ?_⟩
  · -- The result of the drain goes from those under way to the others.
    unfold drained
    dsimp only
    rw [List.flatten_cons]
    have rest := ((taken_results found).append_left state.results.flatten).trans conserved.once
    refine List.Perm.trans ?_ rest
    rw [← List.append_assoc]
    exact List.perm_append_comm.append_right _
  · intro result member
    rcases List.mem_cons.mp member with rfl | old
    · exact conserved.unfinished call (List.mem_of_getElem? found)
    · exact conserved.finished result old
  · exact fun other member => conserved.unfinished other (List.mem_of_mem_eraseIdx member)

/-- Every step moves rows only into the slot of their key, or from a slot into one result. -/
theorem BufferState.Conserved.step (conserved : state.Conserved signalOf)
    (uniform : label.KeepsSignal signalOf) (stepped : bufferStep state label = some next) :
    next.Conserved signalOf := by
  cases label with
  | push owned key batch now =>
    -- Which of the eight pushes it is makes no difference.
    obtain rfl := Option.some.inj stepped
    rw [pushBatch_eq]
    exact conserved.push uniform now
  | drainEligible now flushIntervalSecs =>
    obtain rfl := Option.some.inj stepped
    refine ⟨conserved.tagged, conserved.order, conserved.once, conserved.finished, ?_⟩
    exact List.forall_mem_cons.mpr ⟨List.nil_sublist _, conserved.unfinished⟩
  | drainAll =>
    obtain rfl := Option.some.inj stepped
    refine ⟨conserved.tagged, conserved.order, conserved.once, conserved.finished, ?_⟩
    exact List.forall_mem_cons.mpr ⟨List.nil_sublist _, conserved.unfinished⟩
  | visit drain key =>
    simp only [bufferStep, Option.bind_eq_bind, Option.bind_eq_some_iff] at stepped
    obtain ⟨call, found, entry, -, stepped⟩ := stepped
    split at stepped
    · obtain rfl := Option.some.inj stepped
      exact conserved.look found rfl
    · cases stepped
  | endScan drain =>
    simp only [bufferStep, Option.bind_eq_bind, Option.bind_eq_some_iff] at stepped
    obtain ⟨call, found, stepped⟩ := stepped
    obtain rfl := Option.some.inj stepped
    exact conserved.look found rfl
  | removeNext drain =>
    simp only [bufferStep, Option.bind_eq_bind, Option.bind_eq_some_iff] at stepped
    obtain ⟨call, found, stepped⟩ := stepped
    split at stepped
    · rename_i key keys _ _
      obtain rfl := Option.some.inj stepped
      exact conserved.remove found key keys
    · cases stepped
  | finish drain =>
    simp only [bufferStep, Option.bind_eq_bind, Option.bind_eq_some_iff] at stepped
    obtain ⟨call, found, stepped⟩ := stepped
    split at stepped
    · obtain rfl := Option.some.inj stepped
      exact conserved.finish found
    · cases stepped

theorem length_keyedRows (buffer : WriteBuffer) :
    (keyedRows buffer.slots).length = buffer.recordCount := by
  simp [keyedRows, WriteBuffer.recordCount, List.length_flatMap]

/--
If no key is used for rows of two signals, every pushed row is under its key in one slot or in the
result of one drain; the rows of a key are in the order of the pushes, those that were removed in
front; and once no drain is under way, the buffer counts what was pushed and not drained.
-/
theorem buffer_conserves_rows {maxSlotBytes : Nat} {labels : List BufferLabel} {final : BufferState}
    (uniform : ∀ label ∈ labels, label.KeepsSignal signalOf)
    (reached : run bufferStep (initialBuffer maxSlotBytes) labels = some final) :
    final.pushedRows.Perm (keyedRows final.buffer.slots ++ keyedRows final.drained) ∧
      (final.buffer.slots.map Prod.fst).Nodup ∧
      final.drained.Perm final.removed ∧
      (∀ key, rowsUnder key final.pushedRows =
        rowsUnder key (keyedRows final.removed ++ keyedRows final.buffer.slots)) ∧
      (∀ result ∈ final.results, result.Sublist final.removed) ∧
      (final.drains = [] → final.buffer.recordCount + (keyedRows final.results.flatten).length =
        final.pushedRows.length) := by
  have start : (initialBuffer maxSlotBytes).Conserved signalOf :=
    ⟨fun _ member => absurd member List.not_mem_nil, fun _ => rfl, .nil,
      fun _ member => absurd member List.not_mem_nil,
      fun _ member => absurd member List.not_mem_nil⟩
  have conserved : final.Conserved signalOf :=
    run_invariant (fun _ _ _ conserved uniform stepped => conserved.step uniform stepped) start
      (Guarded.of_labels uniform _) reached
  -- The rows under all keys are all the rows.
  have moved : (keyedRows final.drained).Perm (keyedRows final.removed) :=
    conserved.once.flatMap_right _
  have whole : final.pushedRows.Perm (keyedRows final.buffer.slots ++ keyedRows final.drained) :=
    (perm_of_rowsUnder conserved.order).trans
      (List.perm_append_comm.trans (moved.symm.append_left _))
  refine ⟨whole, final.buffer.distinct, conserved.once, conserved.order, conserved.finished, ?_⟩
  intro quiet
  have total := whole.length_eq
  have drained : final.drained = final.results.flatten := by
    rw [BufferState.drained, quiet, List.flatMap_nil, List.append_nil]
  rw [List.length_append, length_keyedRows, drained] at total
  omega

/-- The key of the logs of a workspace in an hour. -/
def logsKey : BufferKey := ⟨"a", "logs", "api", "1970/01/01/10"⟩

def plainLog : LogRecord := ⟨"log", 0, "a", "", "", "INFO", "api", "started", "", "", "", "", "", 0⟩

/-- A slot is drained, and made again between the scan and the removal of another drain. -/
def racingDrains : List BufferLabel :=
  [.push false logsKey (.logs [plainLog]) 0, .drainAll, .visit 0 logsKey, .endScan 0, .drainAll,
    .visit 0 logsKey, .endScan 0, .removeNext 0, .push true logsKey (.logs [plainLog]) 1,
    .removeNext 1, .finish 0, .finish 0]

/-- Both rows are drained once. -/
theorem racing_drains_conserve : ∃ final,
    run bufferStep (initialBuffer 1000) racingDrains = some final ∧
      final.buffer.recordCount + (keyedRows final.results.flatten).length =
        final.pushedRows.length := by
  have reached : run bufferStep (initialBuffer 1000) racingDrains = some _ := rfl
  have uniform : ∀ label ∈ racingDrains, label.KeepsSignal fun _ => "logs" := by
    simp [racingDrains, BufferLabel.KeepsSignal, signalTag]
  exact ⟨_, reached, (buffer_conserves_rows uniform reached).2.2.2.2.2 rfl⟩

/-- A log under the key of a slot of spans is in no slot and in no result. -/
theorem log_under_spans_is_lost : ∃ final,
    run bufferStep (initialBuffer 1000)
        [.push false logsKey (.spans []) 0, .push false logsKey (.logs [plainLog]) 0] = some final ∧
      final.pushedRows.length = 1 ∧ keyedRows final.buffer.slots = [] ∧
      keyedRows final.drained = [] :=
  ⟨_, rfl, rfl, rfl, rfl⟩

end Zradar.Parquet

import Zradar.Runtime.FlushSink

/-! Which appended rows the flush sink passes on, and which it drops without an error. -/

namespace Zradar.Runtime

open Wal

/-- The text of a tree is read back, and no proper leading part of it is a document. -/
structure TextFaithful (serde : SerdeJson) (tree : Json) : Prop where
  read : ∀ bytes, serde.toVec tree = .ok bytes → serde.fromSlice bytes = some tree
  cut : ∀ bytes, serde.toVec tree = .ok bytes → ∀ kept < bytes.length,
    serde.fromSlice (bytes.take kept) = none

/-- Rows that the envelope and the codec carry without loss. -/
structure Deliverable (serde : SerdeJson) (parseStr : String → Option Uuid) {α : Type} [Row α]
    (rows : List α) : Prop where
  /-- Every double is finite and is read back from its text. -/
  survive : ∀ row ∈ rows, Row.Survives serde row
  /-- Every text fits its length word. -/
  short : ∀ row ∈ rows, (textOf serde row).length < 2 ^ 32
  /-- Every group fits its count word. -/
  few : ∀ workspace, (rows.filter fun row => workspaceOf parseStr row = workspace).length < 2 ^ 32

section

variable {serde : SerdeJson} {α : Type} [Row α]

/-- What the sink reads from the record of one group. -/
def readGroup (serde : SerdeJson) (rows : List α) : List α :=
  (payloadRows (encodeJsonRows (rows.map (textOf serde)))).filterMap (readRow serde)

/-- A text stands for what comes back from the tree of its row. -/
theorem readRow_textOf {row : α} (faithful : TextFaithful serde (Row.toJson serde row))
    (text : serde.toVec (Row.toJson serde row) = .ok (textOf serde row)) :
    (readRow serde (textOf serde row) : Option α) = Row.fromJson serde (Row.toJson serde row) := by
  rw [readRow, faithful.read _ text, Option.bind_some]

/-- A group within the range of the envelope is read row by row. -/
theorem readGroup_of_lt {rows : List α} (few : rows.length < 2 ^ 32)
    (short : ∀ row ∈ rows, (textOf serde row).length < 2 ^ 32) :
    readGroup serde rows = rows.filterMap fun row => readRow serde (textOf serde row) := by
  have decoded : decodeBatch (encodeJsonRows (rows.map (textOf serde))) =
      .ok (some ⟨.jsonRowsV1, rows.map (textOf serde)⟩) :=
    decodeBatch_encodeJsonRows_of_lt (by simpa using few) (by simpa using short)
  rw [readGroup, payloadRows, decoded, List.filterMap_map]
  rfl

variable {rows : List α}
  (texts : ∀ row ∈ rows, serde.toVec (Row.toJson serde row) = .ok (textOf serde row))
  (faithful : ∀ row ∈ rows, TextFaithful serde (Row.toJson serde row))

include texts faithful

/-- A group outside the range of the envelope loses rows. -/
theorem readGroup_length_lt
    (outside : 2 ^ 32 ≤ rows.length ∨ ∃ row ∈ rows, 2 ^ 32 ≤ (textOf serde row).length) :
    (readGroup serde rows).length < rows.length := by
  have some : 0 < rows.length := by
    rcases outside with many | ⟨row, member, _⟩
    · omega
    · exact List.length_pos_of_mem member
  rw [readGroup, payloadRows, decodeBatch_encodeJsonRows, List.length_map]
  -- An envelope that cannot be decoded loses all rows.
  split
  · rename_i batch decoded
    split at decoded
    · cases decoded
    · rename_i framed loop
      cases decoded
      show (framed.filterMap (readRow serde)).length < rows.length
      have count := decodeRows_length loop
      have kept := List.length_filterMap_le (readRow serde : Bytes → Option α) framed
      have within : rows.length % 2 ^ 32 ≤ rows.length := Nat.mod_le _ _
      by_cases few : rows.length < 2 ^ 32
      · -- All rows are counted, so one of them is too long, and what is left of it is no document.
        rw [Nat.mod_eq_of_lt few] at loop count
        have oversized : ∃ text ∈ rows.map (textOf serde), 2 ^ 32 ≤ text.length := by
          rcases outside with many | ⟨row, member, long⟩
          · omega
          · exact ⟨_, List.mem_map_of_mem member, long⟩
        rw [← List.append_nil ((rows.map (textOf serde)).flatMap encodeRow)] at loop
        obtain ⟨text, listed, length, cut, member⟩ :=
          decodeRows_oversized (by simp) oversized loop
        obtain ⟨row, held, rfl⟩ := List.mem_map.mp listed
        have unread : (readRow serde ((textOf serde row).take length) : Option α) = none := by
          rw [readRow, (faithful row held).cut _ (texts row held) _ cut, Option.bind_none]
        have fewer := List.length_filterMap_lt_length_iff_exists.mpr ⟨_, member, unread⟩
        omega
      · -- The count word denotes fewer rows than there are.
        have wrapped : rows.length % 2 ^ 32 < 2 ^ 32 := Nat.mod_lt _ (by decide)
        omega
  · rename_i decoded
    split at decoded <;> cases decoded
  · exact some

/-- Inside the range, a row is lost exactly when it does not come back. -/
theorem readGroup_eq (few : rows.length < 2 ^ 32)
    (short : ∀ row ∈ rows, (textOf serde row).length < 2 ^ 32) :
    readGroup serde rows = rows.filterMap fun row => Row.fromJson serde (Row.toJson serde row) := by
  rw [readGroup_of_lt few short]
  apply List.filterMap_congr
  intro row member
  exact readRow_textOf (faithful row member) (texts row member)

theorem readGroup_length_le : (readGroup serde rows).length ≤ rows.length := by
  -- Out of range rows are lost, and in range at most the unreadable ones.
  by_cases outside : 2 ^ 32 ≤ rows.length ∨ ∃ row ∈ rows, 2 ^ 32 ≤ (textOf serde row).length
  · exact Nat.le_of_lt (readGroup_length_lt texts faithful outside)
  · obtain ⟨few, short⟩ := not_or.mp outside
    rw [readGroup_eq texts faithful (by omega) fun row member =>
      Nat.lt_of_not_le fun long => short ⟨row, member, long⟩]
    exact List.length_filterMap_le _ _

/-- A group that loses nothing is inside the range. -/
theorem range_of_readGroup_length (kept : (readGroup serde rows).length = rows.length) :
    rows.length < 2 ^ 32 ∧ ∀ row ∈ rows, (textOf serde row).length < 2 ^ 32 := by
  -- Rows out of range would be lost.
  have inside : ¬ (2 ^ 32 ≤ rows.length ∨ ∃ row ∈ rows, 2 ^ 32 ≤ (textOf serde row).length) := by
    intro outside
    have lost := readGroup_length_lt texts faithful outside
    omega
  obtain ⟨few, short⟩ := not_or.mp inside
  exact ⟨by omega, fun row member => Nat.lt_of_not_le fun long => short ⟨row, member, long⟩⟩

end

/-- A filtering map that changes nothing maps every item to itself. -/
theorem of_filterMap_eq_self {β : Type} {change : β → Option β} {items : List β}
    (same : items.filterMap change = items) : ∀ item ∈ items, change item = some item := by
  induction items with
  | nil => simp
  | cons first rest ih =>
    cases changed : change first with
    | none =>
      -- Dropping an item leaves too few of them.
      rw [List.filterMap_cons_none changed] at same
      have fewer := List.length_filterMap_le change rest
      rw [same, List.length_cons] at fewer
      omega
    | some other =>
      rw [List.filterMap_cons_some changed] at same
      obtain ⟨rfl, tail⟩ := List.cons.inj same
      intro item member
      rcases List.mem_cons.mp member with rfl | later
      · exact changed
      · exact ih tail item later

section

variable {serde : SerdeJson} {parseStr : String → Option Uuid} {signal : SignalType}
  {rows : List (RowOf signal)} {groups : List (Uuid × List (RowOf signal))}
  (grouping : IsGrouping (workspaceOf parseStr) rows groups)
  (texts : ∀ row ∈ rows, serde.toVec (Row.toJson serde row) = .ok (textOf serde row))
  (faithful : ∀ row ∈ rows, TextFaithful serde (Row.toJson serde row))

/-- A row of a group is one of the rows. -/
theorem mem_of_mem_group (grouping : IsGrouping (workspaceOf parseStr) rows groups)
    {group : Uuid × List (RowOf signal)} (member : group ∈ groups) {row : RowOf signal}
    (held : row ∈ group.2) : row ∈ rows := by
  rw [grouping.group group member] at held
  exact List.mem_of_mem_filter held

include grouping texts faithful

/-- Deliverable rows are read group by group as they were written. -/
theorem readGroups_of_deliverable (deliverable : Deliverable serde parseStr rows) :
    (groups.flatMap fun group => readGroup serde group.2) = groups.flatMap Prod.snd := by
  apply List.flatMap_congr
  intro group member
  have within : ∀ row ∈ group.2, row ∈ rows := fun row held =>
    mem_of_mem_group grouping member held
  have few : group.2.length < 2 ^ 32 := by
    rw [grouping.group group member]
    exact deliverable.few group.1
  rw [readGroup_eq (fun row held => texts row (within row held))
    (fun row held => faithful row (within row held)) few
    (fun row held => deliverable.short row (within row held))]
  -- Every row comes back as it was.
  have same : ∀ row ∈ group.2, Row.fromJson serde (Row.toJson serde row) = some row := by
    intro row held
    exact (Row.fromJson_toJson_eq_self serde row).mpr (deliverable.survive row (within row held))
  rw [List.filterMap_congr same, List.filterMap_some]

/-- If the rows read agree with the rows written per workspace, no group has lost any. -/
theorem readGroup_length_of_agree
    (agree : ∀ workspace, ((groups.flatMap fun group => readGroup serde group.2).filter fun row =>
      workspaceOf parseStr row = workspace) =
        rows.filter fun row => workspaceOf parseStr row = workspace) :
    ∀ group ∈ groups, (readGroup serde group.2).length = group.2.length := by
  intro group member
  have bound : ∀ other ∈ groups, (readGroup serde other.2).length ≤ other.2.length := by
    intro other listed
    exact readGroup_length_le
      (fun row held => texts row (mem_of_mem_group grouping listed held))
      (fun row held => faithful row (mem_of_mem_group grouping listed held))
  -- Both the groups that were written and the groups that are read hold all rows.
  have read := (perm_of_filter_key_eq agree).length_eq
  have written := grouping.perm_flatten.length_eq
  rw [List.length_flatMap] at read written
  apply Nat.le_antisymm (bound group member)
  by_contra fewer
  have total := List.sum_lt_sum _ _ bound ⟨group, member, Nat.lt_of_not_le fewer⟩
  omega

/-- Rows that are read as they were written were deliverable. -/
theorem deliverable_of_agree
    (agree : ∀ workspace, ((groups.flatMap fun group => readGroup serde group.2).filter fun row =>
      workspaceOf parseStr row = workspace) =
        rows.filter fun row => workspaceOf parseStr row = workspace) :
    Deliverable serde parseStr rows := by
  have kept := readGroup_length_of_agree grouping texts faithful agree
  have inRange : ∀ group ∈ groups, group.2.length < 2 ^ 32 ∧
      ∀ row ∈ group.2, (textOf serde row).length < 2 ^ 32 := by
    intro group member
    exact range_of_readGroup_length
      (fun row held => texts row (mem_of_mem_group grouping member held))
      (fun row held => faithful row (mem_of_mem_group grouping member held)) (kept group member)
  have backs : ∀ group ∈ groups, readGroup serde group.2 =
      group.2.filterMap fun row => Row.fromJson serde (Row.toJson serde row) := by
    intro group member
    exact readGroup_eq (fun row held => texts row (mem_of_mem_group grouping member held))
      (fun row held => faithful row (mem_of_mem_group grouping member held))
      (inRange group member).1 (inRange group member).2
  -- A row that comes back does so under its own workspace, so groups are read apart.
  have keyed : ∀ entry ∈ groups.map fun group => (group.1, readGroup serde group.2),
      ∀ row ∈ entry.2, workspaceOf parseStr row = entry.1 := by
    intro entry listed back held
    obtain ⟨group, member, rfl⟩ := List.mem_map.mp listed
    rw [backs group member] at held
    obtain ⟨row, inside, read⟩ := List.mem_filterMap.mp held
    rw [workspaceOf, Row.workspaceId_of_fromJson serde read]
    exact grouping.key_of_mem member inside
  have distinct : ((groups.map fun group => (group.1, readGroup serde group.2)).map
      Prod.fst).Nodup := by
    rw [List.map_map]
    exact grouping.distinct
  have unchanged : ∀ group ∈ groups, readGroup serde group.2 = group.2 := by
    intro group member
    have own := filter_flatten_of_mem distinct keyed (List.mem_map_of_mem member)
    rw [List.flatMap_map] at own
    exact own.symm.trans ((agree group.1).trans (grouping.group group member).symm)
  have groupOf : ∀ row ∈ rows, ∃ group ∈ groups, row ∈ group.2 := by
    intro row member
    obtain ⟨group, listed, named⟩ := List.mem_map.mp (grouping.complete row member)
    refine ⟨group, listed, ?_⟩
    rw [grouping.group group listed, List.mem_filter]
    exact ⟨member, decide_eq_true named.symm⟩
  constructor
  · intro row member
    obtain ⟨group, listed, held⟩ := groupOf row member
    have same := unchanged group listed
    rw [backs group listed] at same
    exact (Row.fromJson_toJson_eq_self serde row).mp (of_filterMap_eq_self same row held)
  · intro row member
    obtain ⟨group, listed, held⟩ := groupOf row member
    exact (inRange group listed).2 row held
  · intro workspace
    by_cases some : workspace ∈ groups.map Prod.fst
    · obtain ⟨group, listed, rfl⟩ := List.mem_map.mp some
      rw [← grouping.group group listed]
      exact (inRange group listed).1
    · -- A workspace without a group has no rows.
      have none : (rows.filter fun row => workspaceOf parseStr row = workspace) = [] := by
        rw [List.filter_eq_nil_iff]
        intro row member same
        exact some (of_decide_eq_true same ▸ grouping.complete row member)
      rw [none, List.length_nil]
      decide

end

/-- Acknowledged rows are delivered exactly when the envelope and the codec lose none of them. -/
theorem flush_delivers_appended_iff (serde : SerdeJson) (parseStr : String → Option Uuid)
    (answers : WalAnswers) (nowNs : Int64) (signal : SignalType) (rows : List (RowOf signal))
    (records : List WalRecord)
    (faithful : ∀ row ∈ rows, TextFaithful serde (Row.toJson serde row))
    (accepted : appendBatches serde parseStr answers nowNs signal rows = (records, .ok ())) :
    DeliversRows serde parseStr signal rows records ↔ Deliverable serde parseStr rows := by
  obtain ⟨texts, groups, grouping, appended⟩ := appendBatches_ok serde parseStr accepted
  have same : ∀ record ∈ records, record.signalType = signal := by
    intro record member
    have listed : (record.signalType, record.payload) ∈
        records.map fun record => (record.signalType, record.payload) :=
      List.mem_map_of_mem member
    rw [appended] at listed
    obtain ⟨group, _, equal⟩ := List.mem_map.mp listed
    exact (Prod.mk.inj equal).1.symm
  -- The payloads are the envelopes of the groups, so the sink reads the groups.
  have read : delivered serde records = groups.flatMap fun group => readGroup serde group.2 := by
    have payloads : records.map (fun record => record.payload) =
        groups.map fun group => encodeJsonRows (group.2.map (textOf serde)) := by
      have second := congrArg (List.map Prod.snd) appended
      rw [List.map_map, List.map_map] at second
      exact second
    have byPayload : (delivered serde records : List (RowOf signal)) =
        (records.map fun record => record.payload).flatMap fun payload =>
          (payloadRows payload).filterMap (readRow serde) := by
      rw [List.flatMap_map]
      rfl
    rw [byPayload, payloads, List.flatMap_map]
    rfl
  rw [deliversRows_iff serde same, read]
  constructor
  · exact deliverable_of_agree grouping texts faithful
  · intro deliverable workspace
    rw [readGroups_of_deliverable grouping texts faithful deliverable]
    exact grouping.filter_flatten workspace

/-- A gauge reading of a service in the nil workspace. -/
def gaugeMetric (value : F64) : Metric where
  metricName := "load"
  metricType := "GAUGE"
  timestamp := 0
  workspaceId := "00000000-0000-0000-0000-000000000000"
  value := value
  count := 1
  sum := value
  min := value
  max := value
  serviceName := "api"
  agentName := ""
  userId := ""
  sessionId := ""
  labels := "\x7b\x7d"

/-- The same reading as a row of its signal. -/
def gaugeRow (value : F64) : RowOf .metric := gaugeMetric value

/-- The bytes of the JSON text of a gauge reading, with the text of its value given. -/
def gaugeText (value : String) : Bytes :=
  ("\x7b\"metric_name\":\"load\",\"metric_type\":\"GAUGE\",\"timestamp\":0," ++
    "\"workspace_id\":\"00000000-0000-0000-0000-000000000000\",\"value\":" ++ value ++
    ",\"count\":1,\"sum\":" ++ value ++ ",\"min\":" ++ value ++ ",\"max\":" ++ value ++
    ",\"service_name\":\"api\",\"agent_name\":\"\",\"user_id\":\"\"," ++
    "\"session_id\":\"\",\"labels\":\"\x7b\x7d\"\x7d").toList.map fun char => char.toUInt8

/-- The codec on one tree, whose text is given, and on the double zero. -/
def codecOn (text : Bytes) (tree : Json) : SerdeJson where
  toVec := fun _ => .ok text
  fromSlice := fun bytes => if bytes = text then some tree else none
  writeF64 := fun _ => "0.0"
  readF64 := fun written => if written = "0.0" then some .zero else none
  intToF64 := fun _ => .zero

/-- The codec on a gauge reading. -/
def gaugeCodec (value : F64) (text : Bytes) : SerdeJson :=
  -- The tree of a row depends on the texts of doubles only.
  codecOn text (Row.toJson (codecOn [] .null) (gaugeRow value))

theorem codecOn_faithful (text : Bytes) (tree : Json) : TextFaithful (codecOn text tree) tree := by
  -- The codec of the example knows one text, and a cut of it is shorter.
  constructor
  · intro bytes written
    cases written
    exact if_pos rfl
  · intro bytes written kept cut
    cases written
    apply if_neg
    intro same
    have length := congrArg List.length same
    rw [List.length_take] at length
    omega

theorem gaugeCodec_faithful (value : F64) (text : Bytes) :
    ∀ row ∈ [gaugeRow value],
      TextFaithful (gaugeCodec value text) (Row.toJson (gaugeCodec value text) row) := by
  intro row member
  cases List.mem_singleton.mp member
  exact codecOn_faithful text _

/-- A WAL that accepts every append. -/
def acceptingWal : WalAnswers where
  checkFreeSpace := .ok ()
  append := fun index => .ok (UInt64.ofNat index)
  durable := fun _ => .ok ()

/-- The record that a request with one gauge reading is appended as. -/
def gaugeRecord (text : Bytes) : WalRecord where
  signalType := .metric
  workspaceId := Uuid.nil
  arrivalTimestampNs := 0
  assignedOffset := 0
  payload := encodeJsonRows [text]

theorem appendBatches_gauge (value : F64) (text : Bytes) :
    appendBatches (gaugeCodec value text) (fun _ => some Uuid.nil) acceptingWal 0 .metric
      [gaugeRow value] = ([gaugeRecord text], .ok ()) := rfl

theorem gaugeText_length : ∀ value ∈ ["0.0", "null"], (gaugeText value).length < 1000 := by
  intro value member
  rw [gaugeText, List.length_map, String.length_toList]
  simp only [String.length_append]
  revert value
  decide +kernel

theorem gaugeText_short {value : String} (member : value ∈ ["0.0", "null"]) :
    (gaugeText value).length < 2 ^ 32 :=
  Nat.lt_trans (gaugeText_length value member) (by decide)

theorem payloadRows_gauge {text : Bytes} (short : text.length < 2 ^ 32) :
    payloadRows (gaugeRecord text).payload = [text] := by
  have decoded : decodeBatch (gaugeRecord text).payload = .ok (some ⟨.jsonRowsV1, [text]⟩) :=
    decodeBatch_encodeJsonRows_of_lt (by simp) (by simpa using short)
  rw [payloadRows, decoded]

theorem zero_gauge_survives (text : Bytes) :
    Row.Survives (gaugeCodec .zero text) (gaugeRow .zero) :=
  ⟨trivial, trivial, trivial, trivial, rfl, trivial, rfl, rfl, rfl, trivial, trivial, trivial,
    trivial, trivial, trivial⟩

/-- A gauge reading is read as whatever comes back from its tree. -/
theorem readRow_gauge (value : F64) (text : Bytes) :
    (readRow (gaugeCodec value text) text : Option (RowOf .metric)) =
      Row.fromJson (gaugeCodec value text) (Row.toJson (gaugeCodec value text)
        (gaugeRow value)) :=
  readRow_textOf (gaugeCodec_faithful value text _ List.mem_cons_self) rfl

theorem gauge_deliverable :
    Deliverable (gaugeCodec .zero (gaugeText "0.0")) (fun _ => some Uuid.nil)
      [gaugeRow .zero] := by
  -- The one row is short and survives.
  constructor
  · intro row member
    cases List.mem_singleton.mp member
    exact zero_gauge_survives _
  · intro row member
    exact gaugeText_short (by simp)
  · intro workspace
    exact Nat.lt_of_le_of_lt (List.length_filter_le _ _) (by decide)

/-- A gauge reading of zero reaches the writer. -/
theorem flush_delivers_zero_gauge :
    DeliversRows (gaugeCodec .zero (gaugeText "0.0")) (fun _ => some Uuid.nil) .metric
      [gaugeRow .zero] [gaugeRecord (gaugeText "0.0")] :=
  (flush_delivers_appended_iff _ _ acceptingWal 0 _ _ _
    (gaugeCodec_faithful .zero (gaugeText "0.0"))
    (appendBatches_gauge .zero (gaugeText "0.0"))).mpr gauge_deliverable

/-- A gauge reading that is not a number is acknowledged, and then dropped without an error. -/
theorem flush_drops_nan_gauge :
    ¬ ∀ (serde : SerdeJson) (parseStr : String → Option Uuid) (answers : WalAnswers)
      (nowNs : Int64) (signal : SignalType) (rows : List (RowOf signal))
      (records : List WalRecord),
      (∀ row ∈ rows, TextFaithful serde (Row.toJson serde row)) →
      appendBatches serde parseStr answers nowNs signal rows = (records, .ok ()) →
      DeliversRows serde parseStr signal rows records := by
  intro claim
  have delivers := claim (gaugeCodec .nan (gaugeText "null")) (fun _ => some Uuid.nil)
    acceptingWal 0 .metric [gaugeRow .nan] [gaugeRecord (gaugeText "null")]
    (gaugeCodec_faithful .nan (gaugeText "null")) (appendBatches_gauge .nan (gaugeText "null"))
  -- The value was written as null, which is no double, so nothing at all is read back.
  have unread : (readRow (gaugeCodec .nan (gaugeText "null")) (gaugeText "null") :
      Option (RowOf .metric)) = none := by
    rw [readRow_gauge, Row.fromJson_toJson]
    rfl
  have nothing : (delivered (gaugeCodec .nan (gaugeText "null"))
      [gaugeRecord (gaugeText "null")] : List (RowOf .metric)) = [] := by
    rw [delivered, List.flatMap_singleton, payloadRows_gauge (gaugeText_short (by simp)),
      List.filterMap_cons_none unread, List.filterMap_nil]
  have agree := (deliversRows_iff _ (by simp [gaugeRecord])).mp delivers Uuid.nil
  rw [nothing] at agree
  cases agree

end Zradar.Runtime

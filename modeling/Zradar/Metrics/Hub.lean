import Zradar.Metrics.Encoding
import Zradar.Wal.Record

/-! The metrics of the pipeline, and the exposition that they are rendered as. -/

namespace Zradar

/-- The digits of a UUID are told from the dashes between them. -/
theorem Uuid.digits_of_toText (uuid : Uuid) :
    uuid.toText.toList.filter (fun char => char ≠ '-') = uuid.digits := by
  have digit : ∀ char ∈ uuid.digits, char ≠ '-' := by
    intro char listed
    obtain ⟨byte, _, inside⟩ := List.mem_flatMap.mp listed
    have hex {value : Nat} (small : value < 16) : Nat.digitChar value ≠ '-' := by
      interval_cases value <;> decide
    have bound := byte.toNat_lt
    simp only [List.mem_cons, List.not_mem_nil, or_false] at inside
    rcases inside with rfl | rfl
    · exact hex (by omega)
    · exact hex (by omega)
  have part (front length : Nat) :
      ((uuid.digits.drop front).take length).filter (fun char => char ≠ '-') =
        (uuid.digits.drop front).take length :=
    List.filter_eq_self.mpr fun char inside =>
      decide_eq_true (digit char (List.mem_of_mem_drop (List.mem_of_mem_take inside)))
  have first : (uuid.digits.take 8).filter (fun char => char ≠ '-') = uuid.digits.take 8 :=
    List.filter_eq_self.mpr fun char inside =>
      decide_eq_true (digit char (List.mem_of_mem_take inside))
  have last : (uuid.digits.drop 20).filter (fun char => char ≠ '-') = uuid.digits.drop 20 :=
    List.filter_eq_self.mpr fun char inside =>
      decide_eq_true (digit char (List.mem_of_mem_drop inside))
  have dash (chars : List Char) : ('-' :: chars).filter (fun char => char ≠ '-') =
      chars.filter (fun char => char ≠ '-') := by
    simp
  -- The groups are the digits, one after the other.
  have joined (digits : List Char) : digits.take 8 ++ ((digits.drop 8).take 4 ++
      ((digits.drop 12).take 4 ++ ((digits.drop 16).take 4 ++ digits.drop 20))) = digits := by
    have step (front more : Nat) : (digits.drop front).take more ++ digits.drop (front + more) =
        digits.drop front := by
      rw [← List.drop_drop, List.take_append_drop]
    rw [step 16 4, step 12 4, step 8 4, List.take_append_drop]
  simp only [toText, String.toList_ofList, List.filter_append, dash, part, first, last]
  exact joined uuid.digits

/-- The text of a UUID determines it. -/
theorem Uuid.toText_injective : Function.Injective Uuid.toText := by
  intro first second same
  have digits : first.digits = second.digits := by
    rw [← digits_of_toText, same, digits_of_toText]
  have hex {value other : Nat} (small : value < 16) (bound : other < 16)
      (equal : Nat.digitChar value = Nat.digitChar other) : value = other := by
    rw [← hexValue_digitChar small, equal, hexValue_digitChar bound]
  have bytes (left right : Bytes)
      (equal : (left.flatMap fun byte =>
          [Nat.digitChar (byte.toNat / 16), Nat.digitChar (byte.toNat % 16)]) =
        right.flatMap fun byte =>
          [Nat.digitChar (byte.toNat / 16), Nat.digitChar (byte.toNat % 16)]) : left = right := by
    -- Every byte has a pair of digits of its own.
    induction left generalizing right with
    | nil =>
      cases right with
      | nil => rfl
      | cons byte right => cases equal
    | cons byte left ih =>
      cases right with
      | nil => cases equal
      | cons other right =>
        simp only [List.flatMap_cons, List.cons_append, List.nil_append, List.cons.injEq] at equal
        obtain ⟨high, low, rest⟩ := equal
        have bound := byte.toNat_lt
        have otherBound := other.toNat_lt
        have highs := hex (by omega) (by omega) high
        have lows := hex (by omega) (by omega) low
        have value : byte = other := UInt8.toNat_inj.mp (by omega)
        rw [value, ih right rest]
  obtain ⟨left, leftSized⟩ := first
  obtain ⟨right, rightSized⟩ := second
  have same := bytes left right digits
  subst same
  rfl

namespace Metrics

open Exposition

/-- The kinds of telemetry, as a label. -/
inductive Signal where
  | traces
  | metrics
  | logs
  | scores
  deriving DecidableEq

namespace Signal

def all : List Signal := [traces, metrics, logs, scores]

def asStr : Signal → String
  | traces => "traces"
  | metrics => "metrics"
  | logs => "logs"
  | scores => "scores"

end Signal

/-- Why the guards rejected something, as a label. -/
inductive RejectReason where
  | auth
  | circuitBreaker
  | policy
  | rateLimit
  | parserCap
  | internal
  deriving DecidableEq

namespace RejectReason

def all : List RejectReason := [auth, circuitBreaker, policy, rateLimit, parserCap, internal]

def asStr : RejectReason → String
  | auth => "auth"
  | circuitBreaker => "circuit_breaker"
  | policy => "policy"
  | rateLimit => "rate_limit"
  | parserCap => "parser_cap"
  | internal => "internal"

end RejectReason

/-- What opened the circuit breaker, as a label. -/
inductive BreakerCause where
  | disk
  | memory
  | queue
  deriving DecidableEq

namespace BreakerCause

def all : List BreakerCause := [disk, memory, queue]

def asStr : BreakerCause → String
  | disk => "disk"
  | memory => "memory"
  | queue => "queue"

end BreakerCause

/-- What is read of the metrics of the whole system. -/
structure IngestMetrics where
  requests : Signal → UInt64
  rejections : RejectReason → UInt64
  rowsAccepted : Signal → UInt64
  bytesIngested : Signal → UInt64
  ackLatency : Signal → HistogramReading latencySeconds
  convertLatency : Signal → HistogramReading latencySeconds
  visibilityLag : Signal → HistogramReading latencySeconds
  flushRecords : Signal → UInt64
  parquetFiles : Signal → UInt64
  parquetFileBytes : HistogramReading sizeBytes
  bufferRecords : F64
  bufferBytes : F64
  queueDepth : F64
  cbState : F64
  cbTrips : BreakerCause → UInt64
  diskUsageRatio : F64
  convertSkipped : UInt64
  timestampAnomalies : UInt64
  dropped : UInt64

namespace IngestMetrics

variable (metrics : IngestMetrics)

/-- The calls of the encoder for the metrics of one signal. -/
def signalEmissions (signal : Signal) : List Emission :=
  let labels := [("signal", signal.asStr)]
  [.counter "zradar_ingest_requests_total" "OTLP export requests received."
      (metrics.requests signal) labels,
    .counter "zradar_ingest_rows_accepted_total" "Telemetry rows accepted after the guard chain."
      (metrics.rowsAccepted signal) labels,
    .counter "zradar_ingest_bytes_total" "Telemetry bytes accepted."
      (metrics.bytesIngested signal) labels,
    .histogram "zradar_ingest_ack_latency_seconds" "Receive→ack latency (includes WAL fsync)."
      (metrics.ackLatency signal) labels,
    .histogram "zradar_ingest_convert_duration_seconds" "OTLP→domain conversion latency."
      (metrics.convertLatency signal) labels,
    .histogram "zradar_ingest_visibility_lag_seconds" "Ack→queryable lag (async WAL flush)."
      (metrics.visibilityLag signal) labels,
    .counter "zradar_storage_flush_records_total" "Records flushed from WAL to Parquet."
      (metrics.flushRecords signal) labels,
    .counter "zradar_storage_parquet_files_total" "Parquet files written."
      (metrics.parquetFiles signal) labels]

/-- The call of the encoder for the rejections of one kind. -/
def rejectionEmission (reason : RejectReason) : Emission :=
  .counter "zradar_ingest_rejections_total" "Requests/rows rejected by the guard chain."
    (metrics.rejections reason) [("reason", reason.asStr)]

/-- The call of the encoder for the trips of one cause. -/
def tripEmission (cause : BreakerCause) : Emission :=
  .counter "zradar_saturation_circuit_breaker_trips_total" "Circuit-breaker trips by cause."
    (metrics.cbTrips cause) [("cause", cause.asStr)]

/-- The calls of the encoder for the metrics without labels. -/
def plainEmissions : List Emission :=
  [.histogram "zradar_storage_parquet_file_bytes" "Compressed Parquet file size distribution."
      metrics.parquetFileBytes [],
    .gauge "zradar_storage_buffer_records" "Rows buffered awaiting flush."
      metrics.bufferRecords [],
    .gauge "zradar_storage_buffer_bytes" "Bytes buffered awaiting flush." metrics.bufferBytes [],
    .gauge "zradar_saturation_queue_depth" "Pending write-buffer record count."
      metrics.queueDepth [],
    .gauge "zradar_saturation_circuit_breaker_state" "Circuit-breaker state (0=closed, 1=open)."
      metrics.cbState [],
    .gauge "zradar_saturation_disk_usage_ratio" "Parquet data dir disk usage ratio (0..1)."
      metrics.diskUsageRatio [],
    .counter "zradar_correctness_convert_skipped_total"
      "Malformed records skipped during conversion." metrics.convertSkipped [],
    .counter "zradar_correctness_timestamp_anomalies_total"
      "Spans with anomalous timestamps (end<start, future, zero-duration)."
      metrics.timestampAnomalies [],
    .counter "zradar_correctness_dropped_total"
      "Unexpected drops between accept and persist (data-loss signal)." metrics.dropped []]

/-- The calls of the encoder for the metrics of the system. -/
def emissions : List Emission :=
  Signal.all.flatMap metrics.signalEmissions ++ RejectReason.all.map metrics.rejectionEmission ++
    BreakerCause.all.map metrics.tripEmission ++ metrics.plainEmissions

end IngestMetrics

/-- Write the metrics of the system. -/
def IngestMetrics.collect (metrics : IngestMetrics) (display : DisplayF64)
    (encoder : PromEncoder) : PromEncoder :=
  metrics.emissions.foldl (PromEncoder.emit display) encoder

/-- What is read of the metrics of a workspace. -/
structure WorkspaceMetrics where
  rowsAccepted : Signal → UInt64
  bytesIngested : Signal → UInt64
  rejections : RejectReason → UInt64
  ackLatency : Signal → HistogramReading latencySeconds
  visibilityLag : Signal → HistogramReading latencySeconds

namespace WorkspaceMetrics

variable (metrics : WorkspaceMetrics) (workspace : String)

/-- The calls of the encoder for the metrics of one signal in a workspace. -/
def signalEmissions (signal : Signal) : List Emission :=
  let labels := [("workspace", workspace), ("signal", signal.asStr)]
  [.counter "zradar_ingest_ws_rows_accepted_total" "Rows accepted, per observed workspace."
      (metrics.rowsAccepted signal) labels,
    .counter "zradar_ingest_ws_bytes_total" "Bytes accepted, per observed workspace."
      (metrics.bytesIngested signal) labels,
    .histogram "zradar_ingest_ws_ack_latency_seconds" "Ack latency, per observed workspace."
      (metrics.ackLatency signal) labels,
    .histogram "zradar_ingest_ws_visibility_lag_seconds"
      "Ack→queryable lag, per observed workspace." (metrics.visibilityLag signal) labels]

/-- The call of the encoder for the rejections of one kind in a workspace. -/
def rejectionEmission (reason : RejectReason) : Emission :=
  .counter "zradar_ingest_ws_rejections_total" "Rejections, per observed workspace."
    (metrics.rejections reason) [("workspace", workspace), ("reason", reason.asStr)]

/-- The calls of the encoder for the metrics of a workspace. -/
def emissions : List Emission :=
  Signal.all.flatMap (metrics.signalEmissions workspace) ++
    RejectReason.all.map (metrics.rejectionEmission workspace)

end WorkspaceMetrics

/-- Write the metrics of a workspace. -/
def WorkspaceMetrics.collect (metrics : WorkspaceMetrics) (display : DisplayF64)
    (encoder : PromEncoder) (workspace : String) : PromEncoder :=
  (metrics.emissions workspace).foldl (PromEncoder.emit display) encoder

/-- What is read of all metrics, where each workspace has one entry. -/
structure MetricsHub where
  system : IngestMetrics
  workspaces : List (WorkspaceId × WorkspaceMetrics)
  distinct : (workspaces.map Prod.fst).Nodup

namespace MetricsHub

/-- Render all metrics as a text exposition. -/
def render (hub : MetricsHub) (display : DisplayF64) : String :=
  let encoder := hub.system.collect display PromEncoder.new
  let encoder := hub.workspaces.foldl
    (fun encoder entry => entry.2.collect display encoder entry.1.toText) encoder
  encoder.intoString

/-- All calls of the encoder. -/
def emissions (hub : MetricsHub) : List Emission :=
  hub.system.emissions ++
    hub.workspaces.flatMap fun entry => entry.2.emissions entry.1.toText

end MetricsHub

/-- What a call describes, and the labels that it writes. -/
def Emission.header (emission : Emission) : Family × Labels := (emission.family, emission.labels)

/-- The metrics of the system. -/
def systemFamilies : List Family := [
  ⟨"zradar_ingest_requests_total", "OTLP export requests received.", "counter"⟩,
  ⟨"zradar_ingest_rows_accepted_total", "Telemetry rows accepted after the guard chain.",
    "counter"⟩,
  ⟨"zradar_ingest_bytes_total", "Telemetry bytes accepted.", "counter"⟩,
  ⟨"zradar_ingest_ack_latency_seconds", "Receive→ack latency (includes WAL fsync).",
    "histogram"⟩,
  ⟨"zradar_ingest_convert_duration_seconds", "OTLP→domain conversion latency.", "histogram"⟩,
  ⟨"zradar_ingest_visibility_lag_seconds", "Ack→queryable lag (async WAL flush).", "histogram"⟩,
  ⟨"zradar_storage_flush_records_total", "Records flushed from WAL to Parquet.", "counter"⟩,
  ⟨"zradar_storage_parquet_files_total", "Parquet files written.", "counter"⟩,
  ⟨"zradar_ingest_rejections_total", "Requests/rows rejected by the guard chain.", "counter"⟩,
  ⟨"zradar_saturation_circuit_breaker_trips_total", "Circuit-breaker trips by cause.", "counter"⟩,
  ⟨"zradar_storage_parquet_file_bytes", "Compressed Parquet file size distribution.",
    "histogram"⟩,
  ⟨"zradar_storage_buffer_records", "Rows buffered awaiting flush.", "gauge"⟩,
  ⟨"zradar_storage_buffer_bytes", "Bytes buffered awaiting flush.", "gauge"⟩,
  ⟨"zradar_saturation_queue_depth", "Pending write-buffer record count.", "gauge"⟩,
  ⟨"zradar_saturation_circuit_breaker_state", "Circuit-breaker state (0=closed, 1=open).",
    "gauge"⟩,
  ⟨"zradar_saturation_disk_usage_ratio", "Parquet data dir disk usage ratio (0..1).", "gauge"⟩,
  ⟨"zradar_correctness_convert_skipped_total", "Malformed records skipped during conversion.",
    "counter"⟩,
  ⟨"zradar_correctness_timestamp_anomalies_total",
    "Spans with anomalous timestamps (end<start, future, zero-duration).", "counter"⟩,
  ⟨"zradar_correctness_dropped_total",
    "Unexpected drops between accept and persist (data-loss signal).", "counter"⟩]

/-- The metrics of workspaces. -/
def workspaceFamilies : List Family := [
  ⟨"zradar_ingest_ws_rows_accepted_total", "Rows accepted, per observed workspace.", "counter"⟩,
  ⟨"zradar_ingest_ws_bytes_total", "Bytes accepted, per observed workspace.", "counter"⟩,
  ⟨"zradar_ingest_ws_ack_latency_seconds", "Ack latency, per observed workspace.", "histogram"⟩,
  ⟨"zradar_ingest_ws_visibility_lag_seconds", "Ack→queryable lag, per observed workspace.",
    "histogram"⟩,
  ⟨"zradar_ingest_ws_rejections_total", "Rejections, per observed workspace.", "counter"⟩]

/-- All metrics. -/
def hubFamilies : List Family := systemFamilies ++ workspaceFamilies

set_option maxRecDepth 4000 in
/-- No two metrics of the pipeline have a name in common. -/
theorem hubFamilies_catalogued : Catalogued hubFamilies where
  names := by decide +kernel
  helps := by decide +kernel
  apart := by decide +kernel

theorem length_unobserved (bounds : Bounds) :
    (List.replicate (bounds.values.length + 1) (0 : UInt64)).length = bounds.values.length + 1 :=
  List.length_replicate

/-- A histogram that nothing was observed in. -/
def HistogramReading.new (bounds : Bounds) : HistogramReading bounds where
  counts := List.replicate (bounds.values.length + 1) 0
  sum := F64.zero
  sized := length_unobserved bounds

/-- Metrics of the system that nothing was recorded in. -/
def IngestMetrics.new : IngestMetrics where
  requests := fun _ => 0
  rejections := fun _ => 0
  rowsAccepted := fun _ => 0
  bytesIngested := fun _ => 0
  ackLatency := fun _ => .new latencySeconds
  convertLatency := fun _ => .new latencySeconds
  visibilityLag := fun _ => .new latencySeconds
  flushRecords := fun _ => 0
  parquetFiles := fun _ => 0
  parquetFileBytes := .new sizeBytes
  bufferRecords := F64.zero
  bufferBytes := F64.zero
  queueDepth := F64.zero
  cbState := F64.zero
  cbTrips := fun _ => 0
  diskUsageRatio := F64.zero
  convertSkipped := 0
  timestampAnomalies := 0
  dropped := 0

/-- Metrics of a workspace that nothing was recorded in. -/
def WorkspaceMetrics.new : WorkspaceMetrics where
  rowsAccepted := fun _ => 0
  bytesIngested := fun _ => 0
  rejections := fun _ => 0
  ackLatency := fun _ => .new latencySeconds
  visibilityLag := fun _ => .new latencySeconds

/-- What is written does not depend on what was recorded. -/
theorem IngestMetrics.headers (metrics : IngestMetrics) :
    metrics.emissions.map Emission.header = IngestMetrics.new.emissions.map Emission.header := rfl

/-- What is written for a workspace, but for the label with its name. -/
def workspaceHeaders : List (Family × Labels) :=
  ((WorkspaceMetrics.new.emissions "").map Emission.header).map
    fun header => (header.1, header.2.tail)

/-- What is written for workspaces differs in the label with the name. -/
theorem WorkspaceMetrics.headers (metrics : WorkspaceMetrics) (workspace : String) :
    (metrics.emissions workspace).map Emission.header =
      workspaceHeaders.map fun header => (header.1, ("workspace", workspace) :: header.2) := rfl

/-- Two calls can be told apart by what they write. -/
def Told (first second : Family × Labels) : Prop :=
  first.1.name = second.1.name → first.2 ≠ second.2

instance (first second : Family × Labels) : Decidable (Told first second) :=
  inferInstanceAs (Decidable (_ → _))

/-- A call is for a metric of a list, under proper labels. -/
def Proper (families : List Family) (header : Family × Labels) : Prop :=
  header.1 ∈ families ∧ ∀ label ∈ header.2, IsName label.1.toList

instance (families : List Family) (header : Family × Labels) : Decidable (Proper families header) :=
  inferInstanceAs (Decidable (_ ∧ _))

set_option maxRecDepth 4000 in
theorem systemHeaders_proper :
    ∀ header ∈ IngestMetrics.new.emissions.map Emission.header, Proper systemFamilies header := by
  decide +kernel

set_option maxRecDepth 4000 in
theorem systemHeaders_told :
    (IngestMetrics.new.emissions.map Emission.header).Pairwise Told := by
  decide +kernel

theorem workspaceHeaders_proper :
    ∀ header ∈ workspaceHeaders, Proper workspaceFamilies header := by
  decide +kernel

theorem workspaceHeaders_told : workspaceHeaders.Pairwise Told := by
  decide +kernel

/-- No metric of the system is one of workspaces. -/
theorem systemFamilies_apart :
    ∀ first ∈ systemFamilies, ∀ second ∈ workspaceFamilies, first.name ≠ second.name := by
  decide +kernel

namespace MetricsHub

/-- What is written for a workspace. -/
def entryHeaders (entry : WorkspaceId × WorkspaceMetrics) : List (Family × Labels) :=
  workspaceHeaders.map fun header => (header.1, ("workspace", entry.1.toText) :: header.2)

/-- What is written for the system and for every workspace. -/
theorem headers (hub : MetricsHub) : hub.emissions.map Emission.header =
    IngestMetrics.new.emissions.map Emission.header ++ hub.workspaces.flatMap entryHeaders := by
  rw [emissions, List.map_append, hub.system.headers, List.map_flatMap]
  simp only [WorkspaceMetrics.headers]
  rfl

theorem entryHeaders_proper (entry : WorkspaceId × WorkspaceMetrics) :
    ∀ header ∈ entryHeaders entry, Proper workspaceFamilies header := by
  intro header listed
  obtain ⟨source, among, rfl⟩ := List.mem_map.mp listed
  obtain ⟨inFamilies, names⟩ := workspaceHeaders_proper source among
  have isName : IsName "workspace".toList := by decide
  exact ⟨inFamilies, List.forall_mem_cons.mpr ⟨isName, names⟩⟩

/-- Everything that is written is a metric of the catalogue under proper labels. -/
theorem headers_proper (hub : MetricsHub) :
    ∀ header ∈ hub.emissions.map Emission.header, Proper hubFamilies header := by
  intro header listed
  rw [headers] at listed
  rcases List.mem_append.mp listed with system | workspace
  · obtain ⟨inFamilies, names⟩ := systemHeaders_proper header system
    exact ⟨List.mem_append_left _ inFamilies, names⟩
  · obtain ⟨entry, _, inside⟩ := List.mem_flatMap.mp workspace
    obtain ⟨inFamilies, names⟩ := entryHeaders_proper entry header inside
    exact ⟨List.mem_append_right _ inFamilies, names⟩

/-- Everything that is written can be told apart. -/
theorem headers_told (hub : MetricsHub) : (hub.emissions.map Emission.header).Pairwise Told := by
  rw [headers, List.pairwise_append]
  refine ⟨systemHeaders_told, List.pairwise_flatMap.mpr ⟨?_, ?_⟩, ?_⟩
  · -- In one workspace, by the metric or by the other label.
    intro entry _
    refine List.pairwise_map.mpr (workspaceHeaders_told.imp ?_)
    intro first second told name same
    exact told name (List.cons.inj same).2
  · -- In two workspaces, by the label with the name.
    refine (List.pairwise_map.mp hub.distinct).imp ?_
    intro first second differ one inFirst other inSecond _ same
    obtain ⟨_, _, rfl⟩ := List.mem_map.mp inFirst
    obtain ⟨_, _, rfl⟩ := List.mem_map.mp inSecond
    have label := (List.cons.inj same).1
    exact differ (Uuid.toText_injective (Prod.mk.inj label).2)
  · -- In the system and a workspace, by the metric.
    intro first system second workspace name
    obtain ⟨entry, _, inside⟩ := List.mem_flatMap.mp workspace
    have apart := systemFamilies_apart first.1 (systemHeaders_proper first system).1
      second.1 (entryHeaders_proper entry second inside).1
    exact absurd name apart

/-- The rendered text is what all calls write. -/
theorem render_eq (hub : MetricsHub) (display : DisplayF64) :
    hub.render display =
      String.ofList ((linesOf display [] hub.emissions).flatMap Line.chars) := by
  have folded (entries : List (WorkspaceId × WorkspaceMetrics)) (encoder : PromEncoder) :
      entries.foldl (fun encoder entry => entry.2.collect display encoder entry.1.toText) encoder =
        (entries.flatMap fun entry => entry.2.emissions entry.1.toText).foldl
          (PromEncoder.emit display) encoder := by
    induction entries generalizing encoder with
    | nil => rfl
    | cons entry entries ih =>
      rw [List.foldl_cons, ih, List.flatMap_cons, List.foldl_append]
      rfl
  unfold render
  simp only [folded]
  rw [PromEncoder.intoString, IngestMetrics.collect, ← List.foldl_append]
  exact congrArg String.ofList (PromEncoder.emits_out display hub.emissions PromEncoder.new)

end MetricsHub

end Metrics

end Zradar

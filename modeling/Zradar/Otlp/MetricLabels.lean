import Zradar.Otlp.ContentColumns
import Zradar.Otlp.RowCaps

/-! The labels of metrics, against the JSON that spans and logs have for the same attributes. -/

namespace Zradar.Otlp

/-- The values that labels have no text for: lists of either kind, and bytes. -/
def AnyValue.isLost (value : AnyValue) : Bool :=
  match value.value with
  | some (.arrayValue _) | some (.kvlistValue _) | some (.bytesValue _) => true
  | _ => false

/-- The values that are null in JSON: none, an index, or a double that is not finite. -/
def AnyValue.isNull (value : AnyValue) : Bool :=
  match value.value with
  | none | some (.stringValueStrindex _) => true
  | some (.doubleValue (.finite _)) => false
  | some (.doubleValue _) => true
  | _ => false

/-- The attributes, each with the value that it may have. -/
def occurrences (attributes : List KeyValue) : List (String × Option AnyValue) :=
  attributes.map fun pair => (pair.key, pair.value)

/-- The label of a metric for an attribute. -/
def labelOf (env : RowEnv) (value : Option AnyValue) : Json :=
  metricValueToJson env (value.bind AnyValue.value)

/-- Under each key the last attribute has a value that is written, or null stands for it anyway. -/
structure LabelsKept (attributes : List KeyValue) : Prop where
  written : ∀ key value, lastValueOf (occurrences attributes) key = some (some value) →
    value.isLost = false
  missing : ∀ key, lastValueOf (occurrences attributes) key = some none →
    ∃ value, lastValueOf (pairsOf attributes) key = some value ∧ value.isNull = true

section

variable {env : RowEnv}

/-- A value that is not lost has its JSON as a label. -/
theorem metricValue_eq {value : AnyValue} (kept : value.isLost = false) :
    metricValueToJson env value.value = anyValueToJson env.spans.serde value := by
  cases value with
  | mk value =>
    cases value with
    | none => rfl
    | some value => cases value <;> first | rfl | cases kept

/-- A value that is lost is null as a label, and something else in JSON. -/
theorem outline_metricValue_ne {value : AnyValue} (lost : value.isLost = true) :
    (metricValueToJson env value.value).outline ≠
      (anyValueToJson env.spans.serde value).outline := by
  -- The kinds that are lost are arrays, lists of pairs and bytes.
  cases value with
  | mk value =>
    cases value with
    | none => cases lost
    | some value =>
      cases value with
      | arrayValue values => exact Json.noConfusion
      | kvlistValue pairs => exact Json.noConfusion
      | bytesValue bytes => exact Json.noConfusion
      | _ => cases lost

theorem anyValueToJson_eq_null {serde : SerdeJson} {value : AnyValue} (null : value.isNull = true) :
    anyValueToJson serde value = .null := by
  cases value with
  | mk value =>
    cases value with
    | none => rfl
    | some value =>
      cases value with
      | doubleValue value => cases value <;> first | rfl | cases null
      | _ => first | rfl | cases null

/-- Any other value is something else than null. -/
theorem outline_ne_null {serde : SerdeJson} {value : AnyValue} (filled : value.isNull = false) :
    Json.null.outline ≠ (anyValueToJson serde value).outline := by
  cases value with
  | mk value =>
    cases value with
    | none => cases filled
    | some value =>
      cases value with
      | doubleValue value => cases value <;> first | exact Json.noConfusion | cases filled
      | _ => first | exact Json.noConfusion | cases filled

/-- Attributes without a value do not hide those that have one. -/
theorem lastValueOf_pairsOf (attributes : List KeyValue) (key : String) :
    (∀ value, lastValueOf (occurrences attributes) key = some (some value) →
        lastValueOf (pairsOf attributes) key = some value) ∧
      (lastValueOf (occurrences attributes) key = none →
        lastValueOf (pairsOf attributes) key = none) := by
  unfold lastValueOf occurrences pairsOf
  rw [← List.map_reverse, ← List.filterMap_reverse]
  -- The induction goes from the last attribute to the first.
  induction attributes.reverse with
  | nil => simp [valueOf]
  | cons pair pairs ih =>
    rw [List.map_cons, List.filterMap_cons, valueOf_cons]
    by_cases here : pair.key = key
    · cases given : pair.value with
      | none => simp [here]
      | some value => simp [here, valueOf_cons]
    · cases given : pair.value with
      | none => simpa [here] using ih
      | some value => simpa [here, valueOf_cons] using ih

/-- Labels are canonical trees, as other values are. -/
theorem metricValue_canonical (fractions : WritesFractions env.spans.serde) (value : Option Value) :
    (metricValueToJson env value).Canonical := by
  cases value with
  | none => trivial
  | some value =>
    cases value with
    | doubleValue value => exact toJson_canonical fractions value
    | _ => trivial

/-- Where labels are kept, the two maps have the same value under each key. -/
theorem labels_eq_of_kept {attributes : List KeyValue} (kept : LabelsKept attributes) (key : String) :
    (lastValueOf (occurrences attributes) key).map (labelOf env) =
      (lastValueOf (pairsOf attributes) key).map (anyValueToJson env.spans.serde) := by
  -- The last occurrence of the key may have no value; then JSON has null from a pair before it.
  obtain ⟨present, absent⟩ := lastValueOf_pairsOf attributes key
  cases last : lastValueOf (occurrences attributes) key with
  | none => rw [absent last]; rfl
  | some value =>
    cases value with
    | none =>
      obtain ⟨value, found, null⟩ := kept.missing key last
      rw [found, Option.map_some, Option.map_some, anyValueToJson_eq_null null]
      rfl
    | some value =>
      rw [present value last, Option.map_some, Option.map_some, ← metricValue_eq (kept.written key value last)]
      rfl

/-- Where the two maps have the same outlines, the labels are kept. -/
theorem kept_of_outlines {attributes : List KeyValue}
    (same : ∀ key, ((lastValueOf (occurrences attributes) key).map fun value => (labelOf env value).outline) =
      (lastValueOf (pairsOf attributes) key).map fun value =>
        (anyValueToJson env.spans.serde value).outline) : LabelsKept attributes := by
  -- Outlines tell null from everything else, and a lost value from its JSON.
  constructor
  · intro key value last
    have values := same key
    rw [last, (lastValueOf_pairsOf attributes key).1 value last] at values
    by_contra lost
    exact outline_metricValue_ne (by simpa using lost) (Option.some.inj values)
  · intro key last
    have values := same key
    rw [last] at values
    cases found : lastValueOf (pairsOf attributes) key with
    | none =>
      rw [found] at values
      cases values
    | some value =>
      rw [found] at values
      refine ⟨value, rfl, ?_⟩
      by_contra filled
      exact outline_ne_null (by simpa using filled) (Option.some.inj values)

/-- The map that the labels are written from. -/
theorem metricAttrsToJson_eq (attributes : List KeyValue) :
    metricAttrsToJson env attributes = (Json.obj (sortedMap ((occurrences attributes).map fun pair =>
      (pair.1, labelOf env pair.2)))).text := by
  rw [metricAttrsToJson, occurrences, List.map_map]
  rfl

/-- The map that the attributes of spans and logs are written from. -/
theorem attrsToJson_eq (attributes : List KeyValue) :
    attrsToJson env attributes = (Json.obj (sortedMap ((pairsOf attributes).map fun pair =>
      (pair.1, anyValueToJson env.spans.serde pair.2)))).text := by
  have all : (attributes.filter fun _ => !false) = attributes := List.filter_eq_self.mpr fun _ _ => rfl
  rw [attrsToJson, attrsToJsonFiltered_eq, all, pairsToJson_eq]

/-- The labels of a metric are the JSON that spans and logs have for the same attributes exactly if
the last value of each key is kept. -/
theorem labels_eq_iff (fractions : WritesFractions env.spans.serde) (attributes : List KeyValue) :
    metricAttrsToJson env attributes = attrsToJson env attributes ↔ LabelsKept attributes := by
  rw [metricAttrsToJson_eq, attrsToJson_eq]
  constructor
  · intro same
    have labels : ∀ pair ∈ (occurrences attributes).map fun pair => (pair.1, labelOf env pair.2),
        pair.2.Canonical := by
      intro pair member
      obtain ⟨_, _, rfl⟩ := List.mem_map.mp member
      exact metricValue_canonical fractions _
    have values : ∀ pair ∈ (pairsOf attributes).map fun pair =>
        (pair.1, anyValueToJson env.spans.serde pair.2), pair.2.Canonical := by
      intro pair member
      obtain ⟨_, _, rfl⟩ := List.mem_map.mp member
      exact anyValueToJson_canonical fractions _
    -- Equal texts have equal outlines, key by key.
    have outlines := Json.outline_eq_of_text (obj_canonical labels) (obj_canonical values) same
    refine @kept_of_outlines env attributes fun key => ?_
    have under := Json.outline_valueOf outlines key
    rw [valueOf_sortedMap, valueOf_sortedMap,
      lastValueOf_mapEntries fun _ => labelOf env,
      lastValueOf_mapEntries fun _ => anyValueToJson env.spans.serde, Option.map_map,
      Option.map_map] at under
    exact under
  · intro kept
    congr 2
    refine sortedMap_congr fun key => ?_
    rw [lastValueOf_mapEntries fun _ => labelOf env,
      lastValueOf_mapEntries fun _ => anyValueToJson env.spans.serde]
    exact labels_eq_of_kept kept key

end

/-- An attribute with a value. -/
def attributeOf (key : String) (value : Value) : KeyValue := ⟨key, some (.mk (some value))⟩

theorem text_label_kept :
    metricAttrsToJson plainRowEnv [attributeOf "zone" (.stringValue "a")] =
        attrsToJson plainRowEnv [attributeOf "zone" (.stringValue "a")] ↔
      LabelsKept [attributeOf "zone" (.stringValue "a")] :=
  labels_eq_iff plainSerde_fractions _

/-- An empty list is null in the labels of a metric, and bytes or no value at all differ as well. -/
theorem labels_differ :
    metricAttrsToJson plainRowEnv [attributeOf "tags" (.arrayValue [])] ≠
        attrsToJson plainRowEnv [attributeOf "tags" (.arrayValue [])] ∧
      metricAttrsToJson plainRowEnv [attributeOf "raw" (.bytesValue [])] ≠
        attrsToJson plainRowEnv [attributeOf "raw" (.bytesValue [])] ∧
      metricAttrsToJson plainRowEnv [⟨"none", none⟩] ≠ attrsToJson plainRowEnv [⟨"none", none⟩] := by
  refine ⟨?_, ?_, ?_⟩
  all_goals decide

end Zradar.Otlp

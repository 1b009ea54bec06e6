import Zradar.Otlp.AttributeJson

/-! The attributes streamed to JSON, entry by entry, against the map that is built from them. -/

namespace Zradar.Otlp

section

variable (serde : SerdeJson)

/-- Write a double, where those that are not finite are written as null. -/
def serializeF64 : F64 → List Char
  | .finite value => (serde.writeF64 value).toList
  | .posInf | .negInf | .nan => "null".toList

/-- What is sorted are values of the pairs, which are smaller than the pairs. -/
theorem sizeOf_entry_lt {pairs : List KeyValue} {entry : String × AnyValue}
    (member : entry ∈ sortedMap (pairsOf pairs)) : sizeOf entry.2 < sizeOf pairs := by
  -- Sorting brings no new entries, and each entry is the value inside of a pair.
  obtain ⟨pair, inside, found⟩ := List.mem_filterMap.mp (mem_sortedMap member)
  have smaller := List.sizeOf_lt_of_mem inside
  cases pair with
  | mk key value =>
    obtain ⟨given, isValue, rfl⟩ := Option.map_eq_some_iff.mp found
    have same : value = some given := isValue
    simp only [same, KeyValue.mk.sizeOf_spec, Option.some.sizeOf_spec] at smaller
    dsimp only
    omega

/-- Stream a value, where a list of pairs is sorted before any of them is written. -/
def anyValueSer : AnyValue → List Char
  | .mk none => "null".toList
  | .mk (some (.stringValue text)) => quoted text
  | .mk (some (.boolValue value)) => (if value then "true" else "false").toList
  | .mk (some (.intValue value)) => value.toInt.repr.toList
  | .mk (some (.doubleValue value)) => serializeF64 serde value
  | .mk (some (.arrayValue values)) =>
    arrayChars (values.attach.map fun value => anyValueSer value.1)
  | .mk (some (.kvlistValue pairs)) =>
    objectChars ((sortedMap (pairsOf pairs)).attach.map fun entry =>
      (entry.1.1, anyValueSer entry.1.2))
  | .mk (some (.bytesValue bytes)) => quoted (hexEncode bytes)
  | .mk (some (.stringValueStrindex _)) => "null".toList
termination_by value => sizeOf value
decreasing_by
  · have smaller := List.sizeOf_lt_of_mem value.2
    simp only [AnyValue.mk.sizeOf_spec, Option.some.sizeOf_spec, Value.arrayValue.sizeOf_spec]
    omega
  · have smaller := sizeOf_entry_lt entry.2
    simp only [AnyValue.mk.sizeOf_spec, Option.some.sizeOf_spec, Value.kvlistValue.sizeOf_spec]
    omega

/-- Stream attributes, without those that are to be skipped. -/
def attrsSer (attributes : List KeyValue) (skip : String → Bool) : String :=
  .ofList (objectChars ((sortedMap (pairsOf (attributes.filter fun pair => !skip pair.key))).map
    fun entry => (entry.1, anyValueSer serde entry.2)))

/-- Build the map of the attributes that are not to be skipped, and write it. -/
def referenceJson (attributes : List KeyValue) (skip : String → Bool) : String :=
  (Json.obj (sortedMap (pairsToJson serde (attributes.filter fun pair => !skip pair.key)))).text

end

theorem serializeF64_eq (serde : SerdeJson) (value : F64) :
    serializeF64 serde value = (value.toJson serde).chars := by
  cases value <;> rfl

theorem valuesToJson_eq (serde : SerdeJson) (values : List AnyValue) :
    valuesToJson serde values = values.map (anyValueToJson serde) := by
  induction values with
  | nil => rfl
  | cons value values ih => rw [valuesToJson, ih, List.map_cons]

/-- The entries of a map are converted after they are sorted or before. -/
theorem map_entries (serde : SerdeJson) (pairs : List KeyValue) :
    (sortedMap (pairsOf pairs)).map (fun entry => (entry.1, (anyValueToJson serde entry.2).chars)) =
      Json.charsOfEntries (sortedMap (pairsToJson serde pairs)) := by
  rw [Json.charsOfEntries_eq, pairsToJson_eq, ← map_sortedMap (anyValueToJson serde), List.map_map]
  rfl

/-- A value is streamed as the tree that it is converted to is written. -/
theorem anyValueSer_eq (serde : SerdeJson) (value : AnyValue) :
    anyValueSer serde value = (anyValueToJson serde value).chars := by
  -- The induction follows the calls, which are for the items and for the entries that are kept.
  induction value using anyValueSer.induct with
  | case1 => rw [anyValueSer]; rfl
  | case2 text => rw [anyValueSer]; rfl
  | case3 value => rw [anyValueSer]; rfl
  | case4 value => rw [anyValueSer]; rfl
  | case5 value =>
    rw [anyValueSer, serializeF64_eq]
    rfl
  | case6 values ih =>
    have items : (values.attach.map fun value => anyValueSer serde value.1) =
        values.map fun value => (anyValueToJson serde value).chars := by
      rw [List.map_congr_left fun value _ => ih value]
      exact List.attach_map_val (f := fun value => (anyValueToJson serde value).chars)
    rw [anyValueSer, items, anyValueToJson, valueToJson, Json.chars, Json.charsOfItems_eq,
      valuesToJson_eq, List.map_map]
    rfl
  | case7 pairs ih =>
    have entries : ((sortedMap (pairsOf pairs)).attach.map fun entry =>
          (entry.1.1, anyValueSer serde entry.1.2)) =
        Json.charsOfEntries (sortedMap (pairsToJson serde pairs)) := by
      rw [List.map_congr_left fun entry _ => congrArg (Prod.mk entry.1.1) (ih entry), ← map_entries]
      exact List.attach_map_val (f := fun entry : String × AnyValue =>
        (entry.1, (anyValueToJson serde entry.2).chars))
    rw [anyValueSer, entries]
    rfl
  | case8 bytes => rw [anyValueSer]; rfl
  | case9 index => rw [anyValueSer]; rfl

/-- Writing the values before they are sorted gives the same text. -/
theorem attrsToJsonFiltered_eq_attrsSer (serde : SerdeJson) (attributes : List KeyValue)
    (skip : String → Bool) :
    attrsToJsonFiltered serde attributes skip = attrsSer serde attributes skip := by
  rw [attrsToJsonFiltered_eq, attrsSer]
  simp only [anyValueSer_eq, map_entries]
  rfl

/-- Streaming some attributes gives the text of the map that is built from them. -/
theorem streaming_eq_reference (serde : SerdeJson) (attributes : List KeyValue)
    (skip : String → Bool) : attrsSer serde attributes skip = referenceJson serde attributes skip := by
  unfold attrsSer referenceJson
  simp only [anyValueSer_eq, map_entries]
  rfl

end Zradar.Otlp

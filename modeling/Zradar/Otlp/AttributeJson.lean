import Zradar.Models.Json
import Zradar.Otlp.Attributes

/-! The JSON text of OTLP attributes, written as a tree or directly. -/

namespace Zradar.Otlp

/-- The digits of some bytes, two for each. -/
def hexEncode (bytes : Bytes) : String :=
  .ofList (bytes.flatMap fun byte =>
    [Nat.digitChar (byte.toNat / 16), Nat.digitChar (byte.toNat % 16)])

section

variable (serde : SerdeJson)

mutual

/-- Convert a value to JSON. -/
def anyValueToJson : AnyValue → Json
  | .mk none => .null
  | .mk (some value) => valueToJson value

def valueToJson : Value → Json
  | .stringValue text => .str text
  | .boolValue value => .bool value
  | .intValue value => .int value.toInt
  | .doubleValue value => value.toJson serde
  | .arrayValue values => .arr (valuesToJson values)
  | .kvlistValue values => .obj (sortedMap (pairsToJson values))
  | .bytesValue bytes => .str (hexEncode bytes)
  -- There is no string table to look the index up in.
  | .stringValueStrindex _ => .null

def valuesToJson : List AnyValue → List Json
  | [] => []
  | value :: values => anyValueToJson value :: valuesToJson values

/-- The entries of an object, without the attributes that have no value. -/
def pairsToJson : List KeyValue → List (String × Json)
  | [] => []
  | .mk _ none :: pairs => pairsToJson pairs
  | .mk key (some value) :: pairs => (key, anyValueToJson value) :: pairsToJson pairs

end

mutual

/-- Write a value as JSON, without a tree. -/
def serializeAnyValue : AnyValue → List Char
  | .mk none => "null".toList
  | .mk (some value) => serializeValue value

def serializeValue : Value → List Char
  | .stringValue text => quoted text
  | .boolValue value => (if value then "true" else "false").toList
  | .intValue value => value.toInt.repr.toList
  | .doubleValue value => (value.toJson serde).chars
  | .arrayValue values => arrayChars (serializeValues values)
  | .kvlistValue values => objectChars (sortedMap (serializePairs values))
  | .bytesValue bytes => quoted (hexEncode bytes)
  | .stringValueStrindex _ => "null".toList

def serializeValues : List AnyValue → List (List Char)
  | [] => []
  | value :: values => serializeAnyValue value :: serializeValues values

def serializePairs : List KeyValue → List (String × List Char)
  | [] => []
  | .mk _ none :: pairs => serializePairs pairs
  | .mk key (some value) :: pairs => (key, serializeAnyValue value) :: serializePairs pairs

end

/-- Serialize attributes to a JSON object, without those that are to be skipped. -/
def attrsToJsonFiltered (attributes : List KeyValue) (skip : String → Bool) : String :=
  .ofList (objectChars (sortedMap (serializePairs serde
    (attributes.filter fun pair => !skip pair.key))))

end

mutual

/-- The text that is written directly is that of the tree. -/
theorem serializeAnyValue_eq (serde : SerdeJson) :
    ∀ value : AnyValue, serializeAnyValue serde value = (anyValueToJson serde value).chars
  | .mk none => rfl
  | .mk (some value) => serializeValue_eq serde value

theorem serializeValue_eq (serde : SerdeJson) :
    ∀ value : Value, serializeValue serde value = (valueToJson serde value).chars
  | .stringValue _ => rfl
  | .boolValue _ => rfl
  | .intValue _ => rfl
  | .doubleValue _ => rfl
  | .arrayValue values => by
    rw [serializeValue, valueToJson, Json.chars, Json.charsOfItems_eq, serializeValues_eq serde values]
  | .kvlistValue values => by
    rw [serializeValue, valueToJson, Json.chars, Json.charsOfEntries_eq,
      serializePairs_eq serde values, map_sortedMap]
  | .bytesValue _ => rfl
  | .stringValueStrindex _ => rfl

theorem serializeValues_eq (serde : SerdeJson) : ∀ values : List AnyValue,
    serializeValues serde values = (valuesToJson serde values).map Json.chars
  | [] => rfl
  | value :: values => by
    rw [serializeValues, valuesToJson, List.map_cons, serializeAnyValue_eq serde value,
      serializeValues_eq serde values]

theorem serializePairs_eq (serde : SerdeJson) : ∀ pairs : List KeyValue,
    serializePairs serde pairs =
      (pairsToJson serde pairs).map fun pair => (pair.1, pair.2.chars)
  | [] => rfl
  | .mk _ none :: pairs => by rw [serializePairs, pairsToJson, serializePairs_eq serde pairs]
  | .mk key (some value) :: pairs => by
    rw [serializePairs, pairsToJson, List.map_cons, serializeAnyValue_eq serde value,
      serializePairs_eq serde pairs]

end

/-- The text of some attributes is that of the object that holds the last value of each. -/
theorem attrsToJsonFiltered_eq (serde : SerdeJson) (attributes : List KeyValue)
    (skip : String → Bool) :
    attrsToJsonFiltered serde attributes skip =
      (Json.obj (sortedMap (pairsToJson serde
        (attributes.filter fun pair => !skip pair.key)))).text := by
  rw [attrsToJsonFiltered, Json.text, Json.chars, Json.charsOfEntries_eq, serializePairs_eq,
    map_sortedMap]

/-- The attributes that have a value. -/
def pairsOf (attributes : List KeyValue) : List (String × AnyValue) :=
  attributes.filterMap fun pair => pair.value.map fun value => (pair.key, value)

theorem pairsToJson_eq (serde : SerdeJson) (attributes : List KeyValue) :
    pairsToJson serde attributes =
      (pairsOf attributes).map fun pair => (pair.1, anyValueToJson serde pair.2) := by
  -- Attributes without a value are left out by both.
  induction attributes with
  | nil => rfl
  | cons pair attributes ih =>
    obtain ⟨key, value⟩ := pair
    cases value with
    | none => rw [pairsToJson, ih]; rfl
    | some value => rw [pairsToJson, ih]; rfl

/-- The writer of numbers that no number is given to. -/
def plainSerde : SerdeJson := ⟨fun _ => .error "", fun _ => none, fun _ => "0.0", fun _ => none,
  fun _ => .zero⟩

end Zradar.Otlp

import Zradar.Lib.BigEndian
import Zradar.Models.Row

/-! Attributes of an OTLP request, and the service name that the converters take from them. -/

namespace Zradar.Otlp

mutual

/-- What an attribute can hold. -/
inductive Value where
  | stringValue (text : String)
  | boolValue (value : Bool)
  | intValue (value : Int64)
  | doubleValue (value : F64)
  | arrayValue (values : List AnyValue)
  | kvlistValue (values : List KeyValue)
  | bytesValue (bytes : Bytes)
  | stringValueStrindex (index : Int32)

/-- A value that may be left out. -/
inductive AnyValue where
  | mk (value : Option Value)

/-- An attribute. -/
inductive KeyValue where
  | mk (key : String) (value : Option AnyValue)

end

/-- The value inside. -/
def AnyValue.value : AnyValue → Option Value
  | .mk value => value

def KeyValue.key : KeyValue → String
  | .mk key _ => key

def KeyValue.value : KeyValue → Option AnyValue
  | .mk _ value => value

/-- Whether a text starts with another. -/
def startsWith (text lead : String) : Bool := lead.toList.isPrefixOf text.toList

/-- A text that begins with another one is that one and the rest. -/
theorem eq_append_of_startsWith {text lead : String} (starts : startsWith text lead = true) :
    text = lead ++ .ofList (text.toList.drop lead.toList.length) := by
  apply String.toList_injective
  have leads := List.isPrefixOf_iff_prefix.mp starts
  rw [String.toList_append, String.toList_ofList]
  exact (List.prefix_iff_eq_append.mp leads).symm

theorem startsWith_append (lead tail : String) : startsWith (lead ++ tail) lead = true := by
  rw [startsWith, List.isPrefixOf_iff_prefix, String.toList_append]
  exact List.prefix_append _ _

/-- Whether a text ends with another. -/
def endsWith (text tail : String) : Bool := tail.toList.isSuffixOf text.toList

/-- What a request says about its sender. -/
structure Resource where
  attributes : List KeyValue

/-- The text of the first attribute with a key, if it has one. -/
def extractStringAttr (attributes : List KeyValue) (key : String) : Option String :=
  match attributes.find? fun pair => pair.key = key with
  | none => none
  | some pair =>
    match pair.value.bind AnyValue.value with
    | some (.stringValue text) => some text
    | _ => none

/-- The same for spans, which do not accept an empty text. -/
def extractResourceString (resource : Option Resource) (key : String) : Option String :=
  match resource with
  | none => none
  | some resource =>
    match extractStringAttr resource.attributes key with
    | some text => if text = "" then none else some text
    | none => none

/-- The service name of the spans of a resource. -/
def spansServiceName (resource : Option Resource) : String :=
  (extractResourceString resource "service.name").getD "unknown"

/-- The service name of the logs or the metrics of a resource. -/
def logsServiceName (resource : Option Resource) : String :=
  let attributes := match resource with
    | some resource => resource.attributes
    | none => []
  (extractStringAttr attributes "service.name").getD "unknown"

/-- A resource that says nothing but its service name. -/
def namedResource (name : String) : Resource :=
  ⟨[.mk "service.name" (some (.mk (some (.stringValue name))))]⟩

/-- Both converters pass a service name on as it is. -/
theorem serviceName_namedResource {name : String} (given : name ≠ "") :
    spansServiceName (some (namedResource name)) = name ∧
      logsServiceName (some (namedResource name)) = name := by
  constructor
  · simp [spansServiceName, extractResourceString, extractStringAttr, namedResource, KeyValue.key,
      KeyValue.value, AnyValue.value, given]
  · simp [logsServiceName, extractStringAttr, namedResource, KeyValue.key, KeyValue.value,
      AnyValue.value]

end Zradar.Otlp

import Zradar.Lib.BigEndian
import Zradar.Lib.Json
import Zradar.Models.Row

/-! JSON trees of rows, as the derived serializers write and read them. -/

namespace Zradar

/-- What the rows are serialized with: the text of trees, and the text of doubles. -/
structure SerdeJson where
  toVec : Json → Except String Bytes
  fromSlice : Bytes → Option Json
  writeF64 : FiniteF64 → String
  /-- Reading is best effort, so the double that was written need not come back. -/
  readF64 : String → Option F64
  intToF64 : Int → F64

/-- Serialize a double. -/
def F64.toJson (serde : SerdeJson) : F64 → Json
  | .finite value => .float (serde.writeF64 value)
  -- JSON has no text for the other doubles.
  | .posInf => .null
  | .negInf => .null
  | .nan => .null

/-- A double that comes back when it is written and read. -/
def F64.Survives (serde : SerdeJson) : F64 → Prop
  | .finite value => serde.readF64 (serde.writeF64 value) = some (.finite value)
  | .posInf => False
  | .negInf => False
  | .nan => False

namespace Json

/-- Read a string. -/
def readString : Json → Option String
  | .str value => some value
  | _ => none

/-- Read a whole number into a signed type with the given bound. -/
def readInt (bound : Int) : Json → Option Int
  | .int value => if -bound ≤ value ∧ value < bound then some value else none
  | _ => none

/-- Read a double. -/
def readF64 (serde : SerdeJson) : Json → Option F64
  | .float text => serde.readF64 text
  | .int value => some (serde.intToF64 value)
  -- In particular, null is no double.
  | _ => none

/-- Read an optional whole number. -/
def readOptInt (bound : Int) : Json → Option (Option Int)
  | .null => some none
  | tree => (tree.readInt bound).map some

end Json

namespace FieldKind

/-- Serialize the value of a field. -/
def toJson (serde : SerdeJson) (kind : FieldKind) : kind.Value → Json :=
  match kind with
  | .string => fun value => .str value
  | .i64 => fun value => .int (Int64.toInt value)
  | .i32 => fun value => .int (Int32.toInt value)
  | .i16 => fun value => .int (Int16.toInt value)
  | .f64 => fun value => F64.toJson serde value
  | .optI64 => fun value => Option.elim value .null fun inner => .int (Int64.toInt inner)

/-- Deserialize the value of a field, where nothing stands for any error. -/
def fromJson (serde : SerdeJson) (kind : FieldKind) (tree : Json) : Option kind.Value :=
  match kind with
  | .string => tree.readString
  | .i64 => (tree.readInt (2 ^ 63)).map Int64.ofInt
  | .i32 => (tree.readInt (2 ^ 31)).map Int32.ofInt
  | .i16 => (tree.readInt (2 ^ 15)).map Int16.ofInt
  | .f64 => tree.readF64 serde
  | .optI64 => (tree.readOptInt (2 ^ 63)).map (Option.map Int64.ofInt)

/-- The value of a field that the object does not mention. -/
def missing (kind : FieldKind) : Option kind.Value :=
  match kind with
  | .optI64 => some (none : Option Int64)
  | .string | .i64 | .i32 | .i16 | .f64 => none

/-- A value that comes back when it is written and read. -/
def Survives (serde : SerdeJson) (kind : FieldKind) : kind.Value → Prop :=
  match kind with
  | .f64 => fun value => F64.Survives serde value
  | .string | .i64 | .i32 | .i16 | .optI64 => fun _ => True

end FieldKind

namespace Values

/-- The entries of an object, one for each field. -/
def toEntries (serde : SerdeJson) : (fields : List Field) → Values fields → List (String × Json)
  | [], _ => []
  | field :: fields, (value, values) =>
    (field.name, field.kind.toJson serde value) :: toEntries serde fields values

/-- The value of a field from the entries under its name. -/
def fromNamed (serde : SerdeJson) (kind : FieldKind) : List (String × Json) → Option kind.Value
  | [] => kind.missing
  | [entry] => kind.fromJson serde entry.2
  -- A name that is given twice is an error.
  | _ :: _ :: _ => none

/-- The values of all fields from the entries of an object, other names being ignored. -/
def fromEntries (serde : SerdeJson) (entries : List (String × Json)) :
    (fields : List Field) → Option (Values fields)
  | [] => some ()
  | field :: fields =>
    match fromNamed serde field.kind (entries.filter fun entry => entry.1 = field.name),
      fromEntries serde entries fields with
    | some value, some values => some (value, values)
    | _, _ => none

/-- The values of all fields from an array that has one item for each. -/
def fromItems (serde : SerdeJson) : (fields : List Field) → List Json → Option (Values fields)
  | [], [] => some ()
  | field :: fields, item :: items =>
    match field.kind.fromJson serde item, fromItems serde fields items with
    | some value, some values => some (value, values)
    | _, _ => none
  | _, _ => none

/-- The values as they come back from their own trees. -/
def readBack (serde : SerdeJson) : (fields : List Field) → Values fields → Option (Values fields)
  | [], _ => some ()
  | field :: fields, (value, values) =>
    match field.kind.fromJson serde (field.kind.toJson serde value),
      readBack serde fields values with
    | some value, some values => some (value, values)
    | _, _ => none

/-- Every value comes back when it is written and read. -/
def Survive (serde : SerdeJson) : (fields : List Field) → Values fields → Prop
  | [], _ => True
  | field :: fields, (value, values) => field.kind.Survives serde value ∧ Survive serde fields values

end Values

namespace Row

variable {α : Type} [Row α]

/-- The tree of a row. -/
def toJson (serde : SerdeJson) (row : α) : Json :=
  .obj (Values.toEntries serde (Row.fields α) (Row.values row))

/-- The row a tree stands for, if any. -/
def fromJson (serde : SerdeJson) (tree : Json) : Option α :=
  match tree with
  | .obj entries => (Values.fromEntries serde entries (Row.fields α)).map Row.values.symm
  | .arr items => (Values.fromItems serde (Row.fields α) items).map Row.values.symm
  | _ => none

/-- Every field of a row comes back when it is written and read. -/
def Survives (serde : SerdeJson) (row : α) : Prop :=
  Values.Survive serde (Row.fields α) (Row.values row)

end Row

namespace Json

theorem readInt_int64 (value : Int64) :
    (readInt (2 ^ 63) (.int value.toInt)).map Int64.ofInt = some value := by
  rw [readInt, if_pos ⟨value.le_toInt, value.toInt_lt⟩, Option.map_some, Int64.ofInt_toInt]

theorem readInt_int32 (value : Int32) :
    (readInt (2 ^ 31) (.int value.toInt)).map Int32.ofInt = some value := by
  rw [readInt, if_pos ⟨value.le_toInt, value.toInt_lt⟩, Option.map_some, Int32.ofInt_toInt]

theorem readInt_int16 (value : Int16) :
    (readInt (2 ^ 15) (.int value.toInt)).map Int16.ofInt = some value := by
  rw [readInt, if_pos ⟨value.le_toInt, value.toInt_lt⟩, Option.map_some, Int16.ofInt_toInt]

theorem readOptInt_int64 (value : Int64) :
    (readOptInt (2 ^ 63) (.int value.toInt)).map (Option.map Int64.ofInt) = some (some value) := by
  simp only [readOptInt, readInt, if_pos (And.intro value.le_toInt value.toInt_lt),
    Option.map_some, Int64.ofInt_toInt]

end Json

theorem F64.readF64_toJson (serde : SerdeJson) (value : F64) :
    (value.toJson serde).readF64 serde = some value ↔ value.Survives serde := by
  -- What is written as null is not read at all.
  cases value <;> simp [toJson, Survives, Json.readF64]

/-- A value is read back from its own tree exactly when it survives. -/
theorem FieldKind.fromJson_toJson (serde : SerdeJson) (kind : FieldKind) (value : kind.Value) :
    kind.fromJson serde (kind.toJson serde value) = some value ↔ kind.Survives serde value := by
  -- Only doubles can fail to come back: the other kinds are written without loss.
  cases kind with
  | string => exact iff_of_true rfl trivial
  | i64 => exact iff_of_true (Json.readInt_int64 value) trivial
  | i32 => exact iff_of_true (Json.readInt_int32 value) trivial
  | i16 => exact iff_of_true (Json.readInt_int16 value) trivial
  | f64 => exact F64.readF64_toJson serde value
  | optI64 =>
    cases value with
    | none => exact iff_of_true rfl trivial
    | some inner => exact iff_of_true (Json.readOptInt_int64 inner) trivial

namespace Values

variable (serde : SerdeJson)

/-- Only the fields' own names occur in the entries of an object. -/
theorem name_of_mem_toEntries {fields : List Field} {values : Values fields}
    {entry : String × Json} (member : entry ∈ toEntries serde fields values) :
    entry.1 ∈ fields.map Field.name := by
  -- Every field is written under its own name.
  induction fields with
  | nil => cases member
  | cons field fields ih =>
    rcases List.mem_cons.mp member with rfl | later
    · exact List.mem_cons_self
    · exact List.mem_cons_of_mem _ (ih later)

/-- Reading the entries of an object reads each value back from its own tree. -/
theorem fromEntries_toEntries {fields : List Field} (values : Values fields)
    {front : List (String × Json)} (names : (fields.map Field.name).Nodup)
    (fresh : ∀ entry ∈ front, entry.1 ∉ fields.map Field.name) :
    fromEntries serde (front ++ toEntries serde fields values) fields =
      readBack serde fields values := by
  -- The entries of the fields that were read are moved to the front, one field at a time.
  induction fields generalizing front with
  | nil => rfl
  | cons field fields ih =>
    obtain ⟨value, values⟩ := values
    obtain ⟨unique, names⟩ := List.nodup_cons.mp names
    let entry : String × Json := (field.name, field.kind.toJson serde value)
    have entries : front ++ toEntries serde (field :: fields) (value, values) =
        (front ++ [entry]) ++ toEntries serde fields values := by
      simp [toEntries, entry]
    have before : front.filter (fun other => other.1 = field.name) = [] := by
      rw [List.filter_eq_nil_iff]
      intro other member same
      exact fresh other member (by simp [of_decide_eq_true same])
    have behind : (toEntries serde fields values).filter (fun other => other.1 = field.name) =
        [] := by
      rw [List.filter_eq_nil_iff]
      intro other member same
      exact unique (of_decide_eq_true same ▸ name_of_mem_toEntries serde member)
    -- No other entry has the field's name, so the value is read from its own entry.
    have named : ((front ++ [entry]) ++ toEntries serde fields values).filter
        (fun other => other.1 = field.name) = [entry] := by
      rw [List.filter_append, List.filter_append, before, behind]
      simp [entry]
    have moved : ∀ other ∈ front ++ [entry], other.1 ∉ fields.map Field.name := by
      intro other member
      rcases List.mem_append.mp member with earlier | last
      · intro listed
        exact fresh other earlier (List.mem_cons_of_mem _ listed)
      · rw [List.mem_singleton.mp last]
        exact unique
    rw [entries, fromEntries, named, ih values names moved]
    rfl

/-- What comes back from a list of fields is what comes back from the first and from the rest. -/
theorem readBack_cons {field : Field} {fields : List Field} {value back : field.kind.Value}
    {values backs : Values fields} :
    readBack serde (field :: fields) (value, values) = some (back, backs) ↔
      field.kind.fromJson serde (field.kind.toJson serde value) = some back ∧
        readBack serde fields values = some backs := by
  -- A row is read field by field, and one unreadable field fails it.
  rw [readBack]
  constructor
  · intro read
    split at read
    · rename_i first others readFirst readOthers
      cases read
      exact ⟨readFirst, readOthers⟩
    · cases read
  · rintro ⟨readFirst, readOthers⟩
    rw [readFirst, readOthers]
    rfl

/-- All values come back unchanged exactly when each of them survives. -/
theorem readBack_eq_self {fields : List Field} (values : Values fields) :
    readBack serde fields values = some values ↔ Survive serde fields values := by
  -- A row survives when each of its fields does.
  induction fields with
  | nil => exact iff_of_true rfl trivial
  | cons field fields ih =>
    obtain ⟨value, values⟩ := values
    exact (readBack_cons serde).trans
      (and_congr (field.kind.fromJson_toJson serde value) (ih values))

/-- Strings come back unchanged, whatever happens to the other fields. -/
theorem readBack_stringField {fields : List Field} {values backs : Values fields} (name : String)
    (read : readBack serde fields values = some backs) :
    stringField name fields backs = stringField name fields values := by
  -- Texts are read back as they are, and the other kinds are not asked for.
  induction fields with
  | nil => rfl
  | cons field fields ih =>
    obtain ⟨value, values⟩ := values
    obtain ⟨back, backs⟩ := backs
    obtain ⟨readFirst, readOthers⟩ := (readBack_cons serde).mp read
    obtain ⟨fieldName, kind⟩ := field
    cases kind with
    | string =>
      cases readFirst
      simp only [stringField, ih readOthers]
    | i64 => exact ih readOthers
    | i32 => exact ih readOthers
    | i16 => exact ih readOthers
    | f64 => exact ih readOthers
    | optI64 => exact ih readOthers

end Values

namespace Row

variable {α : Type} [Row α] (serde : SerdeJson)

/-- What is read from a row's own tree is what comes back from its fields. -/
theorem fromJson_toJson (row : α) :
    fromJson serde (toJson serde row) =
      (Values.readBack serde (Row.fields α) (Row.values row)).map Row.values.symm := by
  have none : ∀ entry ∈ ([] : List (String × Json)), entry.1 ∉ (Row.fields α).map Field.name := by
    simp
  have fields := Values.fromEntries_toEntries serde (Row.values row) Row.names none
  rw [List.nil_append] at fields
  rw [toJson, fromJson, fields]

/-- A row is read back from its own tree exactly when all of its fields survive. -/
theorem fromJson_toJson_eq_self (row : α) :
    fromJson serde (toJson serde row) = some row ↔ Survives serde row := by
  rw [fromJson_toJson, Survives, ← Values.readBack_eq_self]
  -- A row is its values, so reading the one is reading the other.
  constructor
  · intro read
    obtain ⟨values, readValues, same⟩ := Option.map_eq_some_iff.mp read
    rw [readValues, ← same, Equiv.apply_symm_apply]
  · intro read
    rw [read, Option.map_some, Equiv.symm_apply_apply]

/-- A row that comes back at all comes back under its own workspace. -/
theorem workspaceId_of_fromJson {row back : α}
    (read : fromJson serde (toJson serde row) = some back) :
    Row.workspaceId back = Row.workspaceId row := by
  -- The workspace is the text of one of the fields.
  rw [fromJson_toJson] at read
  obtain ⟨values, readValues, same⟩ := Option.map_eq_some_iff.mp read
  have kept := Values.readBack_stringField serde "workspace_id" readValues
  rw [← same]
  apply Option.some.inj
  rw [← Row.workspaceField, ← Row.workspaceField, Equiv.apply_symm_apply, kept]

end Row

end Zradar

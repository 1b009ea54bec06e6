import Zradar.Models.Row

/-! Columns as Arrow has them: written from the fields of rows, and read back by their names. -/

namespace Zradar.Parquet

/-- The types that columns have. -/
inductive DataType where
  | utf8
  | int64
  | int32
  | int16
  | float64
  deriving DecidableEq

/-- A column, whose cells can be null. -/
inductive ArrowArray where
  | utf8 (cells : List (Option String))
  | int64 (cells : List (Option Int64))
  | int32 (cells : List (Option Int32))
  | int16 (cells : List (Option Int16))
  | float64 (cells : List (Option F64))
  deriving DecidableEq

namespace ArrowArray

/-- The type of a column. -/
def dataType : ArrowArray → DataType
  | utf8 _ => .utf8
  | int64 _ => .int64
  | int32 _ => .int32
  | int16 _ => .int16
  | float64 _ => .float64

/-- How many cells a column has. -/
def len : ArrowArray → Nat
  | utf8 cells => cells.length
  | int64 cells => cells.length
  | int32 cells => cells.length
  | int16 cells => cells.length
  | float64 cells => cells.length

/-- How many cells of a column are null. -/
def nullCount : ArrowArray → Nat
  | utf8 cells => cells.countP Option.isNone
  | int64 cells => cells.countP Option.isNone
  | int32 cells => cells.countP Option.isNone
  | int16 cells => cells.countP Option.isNone
  | float64 cells => cells.countP Option.isNone

/-- The cells of a column of strings. -/
def strings? : ArrowArray → Option (List (Option String))
  | utf8 cells => some cells
  | _ => none

/-- The cells of a column of 64-bit integers. -/
def i64s? : ArrowArray → Option (List (Option Int64))
  | int64 cells => some cells
  | _ => none

/-- The cells of a column of 32-bit integers. -/
def i32s? : ArrowArray → Option (List (Option Int32))
  | int32 cells => some cells
  | _ => none

/-- The cells of a column of 16-bit integers. -/
def i16s? : ArrowArray → Option (List (Option Int16))
  | int16 cells => some cells
  | _ => none

/-- The cells of a column of doubles. -/
def f64s? : ArrowArray → Option (List (Option F64))
  | float64 cells => some cells
  | _ => none

end ArrowArray

/-- The cells without those of some rows. -/
def maskCells {α : Type} (nulled : Nat → Bool) (cells : List (Option α)) : List (Option α) :=
  cells.mapIdx fun row cell => if nulled row then none else cell

/-- A column without the cells of some rows. -/
def ArrowArray.mask (nulled : Nat → Bool) : ArrowArray → ArrowArray
  | utf8 cells => .utf8 (maskCells nulled cells)
  | int64 cells => .int64 (maskCells nulled cells)
  | int32 cells => .int32 (maskCells nulled cells)
  | int16 cells => .int16 (maskCells nulled cells)
  | float64 cells => .float64 (maskCells nulled cells)

/-- A column of a schema. -/
structure ArrowField where
  name : String
  dataType : DataType
  nullable : Bool
  deriving DecidableEq

/-- Columns of the same length under the fields of a schema. -/
structure RecordBatch where
  columns : List (ArrowField × ArrowArray)
  numRows : Nat
  deriving DecidableEq

/-- Bundle columns that fit to the fields of a schema. -/
def RecordBatch.tryNew (schema : List ArrowField) (columns : List ArrowArray) :
    Option RecordBatch :=
  match columns with
  | [] => none
  | first :: _ =>
    if schema.length = columns.length ∧ (schema.zip columns).all fun column =>
        column.2.len = first.len && column.2.dataType = column.1.dataType &&
          (column.1.nullable || column.2.nullCount = 0)
    then some ⟨schema.zip columns, first.len⟩ else none

/-- The column of a name. -/
def RecordBatch.columnByName (batch : RecordBatch) (name : String) : Option ArrowArray :=
  (batch.columns.find? fun column => column.1.name = name).map Prod.snd

/-- The value of a cell, where a null cell holds the default of its type. -/
def valueAt {α : Type} (typeDefault : α) (cells : List (Option α)) (row : Nat) : α :=
  (cells[row]?.join).getD typeDefault

section

variable {α : Type} (downcast : ArrowArray → Option (List (Option α))) (arrayName : String)
  (batch : RecordBatch) (name : String)

/-- A column that has to be there. -/
def requiredCol : Except String (List (Option α)) :=
  match batch.columnByName name with
  | none => .error ("missing column: " ++ name)
  | some column =>
    match downcast column with
    | some cells => .ok cells
    | none => .error ("column " ++ name ++ " is not " ++ arrayName)

/-- A column that may be missing. -/
def optionalCol : Except String (Option (List (Option α))) :=
  match batch.columnByName name with
  | none => .ok none
  | some column =>
    match downcast column with
    | some cells => .ok (some cells)
    | none => .error ("column " ++ name ++ " is not " ++ arrayName)

end

/-- A required column of strings. -/
def strCol : RecordBatch → String → Except String (List (Option String)) :=
  requiredCol ArrowArray.strings? "StringArray"

/-- A required column of 64-bit integers. -/
def i64Col : RecordBatch → String → Except String (List (Option Int64)) :=
  requiredCol ArrowArray.i64s? "Int64Array"

/-- A required column of 32-bit integers. -/
def i32Col : RecordBatch → String → Except String (List (Option Int32)) :=
  requiredCol ArrowArray.i32s? "Int32Array"

/-- A required column of 16-bit integers. -/
def i16Col : RecordBatch → String → Except String (List (Option Int16)) :=
  requiredCol ArrowArray.i16s? "Int16Array"

/-- A required column of doubles. -/
def f64Col : RecordBatch → String → Except String (List (Option F64)) :=
  requiredCol ArrowArray.f64s? "Float64Array"

/-- A column of strings that may be missing. -/
def optionalStringCol : RecordBatch → String → Except String (Option (List (Option String))) :=
  optionalCol ArrowArray.strings? "StringArray"

/-- A column of 16-bit integers that may be missing. -/
def optionalI16Col : RecordBatch → String → Except String (Option (List (Option Int16))) :=
  optionalCol ArrowArray.i16s? "Int16Array"

/-- A column of 32-bit integers that may be missing. -/
def optionalI32Col : RecordBatch → String → Except String (Option (List (Option Int32))) :=
  optionalCol ArrowArray.i32s? "Int32Array"

/-- How a field of a row is read from a column. -/
inductive ColumnRead where
  | string (name : String)
  | i64 (name : String)
  | i32 (name : String)
  | i16 (name : String)
  | f64 (name : String)
  /-- A null cell is no value. -/
  | nullableI64 (name : String)
  /-- A missing column is a column of empty strings. -/
  | optionalString (name : String)
  /-- A missing column, or an empty string, is an empty array. -/
  | optionalJson (name : String)
  | optionalI16 (name : String) (fallback : Int16)
  | optionalI32 (name : String) (fallback : Int32)
  deriving DecidableEq

namespace ColumnRead

/-- The field that is read. -/
def field : ColumnRead → Field
  | string name => ⟨name, .string⟩
  | i64 name => ⟨name, .i64⟩
  | i32 name => ⟨name, .i32⟩
  | i16 name => ⟨name, .i16⟩
  | f64 name => ⟨name, .f64⟩
  | nullableI64 name => ⟨name, .optI64⟩
  | optionalString name => ⟨name, .string⟩
  | optionalJson name => ⟨name, .string⟩
  | optionalI16 name _ => ⟨name, .i16⟩
  | optionalI32 name _ => ⟨name, .i32⟩

/-- Whether the column may be missing. -/
def isOptional : ColumnRead → Bool
  | string _ | i64 _ | i32 _ | i16 _ | f64 _ | nullableI64 _ => false
  | optionalString _ | optionalJson _ | optionalI16 _ _ | optionalI32 _ _ => true

/-- Look a column up, and say what it holds for each row. -/
def read (batch : RecordBatch) :
    (column : ColumnRead) → Except String (Nat → column.field.kind.Value)
  | string name => (strCol batch name).map fun cells row => valueAt "" cells row
  | i64 name => (i64Col batch name).map fun cells row => valueAt (0 : Int64) cells row
  | i32 name => (i32Col batch name).map fun cells row => valueAt (0 : Int32) cells row
  | i16 name => (i16Col batch name).map fun cells row => valueAt (0 : Int16) cells row
  | f64 name => (f64Col batch name).map fun cells row => valueAt F64.zero cells row
  | nullableI64 name => (i64Col batch name).map fun cells row => cells[row]?.join
  | optionalString name =>
    (optionalStringCol batch name).map fun column row =>
      (column.map fun cells => valueAt "" cells row).getD ""
  | optionalJson name =>
    (optionalStringCol batch name).map fun column row =>
      ((column.map fun cells => valueAt "" cells row).filter fun text => text ≠ "").getD "[]"
  | optionalI16 name fallback =>
    (optionalI16Col batch name).map fun column row =>
      (column.map fun cells => valueAt 0 cells row).getD fallback
  | optionalI32 name fallback =>
    (optionalI32Col batch name).map fun column row =>
      (column.map fun cells => valueAt 0 cells row).getD fallback

end ColumnRead

/-- Look all columns up, and say what they hold for each row. -/
def readRows (batch : RecordBatch) :
    (columns : List ColumnRead) → Except String (Nat → Values (columns.map ColumnRead.field))
  | [] => .ok fun _ => ()
  | column :: columns => do
    let value ← column.read batch
    let values ← readRows batch columns
    .ok fun row => (value row, values row)

section

variable {ρ : Type} (rows : List ρ)

/-- A column of strings, one from each row. -/
def strings (text : ρ → String) : ArrowArray := .utf8 ((rows.map text).map some)

/-- A column of 64-bit integers, one from each row. -/
def int64s (value : ρ → Int64) : ArrowArray := .int64 ((rows.map value).map some)

/-- A column of 32-bit integers, one from each row. -/
def int32s (value : ρ → Int32) : ArrowArray := .int32 ((rows.map value).map some)

/-- A column of 16-bit integers, one from each row. -/
def int16s (value : ρ → Int16) : ArrowArray := .int16 ((rows.map value).map some)

/-- A column of doubles, one from each row. -/
def float64s (value : ρ → F64) : ArrowArray := .float64 ((rows.map value).map some)

/-- A column of 64-bit integers that some rows do not have. -/
def optionalInt64s (value : ρ → Option Int64) : ArrowArray := .int64 (rows.map value)

end

/-- The column that holds values of a field. -/
def arrayOf : (kind : FieldKind) → List kind.Value → ArrowArray
  | .string, values => .utf8 (values.map some)
  | .i64, values => .int64 (values.map some)
  | .i32, values => .int32 (values.map some)
  | .i16, values => .int16 (values.map some)
  | .f64, values => .float64 (values.map some)
  | .optI64, values => .int64 values

/-- The column of a schema for a field. -/
def arrowField : Field → ArrowField
  | ⟨name, .string⟩ => ⟨name, .utf8, false⟩
  | ⟨name, .i64⟩ => ⟨name, .int64, false⟩
  | ⟨name, .i32⟩ => ⟨name, .int32, false⟩
  | ⟨name, .i16⟩ => ⟨name, .int16, false⟩
  | ⟨name, .f64⟩ => ⟨name, .float64, false⟩
  | ⟨name, .optI64⟩ => ⟨name, .int64, true⟩

/-- The columns of rows, one for each of their fields. -/
def columnsOf {ρ : Type} (rows : List ρ) :
    (fields : List Field) → (ρ → Values fields) → List (ArrowField × ArrowArray)
  | [], _ => []
  | field :: fields, values =>
    (arrowField field, arrayOf field.kind (rows.map fun row => (values row).1)) ::
      columnsOf rows fields fun row => (values row).2

/-- What has become of the columns of a batch: some are missing, and some have null cells. -/
structure Evolution where
  dropped : String → Bool
  nulled : String → Nat → Bool

/-- The names of the columns that may be missing. -/
def optionalColumns (columns : List ColumnRead) : List String :=
  (columns.filter ColumnRead.isOptional).map fun column => column.field.name

/-- What is left of a column. -/
def Evolution.column (evolution : Evolution) (optional : List String)
    (column : ArrowField × ArrowArray) : Option (ArrowField × ArrowArray) :=
  if column.1.name ∈ optional then
    if evolution.dropped column.1.name then none
    else some ({ column.1 with nullable := true }, column.2.mask (evolution.nulled column.1.name))
  else some column

/-- A batch with what is left of its columns. -/
def Evolution.batch (evolution : Evolution) (optional : List String) (batch : RecordBatch) :
    RecordBatch :=
  { batch with columns := batch.columns.filterMap (evolution.column optional) }

/-- Whether a row has no value in a column. -/
def Evolution.missing (evolution : Evolution) (optional : List String) (row : Nat)
    (name : String) : Bool :=
  decide (name ∈ optional) && (evolution.dropped name || evolution.nulled name row)

/-- The values of one row, and of another one where fields are missing. -/
def fillIn (missing : String → Bool) :
    (fields : List Field) → Values fields → Values fields → Values fields
  | [], _, _ => ()
  | field :: fields, (default, defaults), (value, values) =>
    (if missing field.name then default else value, fillIn missing fields defaults values)

/-- Where nothing is missing, the values are those of the row. -/
theorem fillIn_eq_self {missing : String → Bool} (whole : ∀ name, missing name = false)
    {fields : List Field} (defaults values : Values fields) :
    fillIn missing fields defaults values = values := by
  -- Every field takes the value of the row.
  induction fields with
  | nil => rfl
  | cons field fields ih =>
    obtain ⟨default, defaults⟩ := defaults
    obtain ⟨value, values⟩ := values
    have rest := ih defaults values
    simp only [fillIn, whole, rest]
    rfl

namespace ColumnRead

/-- What is read of a value whose column may be missing, and whose cell may be null. -/
def cell (dropped nulled : Bool) :
    (column : ColumnRead) → column.field.kind.Value → column.field.kind.Value
  | string _, value => value
  | i64 _, value => value
  | i32 _, value => value
  | i16 _, value => value
  | f64 _, value => value
  | nullableI64 _, value => value
  | optionalString _, value => if dropped || nulled then "" else value
  | optionalJson _, (value : String) =>
    if dropped = true ∨ nulled = true ∨ value = "" then "[]" else value
  | optionalI16 _ fallback, value =>
    if dropped then fallback else if nulled then (0 : Int16) else value
  | optionalI32 _ fallback, value =>
    if dropped then fallback else if nulled then (0 : Int32) else value

end ColumnRead

theorem valueAt_map_some {α : Type} (typeDefault : α) (values : List α) (row : Nat)
    (inside : row < values.length) :
    valueAt typeDefault (values.map some) row = values[row] := by
  simp [valueAt, inside]

theorem valueAt_maskCells {α : Type} (typeDefault : α) (nulled : Nat → Bool) (values : List α)
    (row : Nat) (inside : row < values.length) :
    valueAt typeDefault (maskCells nulled (values.map some)) row =
      if nulled row then typeDefault else values[row] := by
  simp only [valueAt, maskCells, List.getElem?_mapIdx, List.getElem?_map,
    List.getElem?_eq_getElem inside, Option.map_some, Option.join_some]
  cases nulled row <;> rfl

theorem requiredCol_of_found {α : Type} {downcast : ArrowArray → Option (List (Option α))}
    {arrayName name : String} {batch : RecordBatch} {column : ArrowArray}
    {cells : List (Option α)} (found : batch.columnByName name = some column)
    (typed : downcast column = some cells) :
    requiredCol downcast arrayName batch name = .ok cells := by
  simp [requiredCol, found, typed]

/-- An optional column is what is left of it, if anything is. -/
theorem optionalCol_of_evolved {α : Type} {downcast : ArrowArray → Option (List (Option α))}
    {arrayName name : String} {batch : RecordBatch} {dropped : Bool} {column : ArrowArray}
    {cells : List (Option α)}
    (found : batch.columnByName name = if dropped then none else some column)
    (typed : downcast column = some cells) :
    optionalCol downcast arrayName batch name = .ok (if dropped then none else some cells) := by
  cases dropped with
  | true => simp [optionalCol, found]
  | false => simp [optionalCol, found, typed]

/-- What is read from what is left of a column. -/
theorem ColumnRead.read_evolved {batch : RecordBatch} {column : ColumnRead} {dropped : Bool}
    {nulled : Nat → Bool} {values : List column.field.kind.Value}
    (found : batch.columnByName column.field.name =
      if column.isOptional then
        if dropped then none else some ((arrayOf column.field.kind values).mask nulled)
      else some (arrayOf column.field.kind values)) :
    ∃ valueOf, column.read batch = .ok valueOf ∧
      ∀ row (inside : row < values.length),
        valueOf row = column.cell dropped (nulled row) values[row] := by
  cases column with
  -- A column that has to be there is read as it was written.
  | string name =>
    have cells : strCol batch name = .ok (values.map some) := requiredCol_of_found found rfl
    exact ⟨_, congrArg (Except.map _) cells, fun row inside => valueAt_map_some _ _ row inside⟩
  | i64 name =>
    have cells : i64Col batch name = .ok (values.map some) := requiredCol_of_found found rfl
    exact ⟨_, congrArg (Except.map _) cells, fun row inside => valueAt_map_some _ _ row inside⟩
  | i32 name =>
    have cells : i32Col batch name = .ok (values.map some) := requiredCol_of_found found rfl
    exact ⟨_, congrArg (Except.map _) cells, fun row inside => valueAt_map_some _ _ row inside⟩
  | i16 name =>
    have cells : i16Col batch name = .ok (values.map some) := requiredCol_of_found found rfl
    exact ⟨_, congrArg (Except.map _) cells, fun row inside => valueAt_map_some _ _ row inside⟩
  | f64 name =>
    have cells : f64Col batch name = .ok (values.map some) := requiredCol_of_found found rfl
    exact ⟨_, congrArg (Except.map _) cells, fun row inside => valueAt_map_some _ _ row inside⟩
  | nullableI64 name =>
    have cells : i64Col batch name = .ok values := requiredCol_of_found found rfl
    refine ⟨_, congrArg (Except.map _) cells, fun row inside => ?_⟩
    change values[row]?.join = values[row]
    rw [List.getElem?_eq_getElem inside]
    rfl
  -- An optional one has the fallback for what is missing, and a default of its type for a null.
  | optionalString name =>
    have cells : optionalStringCol batch name =
        .ok (if dropped then none else some (maskCells nulled (values.map some))) :=
      optionalCol_of_evolved found rfl
    refine ⟨_, congrArg (Except.map _) cells, fun row inside => ?_⟩
    have masked := valueAt_maskCells "" nulled values row inside
    cases dropped with
    | true => rfl
    | false => exact masked
  | optionalJson name =>
    have cells : optionalStringCol batch name =
        .ok (if dropped then none else some (maskCells nulled (values.map some))) :=
      optionalCol_of_evolved found rfl
    refine ⟨_, congrArg (Except.map _) cells, fun row inside => ?_⟩
    have masked := valueAt_maskCells "" nulled values row inside
    cases dropped with
    | true => rfl
    | false =>
      -- An empty string is read like a null.
      have filtered (null : Bool) (text : String) :
          ((some (if null then "" else text)).filter fun text => decide (text ≠ "")).getD "[]" =
            if false = true ∨ null = true ∨ text = "" then "[]" else text := by
        cases null with
        | true => rfl
        | false => by_cases empty : text = "" <;> simp [empty, Option.filter]
      change ((some (valueAt "" (maskCells nulled (values.map some)) row)).filter
        fun text => decide (text ≠ "")).getD "[]" = _
      rw [masked]
      exact filtered (nulled row) values[row]
  | optionalI16 name fallback =>
    have cells : optionalI16Col batch name =
        .ok (if dropped then none else some (maskCells nulled (values.map some))) :=
      optionalCol_of_evolved found rfl
    refine ⟨_, congrArg (Except.map _) cells, fun row inside => ?_⟩
    have masked := valueAt_maskCells (0 : Int16) nulled values row inside
    cases dropped with
    | true => rfl
    | false => exact masked
  | optionalI32 name fallback =>
    have cells : optionalI32Col batch name =
        .ok (if dropped then none else some (maskCells nulled (values.map some))) :=
      optionalCol_of_evolved found rfl
    refine ⟨_, congrArg (Except.map _) cells, fun row inside => ?_⟩
    have masked := valueAt_maskCells (0 : Int32) nulled values row inside
    cases dropped with
    | true => rfl
    | false => exact masked

/-- What is read of a whole row. -/
def cells (dropped nulled : String → Bool) :
    (columns : List ColumnRead) → Values (columns.map ColumnRead.field) →
      Values (columns.map ColumnRead.field)
  | [], _ => ()
  | column :: columns, (value, values) =>
    (column.cell (dropped column.field.name) (nulled column.field.name) value,
      cells dropped nulled columns values)

/-- What is read from what is left of the columns of rows. -/
theorem readRows_evolved {ρ : Type} {batch : RecordBatch} {evolution : Evolution} {rows : List ρ}
    {columns : List ColumnRead} {values : ρ → Values (columns.map ColumnRead.field)}
    {optional : List String}
    (marked : ∀ column ∈ columns, column.field.name ∈ optional ↔ column.isOptional = true)
    (found : ∀ column ∈ columnsOf rows (columns.map ColumnRead.field) values,
      batch.columnByName column.1.name = (evolution.column optional column).map Prod.snd) :
    ∃ valuesOf, readRows batch columns = .ok valuesOf ∧
      ∀ row (inside : row < rows.length),
        valuesOf row = cells evolution.dropped (fun name => evolution.nulled name row) columns
          (values rows[row]) := by
  -- The induction is on the columns, which are read one after the other.
  induction columns with
  | nil => exact ⟨_, rfl, fun _ _ => rfl⟩
  | cons column columns ih =>
    obtain ⟨here, later⟩ := List.forall_mem_cons.mp found
    obtain ⟨isMarked, areMarked⟩ := List.forall_mem_cons.mp marked
    obtain ⟨valuesOf, readLater, others⟩ := ih areMarked later
    -- The first column is found under its name, as far as it is left.
    have named : (arrowField column.field).name = column.field.name := by
      cases column <;> rfl
    have first : batch.columnByName column.field.name =
        if column.isOptional then
          if evolution.dropped column.field.name then none
          else some ((arrayOf column.field.kind (rows.map fun row => (values row).1)).mask
            (evolution.nulled column.field.name))
        else some (arrayOf column.field.kind (rows.map fun row => (values row).1)) := by
      rw [← named, here]
      simp only [Evolution.column, named, isMarked]
      cases column.isOptional <;> cases evolution.dropped column.field.name <;> rfl
    obtain ⟨valueOf, readFirst, value⟩ := ColumnRead.read_evolved first
    -- Its value stands in front of those of the other columns.
    refine ⟨fun row => (valueOf row, valuesOf row), ?_, ?_⟩
    · simp only [readRows, readFirst, readLater, bind, Except.bind]
    · intro row inside
      have cell := value row (by simpa using inside)
      rw [List.getElem_map] at cell
      exact Prod.ext cell (others row inside)

/-- A list is searched for a name as what is left of the one item under it. -/
theorem find_filterMap {α : Type} {name : α → String} {left : α → Option α}
    (keeps : ∀ item rest, left item = some rest → name rest = name item) {items : List α}
    (names : (items.map name).Nodup) {item : α} (listed : item ∈ items) :
    ((items.filterMap left).find? fun other => name other = name item) = left item := by
  -- The item is either the first one, or among the others.
  induction items with
  | nil => simp at listed
  | cons first items ih =>
    rw [List.map_cons, List.nodup_cons] at names
    obtain ⟨apart, names⟩ := names
    rcases List.mem_cons.mp listed with rfl | later
    · -- No later item has the name of the first one.
      cases kept : left item with
      | none =>
        rw [List.filterMap_cons_none kept, List.find?_eq_none]
        intro other inside
        obtain ⟨source, among, became⟩ := List.mem_filterMap.mp inside
        have same := keeps source other became
        intro equal
        apply apart
        rw [← of_decide_eq_true equal, same]
        exact List.mem_map_of_mem among
      | some rest =>
        rw [List.filterMap_cons_some kept, List.find?_cons_of_pos]
        simpa using keeps item rest kept
    -- The first item has another name, whether it is kept or not.
    · have other : name first ≠ name item := by
        intro same
        apply apart
        rw [same]
        exact List.mem_map_of_mem later
      cases kept : left first with
      | none =>
        rw [List.filterMap_cons_none kept]
        exact ih names later
      | some rest =>
        rw [List.filterMap_cons_some kept, List.find?_cons_of_neg]
        · exact ih names later
        · rw [keeps first rest kept]
          simpa using other

theorem arrowField_name (field : Field) : (arrowField field).name = field.name := by
  obtain ⟨name, kind⟩ := field
  cases kind <;> rfl

theorem columnsOf_names {ρ : Type} (rows : List ρ) (fields : List Field)
    (values : ρ → Values fields) :
    (columnsOf rows fields values).map (fun column => column.1.name) = fields.map Field.name := by
  induction fields with
  | nil => rfl
  | cons field fields ih =>
    rw [columnsOf, List.map_cons, List.map_cons, arrowField_name, ih]

/-- A column of values has a cell for each of them, in the type of its field. -/
theorem arrayOf_fits (field : Field) (values : List field.kind.Value) :
    (arrayOf field.kind values).len = values.length ∧
      (arrayOf field.kind values).dataType = (arrowField field).dataType ∧
      ((arrowField field).nullable = true ∨ (arrayOf field.kind values).nullCount = 0) := by
  -- A value that is there is never null.
  have full {α : Type} (values : List α) : (values.map some).countP Option.isNone = 0 := by
    simp [List.countP_eq_zero]
  obtain ⟨name, kind⟩ := field
  cases kind with
  | optI64 => exact ⟨rfl, rfl, .inl rfl⟩
  | _ => exact ⟨List.length_map _, rfl, .inr (full values)⟩

theorem columnsOf_fits {ρ : Type} (rows : List ρ) (fields : List Field) (values : ρ → Values fields) :
    ∀ column ∈ columnsOf rows fields values, column.2.len = rows.length ∧
      column.2.dataType = column.1.dataType ∧
      (column.1.nullable = true ∨ column.2.nullCount = 0) := by
  -- The first column is that of the first field.
  induction fields with
  | nil => simp [columnsOf]
  | cons field fields ih =>
    rw [columnsOf, List.forall_mem_cons]
    refine ⟨?_, ih _⟩
    have fits := arrayOf_fits field (rows.map fun row => (values row).1)
    rwa [List.length_map] at fits

/-- The columns of rows can be bundled. -/
theorem tryNew_columnsOf {ρ : Type} {rows : List ρ} {fields : List Field}
    {values : ρ → Values fields} {schema : List ArrowField} {columns : List ArrowArray}
    (same : schema.length = columns.length) (filled : columns ≠ [])
    (zipped : schema.zip columns = columnsOf rows fields values) :
    RecordBatch.tryNew schema columns = some ⟨columnsOf rows fields values, rows.length⟩ := by
  -- The columns have the lengths and the types that the bundling checks.
  have fits := columnsOf_fits rows fields values
  rw [← zipped] at fits
  cases columns with
  | nil => exact absurd rfl filled
  | cons array columns =>
    obtain ⟨first, schema, rfl⟩ := List.exists_cons_of_length_eq_add_one same
    have length := (fits (first, array) (by simp)).1
    have checked : ((first :: schema).zip (array :: columns)).all (fun column =>
        column.2.len = array.len && column.2.dataType = column.1.dataType &&
          (column.1.nullable || column.2.nullCount = 0)) = true := by
      rw [List.all_eq_true]
      intro column listed
      obtain ⟨rowed, typed, nulls⟩ := fits column listed
      rw [length]
      simpa [rowed, typed] using nulls
    unfold RecordBatch.tryNew
    simp only
    rw [if_pos ⟨same, checked⟩, zipped, length]

namespace ColumnRead

/-- Whether a missing column is read as a default of its field. -/
def fallsBackTo : (column : ColumnRead) → column.field.kind.Value → Bool
  | string _, _ | i64 _, _ | i32 _, _ | i16 _, _ | f64 _, _ | nullableI64 _, _ => true
  | optionalString _, (default : String) => default = ""
  | optionalJson _, (default : String) => default = "[]"
  | optionalI16 _ fallback, (default : Int16) => default = fallback
  | optionalI32 _ fallback, (default : Int32) => default = fallback

/-- The value of a column that is read as JSON. -/
def jsonText : (column : ColumnRead) → column.field.kind.Value → List String
  | optionalJson _, (value : String) => [value]
  | string _, _ | i64 _, _ | i32 _, _ | i16 _, _ | f64 _, _ | nullableI64 _, _ => []
  | optionalString _, _ | optionalI16 _ _, _ | optionalI32 _ _, _ => []

/-- Whether a null cell is read as a missing column is. -/
def nullIsFallback : ColumnRead → Bool
  | optionalI16 _ fallback => fallback = 0
  | optionalI32 _ fallback => fallback = 0
  | _ => true

/-- A number is read as its value or as the default, where a null is not read as another zero. -/
theorem numberCell_eq_iff {α : Type} [DecidableEq α] {default fallback zero value : α}
    (same : decide (default = fallback) = true) (dropped nulled : Bool) :
    ((if dropped then fallback else if nulled then zero else value) =
        if (true && (dropped || nulled)) = true then default else value) ↔
      (decide (fallback = zero) = false → dropped = false → nulled = false) := by
  -- Only the cell of a column that is there can be null.
  rw [of_decide_eq_true same]
  cases dropped <;> cases nulled <;> simp [eq_comm]

/-- When a cell is read as its value, or as the default where it is missing. -/
theorem cell_eq_iff {column : ColumnRead} {default value : column.field.kind.Value}
    (matched : column.fallsBackTo default = true) (json : ∀ text ∈ column.jsonText value, text ≠ "")
    (dropped nulled : Bool) :
    column.cell dropped nulled value =
        (if (column.isOptional && (dropped || nulled)) = true then default else value) ↔
      (column.nullIsFallback = false → dropped = false → nulled = false) := by
  cases column with
  | optionalString name =>
    have general (default text : String) (empty : decide (default = "") = true) :
        (if (dropped || nulled) = true then "" else text) =
          if (true && (dropped || nulled)) = true then default else text := by
      rw [of_decide_eq_true empty, Bool.true_and]
    exact iff_of_true (general default value matched) (fun other => nomatch other)
  | optionalJson name =>
    have general (default text : String) (array : decide (default = "[]") = true)
        (some : text ≠ "") :
        (if dropped = true ∨ nulled = true ∨ text = "" then "[]" else text) =
          if (true && (dropped || nulled)) = true then default else text := by
      rw [of_decide_eq_true array]
      cases dropped <;> cases nulled <;> simp [some]
    have filled := json value (List.mem_singleton.mpr rfl)
    exact iff_of_true (general default value matched filled) (fun other => nomatch other)
  -- A number that is null is read as zero, whatever its fallback is.
  | optionalI16 name fallback =>
    exact numberCell_eq_iff matched dropped nulled
  | optionalI32 name fallback =>
    exact numberCell_eq_iff matched dropped nulled
  | _ => simp [cell, isOptional, nullIsFallback]

end ColumnRead

/-- Whether every missing column is read as the default of its field. -/
def fallBackTo :
    (columns : List ColumnRead) → Values (columns.map ColumnRead.field) → Bool
  | [], _ => true
  | column :: columns, (default, defaults) =>
    column.fallsBackTo default && fallBackTo columns defaults

/-- The values of a row that are read as JSON. -/
def jsonTexts : (columns : List ColumnRead) → Values (columns.map ColumnRead.field) → List String
  | [], _ => []
  | column :: columns, (value, values) => column.jsonText value ++ jsonTexts columns values

/-- When a row is read as it was, with defaults where something is missing. -/
theorem cells_eq_fillIn_iff {evolution : Evolution} {optional : List String} {row : Nat}
    {columns : List ColumnRead} {defaults values : Values (columns.map ColumnRead.field)}
    (marked : ∀ column ∈ columns, column.field.name ∈ optional ↔ column.isOptional = true)
    (fallbacks : fallBackTo columns defaults = true)
    (json : ∀ text ∈ jsonTexts columns values, text ≠ "") :
    cells evolution.dropped (fun name => evolution.nulled name row) columns values =
        fillIn (evolution.missing optional row) (columns.map ColumnRead.field) defaults values ↔
      ∀ column ∈ columns, column.nullIsFallback = false →
        evolution.dropped column.field.name = false →
          evolution.nulled column.field.name row = false := by
  -- The induction is on the columns, along which both rows are built.
  induction columns with
  | nil => exact iff_of_true rfl (by simp)
  | cons column columns ih =>
    obtain ⟨isMarked, areMarked⟩ := List.forall_mem_cons.mp marked
    obtain ⟨default, defaults⟩ := defaults
    obtain ⟨value, values⟩ := values
    obtain ⟨fallback, laterFallbacks⟩ := Bool.and_eq_true_iff.mp fallbacks
    obtain ⟨text, laterTexts⟩ := List.forall_mem_append.mp json
    -- A name that is marked belongs to a column that may be missing.
    have missing : evolution.missing optional row column.field.name =
        (column.isOptional && (evolution.dropped column.field.name ||
          evolution.nulled column.field.name row)) := by
      unfold Evolution.missing
      congr 1
      rw [Bool.eq_iff_iff, decide_eq_true_iff]
      exact isMarked
    have first := ColumnRead.cell_eq_iff fallback text (evolution.dropped column.field.name)
      (evolution.nulled column.field.name row)
    rw [← missing] at first
    -- Two rows are the same when their first values and the rest of them are.
    rw [List.forall_mem_cons, ← first, ← ih areMarked laterFallbacks laterTexts]
    exact Prod.mk_inj

/-- What is left of a batch is found under the names of its columns. -/
theorem columnByName_evolved {evolution : Evolution} {optional : List String}
    {batch : RecordBatch} (names : (batch.columns.map fun column => column.1.name).Nodup)
    {column : ArrowField × ArrowArray} (listed : column ∈ batch.columns) :
    (evolution.batch optional batch).columnByName column.1.name =
      (evolution.column optional column).map Prod.snd := by
  -- What is left of a column keeps its name.
  have keeps : ∀ item rest, evolution.column optional item = some rest →
      rest.1.name = item.1.name := by
    intro item rest became
    unfold Evolution.column at became
    split at became
    · split at became
      · simp at became
      · rw [← Option.some.inj became]
    · rw [← Option.some.inj became]
  exact congrArg (Option.map Prod.snd) (find_filterMap keeps names listed)

/-- The names that are marked as optional are those of the columns that may be missing. -/
theorem mem_optionalColumns {columns : List ColumnRead}
    (names : (columns.map fun column => column.field.name).Nodup) :
    ∀ column ∈ columns, column.field.name ∈ optionalColumns columns ↔ column.isOptional = true := by
  -- Names are distinct, so a name stands for one column only.
  intro column listed
  unfold optionalColumns
  rw [List.mem_map]
  constructor
  · rintro ⟨other, among, same⟩
    obtain ⟨inside, optional⟩ := List.mem_filter.mp among
    rwa [← List.inj_on_of_nodup_map names inside listed same]
  · intro optional
    exact ⟨column, List.mem_filter.mpr ⟨listed, optional⟩, rfl⟩

/-- The evolution in which nothing has happened. -/
def Evolution.unchanged : Evolution := ⟨fun _ => false, fun _ _ => false⟩

/-- A batch where nothing has happened is searched as it is. -/
theorem columnByName_unchanged {optional : List String} {batch : RecordBatch}
    (names : (batch.columns.map fun column => column.1.name).Nodup)
    {column : ArrowField × ArrowArray} (listed : column ∈ batch.columns) :
    batch.columnByName column.1.name =
      (Evolution.unchanged.column optional column).map Prod.snd := by
  -- A mask that hides no row leaves a column as it is.
  have whole : ∀ mask : Nat → Bool, (∀ row, mask row = false) → column.2.mask mask = column.2 := by
    intro mask clear
    have kept {α : Type} (cells : List (Option α)) : maskCells mask cells = cells := by
      apply List.ext_getElem?
      intro row
      simp [maskCells, clear]
    cases column.2 <;> simp [ArrowArray.mask, kept]
  -- Keeping every column does not change what is found.
  have found : ((batch.columns.filterMap some).find? fun other =>
      other.1.name = column.1.name) = some column :=
    find_filterMap (fun item rest same =>
      congrArg (fun column => column.1.name) (Option.some.inj same).symm) names listed
  rw [List.filterMap_some] at found
  unfold RecordBatch.columnByName
  rw [found]
  unfold Evolution.column
  split
  · simp [Evolution.unchanged, whole]
  · rfl

end Zradar.Parquet

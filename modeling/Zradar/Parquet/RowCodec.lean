import Zradar.Parquet.Columns

/-! Rows as columns that all have to be there, and what is read back from any batch. -/

namespace Zradar.Parquet

/-- The array that holds the cells of a type. -/
def DataType.arrayName : DataType → String
  | .utf8 => "StringArray"
  | .int64 => "Int64Array"
  | .int32 => "Int32Array"
  | .int16 => "Int16Array"
  | .float64 => "Float64Array"

namespace ColumnRead

/-- Whether the column has to be there, and a null cell is read as the default of its type. -/
def isPlain : ColumnRead → Bool
  | string _ | i64 _ | i32 _ | i16 _ | f64 _ => true
  | nullableI64 _ | optionalString _ | optionalJson _ | optionalI16 _ _ | optionalI32 _ _ => false

end ColumnRead

/-- How rows of one type are written as columns and read back. -/
structure RowCodec (ρ : Type) where
  schema : List ArrowField
  columns : List ρ → List ArrowArray
  /-- What is said of columns that do not fit together. -/
  construct : String
  reads : List ColumnRead
  values : ρ ≃ Values (reads.map ColumnRead.field)
  plain : ∀ column ∈ reads, column.isPlain = true
  names : (reads.map fun column => column.field.name).Nodup
  sized : ∀ rows, schema.length = (columns rows).length
  filled : ∀ rows, columns rows ≠ []
  /-- The columns of the writer are those of the reader. -/
  written : ∀ rows,
    schema.zip (columns rows) = columnsOf rows (reads.map ColumnRead.field) values

namespace RowCodec

variable {ρ : Type} (codec : RowCodec ρ)

/-- Convert rows into a batch of columns. -/
def toRecordBatch (rows : List ρ) : Except String RecordBatch :=
  match RecordBatch.tryNew codec.schema (codec.columns rows) with
  | some batch => .ok batch
  | none => .error codec.construct

/-- Convert a batch of columns back into rows. -/
def ofRecordBatch (batch : RecordBatch) : Except String (List ρ) :=
  if batch.numRows = 0 then .ok []
  else do
    let valuesOf ← readRows batch codec.reads
    .ok ((List.range batch.numRows).map fun row => codec.values.symm (valuesOf row))

end RowCodec

/-- The cells of some rows, with a default in the place of a null. -/
def fillCells {α : Type} (typeDefault : α) (rows : Nat) (cells : List (Option α)) :
    List (Option α) :=
  (List.range rows).map fun row => some (valueAt typeDefault cells row)

/-- A column of some rows without null cells. -/
def ArrowArray.filled (rows : Nat) : ArrowArray → ArrowArray
  | utf8 cells => .utf8 (fillCells "" rows cells)
  | int64 cells => .int64 (fillCells 0 rows cells)
  | int32 cells => .int32 (fillCells 0 rows cells)
  | int16 cells => .int16 (fillCells 0 rows cells)
  | float64 cells => .float64 (fillCells F64.zero rows cells)

namespace RecordBatch

/-- A batch has a column in the type of a field. -/
def Has (batch : RecordBatch) (field : ArrowField) : Prop :=
  ∃ array, batch.columnByName field.name = some array ∧ array.dataType = field.dataType

/-- A batch does not have the column of a field, for a reason. -/
def Lacks (batch : RecordBatch) (field : ArrowField) (fault : String) : Prop :=
  (batch.columnByName field.name = none ∧ fault = "missing column: " ++ field.name) ∨
    ∃ array, batch.columnByName field.name = some array ∧ array.dataType ≠ field.dataType ∧
      fault = "column " ++ field.name ++ " is not " ++ field.dataType.arrayName

end RecordBatch

/-- Rows are read back from their columns, and nothing is read where a column is missing. -/
structure ReadsBack {ρ : Type} (schema : List ArrowField)
    (encode : List ρ → Except String RecordBatch)
    (decode : RecordBatch → Except String (List ρ)) : Prop where
  /-- The columns of the schema may stand in any order, and among others. -/
  roundTrip : ∀ rows, ∃ batch, encode rows = .ok batch ∧ batch.numRows = rows.length ∧
    batch.columns.map Prod.fst = schema ∧
    ∀ other : RecordBatch, other.numRows = rows.length →
      (∀ column ∈ batch.columns, other.columnByName column.1.name = some column.2) →
        decode other = .ok rows
  /-- The first column of the schema that is not there is named. -/
  refused : ∀ batch fault, decode batch = .error fault ↔ batch.numRows ≠ 0 ∧
    ∃ before field after, schema = before ++ field :: after ∧
      (∀ earlier ∈ before, batch.Has earlier) ∧ batch.Lacks field fault
  /-- What is read is written as the columns of the batch, without null cells. -/
  accepted : ∀ batch rows, decode batch = .ok rows → rows.length = batch.numRows ∧
    ∃ again, encode rows = .ok again ∧ ∀ column ∈ again.columns, 0 < batch.numRows →
      ∃ array, batch.columnByName column.1.name = some array ∧
        array.dataType = column.1.dataType ∧ column.2 = array.filled batch.numRows

section

variable {α : Type} {downcast : ArrowArray → Option (List (Option α))} {dataType : DataType}
  {batch : RecordBatch} {name : String}

/-- A required column is read exactly where it is there in its type. -/
theorem requiredCol_eq_ok_iff
    (typed : ∀ array, (downcast array).isSome = true ↔ array.dataType = dataType)
    {cells : List (Option α)} :
    requiredCol downcast dataType.arrayName batch name = .ok cells ↔
      ∃ array, batch.columnByName name = some array ∧ array.dataType = dataType ∧
        downcast array = some cells := by
  unfold requiredCol
  cases found : batch.columnByName name with
  | none => simp
  | some array =>
    cases cast : downcast array with
    | none => simp [cast]
    | some others =>
      have same : array.dataType = dataType := (typed array).mp (by rw [cast]; rfl)
      simp [cast, same]

/-- A required column is refused exactly where it is lacking. -/
theorem requiredCol_eq_error_iff
    (typed : ∀ array, (downcast array).isSome = true ↔ array.dataType = dataType)
    {nullable : Bool} {fault : String} :
    requiredCol downcast dataType.arrayName batch name = .error fault ↔
      batch.Lacks ⟨name, dataType, nullable⟩ fault := by
  unfold requiredCol RecordBatch.Lacks
  cases found : batch.columnByName name with
  | none => simp [eq_comm]
  | some array =>
    have type := typed array
    cases cast : downcast array with
    | none =>
      have other : array.dataType ≠ dataType := by
        intro same
        rw [← type, cast] at same
        cases same
      simp only [cast]
      constructor
      · rintro ⟨⟩
        exact .inr ⟨array, rfl, other, rfl⟩
      · rintro (⟨missing, _⟩ | ⟨_, _, _, rfl⟩)
        · cases missing
        · rfl
    | some cells =>
      have same : array.dataType = dataType := type.mp (by rw [cast]; rfl)
      simp [cast, same]

end

theorem strings_typed (array : ArrowArray) :
    array.strings?.isSome = true ↔ array.dataType = .utf8 := by
  cases array <;> simp [ArrowArray.strings?, ArrowArray.dataType]

theorem i64s_typed (array : ArrowArray) :
    array.i64s?.isSome = true ↔ array.dataType = .int64 := by
  cases array <;> simp [ArrowArray.i64s?, ArrowArray.dataType]

theorem i32s_typed (array : ArrowArray) :
    array.i32s?.isSome = true ↔ array.dataType = .int32 := by
  cases array <;> simp [ArrowArray.i32s?, ArrowArray.dataType]

theorem i16s_typed (array : ArrowArray) :
    array.i16s?.isSome = true ↔ array.dataType = .int16 := by
  cases array <;> simp [ArrowArray.i16s?, ArrowArray.dataType]

theorem f64s_typed (array : ArrowArray) :
    array.f64s?.isSome = true ↔ array.dataType = .float64 := by
  cases array <;> simp [ArrowArray.f64s?, ArrowArray.dataType]

theorem map_eq_error_iff {α β : Type} {f : α → β} {result : Except String α} {fault : String} :
    result.map f = .error fault ↔ result = .error fault := by
  cases result <;> simp [Except.map]

theorem map_eq_ok {α β : Type} {f : α → β} {result : Except String α} {value : β}
    (mapped : result.map f = .ok value) : ∃ source, result = .ok source ∧ f source = value := by
  cases result with
  | error fault => cases mapped
  | ok source => exact ⟨source, rfl, Except.ok.inj mapped⟩

namespace ColumnRead

/-- A plain column is refused exactly where it is lacking. -/
theorem read_eq_error_iff {batch : RecordBatch} {column : ColumnRead} {fault : String}
    (plain : column.isPlain = true) :
    column.read batch = .error fault ↔ batch.Lacks (arrowField column.field) fault := by
  cases column with
  | string name => exact map_eq_error_iff.trans (requiredCol_eq_error_iff strings_typed)
  | i64 name => exact map_eq_error_iff.trans (requiredCol_eq_error_iff i64s_typed)
  | i32 name => exact map_eq_error_iff.trans (requiredCol_eq_error_iff i32s_typed)
  | i16 name => exact map_eq_error_iff.trans (requiredCol_eq_error_iff i16s_typed)
  | f64 name => exact map_eq_error_iff.trans (requiredCol_eq_error_iff f64s_typed)
  | nullableI64 | optionalString | optionalJson | optionalI16 | optionalI32 => cases plain

/-- What is read of a plain column are the cells of an array, with a default for a null. -/
theorem read_eq_ok {batch : RecordBatch} {column : ColumnRead}
    {valueOf : Nat → column.field.kind.Value} (plain : column.isPlain = true)
    (read : column.read batch = .ok valueOf) :
    ∃ array, batch.columnByName column.field.name = some array ∧
      array.dataType = (arrowField column.field).dataType ∧
      ∀ rows, arrayOf column.field.kind ((List.range rows).map valueOf) = array.filled rows := by
  have cellsOf {α : Type} (valueOf : Nat → α) (rows : Nat) :
      ((List.range rows).map valueOf).map some =
        (List.range rows).map fun row => some (valueOf row) := by
    rw [List.map_map]
    rfl
  cases column with
  | string name =>
    obtain ⟨cells, looked, rfl⟩ := map_eq_ok read
    obtain ⟨array, found, typed, cast⟩ := (requiredCol_eq_ok_iff strings_typed).mp looked
    refine ⟨array, found, typed, fun rows => ?_⟩
    cases array with
    | utf8 others =>
      cases cast
      exact congrArg ArrowArray.utf8 (cellsOf _ rows)
    | _ => cases typed
  | i64 name =>
    obtain ⟨cells, looked, rfl⟩ := map_eq_ok read
    obtain ⟨array, found, typed, cast⟩ := (requiredCol_eq_ok_iff i64s_typed).mp looked
    refine ⟨array, found, typed, fun rows => ?_⟩
    cases array with
    | int64 others =>
      cases cast
      exact congrArg ArrowArray.int64 (cellsOf _ rows)
    | _ => cases typed
  | i32 name =>
    obtain ⟨cells, looked, rfl⟩ := map_eq_ok read
    obtain ⟨array, found, typed, cast⟩ := (requiredCol_eq_ok_iff i32s_typed).mp looked
    refine ⟨array, found, typed, fun rows => ?_⟩
    cases array with
    | int32 others =>
      cases cast
      exact congrArg ArrowArray.int32 (cellsOf _ rows)
    | _ => cases typed
  | i16 name =>
    obtain ⟨cells, looked, rfl⟩ := map_eq_ok read
    obtain ⟨array, found, typed, cast⟩ := (requiredCol_eq_ok_iff i16s_typed).mp looked
    refine ⟨array, found, typed, fun rows => ?_⟩
    cases array with
    | int16 others =>
      cases cast
      exact congrArg ArrowArray.int16 (cellsOf _ rows)
    | _ => cases typed
  | f64 name =>
    obtain ⟨cells, looked, rfl⟩ := map_eq_ok read
    obtain ⟨array, found, typed, cast⟩ := (requiredCol_eq_ok_iff f64s_typed).mp looked
    refine ⟨array, found, typed, fun rows => ?_⟩
    cases array with
    | float64 others =>
      cases cast
      exact congrArg ArrowArray.float64 (cellsOf _ rows)
    | _ => cases typed
  | nullableI64 | optionalString | optionalJson | optionalI16 | optionalI32 => cases plain

/-- A plain column is read or refused by what the batch has. -/
theorem has_of_read {batch : RecordBatch} {column : ColumnRead}
    {valueOf : Nat → column.field.kind.Value} (plain : column.isPlain = true)
    (read : column.read batch = .ok valueOf) : batch.Has (arrowField column.field) := by
  obtain ⟨array, found, typed, _⟩ := read_eq_ok plain read
  exact ⟨array, by rwa [arrowField_name], typed⟩

end ColumnRead

/-- A batch that has the column of a field does not lack it. -/
theorem RecordBatch.Has.not_lacks {batch : RecordBatch} {field : ArrowField} {fault : String}
    (has : batch.Has field) : ¬ batch.Lacks field fault := by
  obtain ⟨array, found, typed⟩ := has
  rintro (⟨missing, _⟩ | ⟨other, among, differs, _⟩)
  · rw [found] at missing
    cases missing
  · rw [found] at among
    cases among
    exact differs typed

/-- Plain columns are refused for the first one that is lacking. -/
theorem readRows_eq_error_iff {batch : RecordBatch} {fault : String} {columns : List ColumnRead}
    (plain : ∀ column ∈ columns, column.isPlain = true) :
    readRows batch columns = .error fault ↔
      ∃ before field after,
        (columns.map fun column => arrowField column.field) = before ++ field :: after ∧
          (∀ earlier ∈ before, batch.Has earlier) ∧ batch.Lacks field fault := by
  -- The induction is on the columns, which are read one after the other.
  induction columns with
  | nil => simp [readRows]
  | cons column columns ih =>
    obtain ⟨isPlain, arePlain⟩ := List.forall_mem_cons.mp plain
    cases first : column.read batch with
    | error reason =>
      -- Nothing is read after the first column, if that is lacking.
      have lacks := (ColumnRead.read_eq_error_iff isPlain).mp first
      have stopped : readRows batch (column :: columns) = .error reason := by
        simp only [readRows, first, bind, Except.bind]
      rw [stopped, Except.error.injEq]
      constructor
      · rintro rfl
        exact ⟨[], _, _, rfl, by simp, lacks⟩
      · rintro ⟨before, field, after, split, had, missing⟩
        cases before with
        | nil =>
          obtain ⟨rfl, _⟩ := List.cons.inj split
          have again := (ColumnRead.read_eq_error_iff isPlain).mpr missing
          rw [first] at again
          exact Except.error.inj again
        | cons earlier before =>
          obtain ⟨rfl, _⟩ := List.cons.inj split
          exact absurd lacks (had _ List.mem_cons_self).not_lacks
    | ok valueOf =>
      have has := ColumnRead.has_of_read isPlain first
      have continued : readRows batch (column :: columns) = .error fault ↔
          readRows batch columns = .error fault := by
        simp only [readRows, first, bind, Except.bind]
        cases readRows batch columns <;> simp
      rw [continued, ih arePlain]
      constructor
      · rintro ⟨before, field, after, split, had, lacks⟩
        refine ⟨arrowField column.field :: before, field, after, ?_, ?_, lacks⟩
        · rw [List.map_cons, split, List.cons_append]
        · exact List.forall_mem_cons.mpr ⟨has, had⟩
      · rintro ⟨before, field, after, split, had, lacks⟩
        cases before with
        | nil =>
          obtain ⟨rfl, _⟩ := List.cons.inj split
          exact absurd lacks has.not_lacks
        | cons earlier before =>
          obtain ⟨_, later⟩ := List.cons.inj split
          exact ⟨before, field, after, later, (List.forall_mem_cons.mp had).2, lacks⟩

/-- Rows with the values that are read have the columns of the batch, without null cells. -/
theorem columnsOf_readRows {ρ : Type} {batch : RecordBatch} {columns : List ColumnRead}
    {values : ρ → Values (columns.map ColumnRead.field)} {rows : List ρ}
    {valuesOf : Nat → Values (columns.map ColumnRead.field)}
    (plain : ∀ column ∈ columns, column.isPlain = true)
    (read : readRows batch columns = .ok valuesOf)
    (same : ∀ row (inside : row < rows.length), values rows[row] = valuesOf row) :
    ∀ column ∈ columnsOf rows (columns.map ColumnRead.field) values,
      ∃ array, batch.columnByName column.1.name = some array ∧
        array.dataType = column.1.dataType ∧ column.2 = array.filled rows.length := by
  -- The induction is on the columns, as they were read.
  induction columns with
  | nil => exact fun _ listed => absurd listed List.not_mem_nil
  | cons column columns ih =>
    obtain ⟨isPlain, arePlain⟩ := List.forall_mem_cons.mp plain
    cases first : column.read batch with
    | error fault => simp [readRows, first, bind, Except.bind] at read
    | ok valueOf =>
      cases later : readRows batch columns with
      | error fault => simp [readRows, first, later, bind, Except.bind] at read
      | ok othersOf =>
        simp only [readRows, first, later, bind, Except.bind] at read
        cases read
        have heads : rows.map (fun row => (values row).1) =
            (List.range rows.length).map valueOf := by
          apply List.ext_getElem (by simp)
          intro row inside _
          rw [List.length_map] at inside
          rw [List.getElem_map, List.getElem_map, List.getElem_range]
          exact congrArg Prod.fst (same row inside)
        have tails : ∀ row (inside : row < rows.length), (values rows[row]).2 = othersOf row :=
          fun row inside => congrArg Prod.snd (same row inside)
        obtain ⟨array, found, typed, fills⟩ := ColumnRead.read_eq_ok isPlain first
        change ∀ column ∈ _ :: columnsOf rows _ _, _
        rw [List.forall_mem_cons]
        refine ⟨⟨array, ?_, typed, ?_⟩, ih arePlain later tails⟩
        · rwa [arrowField_name]
        · change arrayOf column.field.kind (rows.map fun row => (values row).1) = _
          rw [heads]
          exact fills rows.length

/-- Plain columns are read as they were written, whatever happens to others. -/
theorem cells_of_plain {dropped nulled : String → Bool} {columns : List ColumnRead}
    (plain : ∀ column ∈ columns, column.isPlain = true)
    (values : Values (columns.map ColumnRead.field)) :
    cells dropped nulled columns values = values := by
  induction columns with
  | nil => rfl
  | cons column columns ih =>
    obtain ⟨isPlain, arePlain⟩ := List.forall_mem_cons.mp plain
    have rest := ih arePlain values.2
    have first (dropped nulled : Bool) (value : column.field.kind.Value) :
        column.cell dropped nulled value = value := by
      cases column with
      | string | i64 | i32 | i16 | f64 => rfl
      | nullableI64 | optionalString | optionalJson | optionalI16 | optionalI32 => cases isPlain
    exact Prod.ext (first _ _ values.1) rest

theorem columnsOf_fields {ρ : Type} (rows : List ρ) (fields : List Field)
    (values : ρ → Values fields) :
    (columnsOf rows fields values).map Prod.fst = fields.map arrowField := by
  induction fields with
  | nil => rfl
  | cons field fields ih => rw [columnsOf, List.map_cons, List.map_cons, ih]

namespace RowCodec

variable {ρ : Type} (codec : RowCodec ρ)

/-- The batch that is written for rows. -/
def batch (rows : List ρ) : RecordBatch :=
  ⟨columnsOf rows (codec.reads.map ColumnRead.field) codec.values, rows.length⟩

/-- Rows can always be converted into a batch. -/
theorem toRecordBatch_eq (rows : List ρ) : codec.toRecordBatch rows = .ok (codec.batch rows) := by
  have bundled : RecordBatch.tryNew codec.schema (codec.columns rows) = some (codec.batch rows) :=
    tryNew_columnsOf (codec.sized rows) (codec.filled rows) (codec.written rows)
  unfold toRecordBatch
  rw [bundled]

/-- The schema lists what is read. -/
theorem schema_eq : codec.schema = codec.reads.map fun column => arrowField column.field := by
  have zipped := congrArg (List.map Prod.fst) (codec.written [])
  rw [List.map_fst_zip (Nat.le_of_eq (codec.sized [])), columnsOf_fields, List.map_map] at zipped
  exact zipped

/-- Rows are read back from any batch that has their columns. -/
theorem ofRecordBatch_of_found {rows : List ρ} {other : RecordBatch}
    (sized : other.numRows = rows.length)
    (found : ∀ column ∈ (codec.batch rows).columns,
      other.columnByName column.1.name = some column.2) :
    codec.ofRecordBatch other = .ok rows := by
  -- None of the columns may be missing, so nothing has become of them.
  have marked : ∀ column ∈ codec.reads, column.field.name ∈ ([] : List String) ↔
      column.isOptional = true := by
    intro column listed
    have plain := codec.plain column listed
    cases column with
    | string | i64 | i32 | i16 | f64 | nullableI64 => simp [ColumnRead.isOptional]
    | optionalString | optionalJson | optionalI16 | optionalI32 => cases plain
  have unchanged : ∀ column ∈ columnsOf rows (codec.reads.map ColumnRead.field) codec.values,
      other.columnByName column.1.name =
        (Evolution.unchanged.column [] column).map Prod.snd :=
    fun column listed => found column listed
  obtain ⟨valuesOf, read, values⟩ :=
    readRows_evolved marked unchanged
  unfold ofRecordBatch
  by_cases none : other.numRows = 0
  · have empty := List.eq_nil_of_length_eq_zero (sized.symm.trans none)
    rw [if_pos none, empty]
  · rw [if_neg none, read]
    change Except.ok _ = _
    congr 1
    -- Each row is made of the values that were written for it.
    apply List.ext_getElem (by simp [sized])
    intro row _ inside
    rw [List.getElem_map, List.getElem_range, values row inside, cells_of_plain codec.plain,
      Equiv.symm_apply_apply]

theorem ofRecordBatch_eq_error_iff (batch : RecordBatch) (fault : String) :
    codec.ofRecordBatch batch = .error fault ↔ batch.numRows ≠ 0 ∧
      readRows batch codec.reads = .error fault := by
  unfold ofRecordBatch
  by_cases none : batch.numRows = 0
  · simp [none]
  · simp only [if_neg none]
    cases readRows batch codec.reads <;> simp [none, bind, Except.bind]

/-- Rows that are read have the columns of the batch, without null cells. -/
theorem columns_of_ofRecordBatch {batch : RecordBatch} {rows : List ρ}
    (read : codec.ofRecordBatch batch = .ok rows) : rows.length = batch.numRows ∧
      ∀ column ∈ (codec.batch rows).columns, 0 < batch.numRows →
        ∃ array, batch.columnByName column.1.name = some array ∧
          array.dataType = column.1.dataType ∧ column.2 = array.filled batch.numRows := by
  unfold ofRecordBatch at read
  by_cases none : batch.numRows = 0
  · rw [if_pos none] at read
    cases read
    exact ⟨none.symm, fun _ _ some => absurd none (Nat.ne_of_gt some)⟩
  · rw [if_neg none] at read
    cases looked : readRows batch codec.reads with
    | error fault => simp [looked, bind, Except.bind] at read
    | ok valuesOf =>
      simp only [looked, bind, Except.bind, Except.ok.injEq] at read
      have sized : rows.length = batch.numRows := by rw [← read]; simp
      refine ⟨sized, fun column listed _ => ?_⟩
      have same : ∀ row (inside : row < rows.length),
          codec.values rows[row] = valuesOf row := by
        subst read
        intro row inside
        rw [List.getElem_map, List.getElem_range, Equiv.apply_symm_apply]
      rw [← sized]
      exact columnsOf_readRows codec.plain looked same column listed

/-- A codec of rows reads back what it writes. -/
theorem readsBack : ReadsBack codec.schema codec.toRecordBatch codec.ofRecordBatch where
  roundTrip := by
    intro rows
    refine ⟨codec.batch rows, codec.toRecordBatch_eq rows, rfl, ?_, ?_⟩
    · rw [codec.schema_eq, batch, columnsOf_fields, List.map_map]
      rfl
    · exact fun other sized found => codec.ofRecordBatch_of_found sized found
  refused := by
    intro batch fault
    rw [codec.ofRecordBatch_eq_error_iff, readRows_eq_error_iff codec.plain, codec.schema_eq]
  accepted := by
    intro batch rows read
    obtain ⟨sized, columns⟩ := codec.columns_of_ofRecordBatch read
    exact ⟨sized, codec.batch rows, codec.toRecordBatch_eq rows, columns⟩

end RowCodec

end Zradar.Parquet

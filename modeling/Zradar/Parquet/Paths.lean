import Zradar.Otlp.Attributes
import Zradar.Parquet.Partition

/-! Where the writer puts its files, and which service names keep them in their directory. -/

namespace Zradar

theorem digitChar_ne_slash {value : Nat} (small : value < 16) : Nat.digitChar value ≠ '/' := by
  interval_cases value <;> decide

/-- The text of a UUID is one segment of a path. -/
theorem Uuid.plainName_toText (uuid : Uuid) : PlainName uuid.toText := by
  have digit : '/' ∉ uuid.digits := by
    intro listed
    obtain ⟨byte, _, inside⟩ := List.mem_flatMap.mp listed
    simp only [List.mem_cons, List.not_mem_nil, or_false] at inside
    have bound := byte.toNat_lt
    rcases inside with same | same
    · exact digitChar_ne_slash (by omega) same.symm
    · exact digitChar_ne_slash (by omega) same.symm
  have dash : '-' ∈ uuid.toText.toList := by
    simp [toText]
  apply plainName_of_mem (by decide) dash
  -- Between the dashes stand parts of the digits.
  have part (front length : Nat) : '/' ∉ (uuid.digits.drop front).take length :=
    fun inside => digit (List.mem_of_mem_drop (List.mem_of_mem_take inside))
  have first : '/' ∉ uuid.digits.take 8 := fun inside => digit (List.mem_of_mem_take inside)
  have last : '/' ∉ uuid.digits.drop 20 := fun inside => digit (List.mem_of_mem_drop inside)
  simp [toText, part, first, last]

namespace Parquet

/-- A text of decimal digits. -/
def IsNumber (text : String) : Prop :=
  text ≠ "" ∧ ∀ char ∈ text.toList, char.isDigit = true

/-- What the writer relies on for the names it makes up itself. -/
structure PathNames (env : WriterEnv) : Prop where
  /-- A date and hour is formatted as four numbers between slashes. -/
  date : ∀ tsNs, ∃ year month day hour,
    tsNsToDatePath env tsNs = year ++ "/" ++ month ++ "/" ++ day ++ "/" ++ hour ∧
      ∀ part ∈ [year, month, day, hour], IsNumber part
  /-- The text of a random UUID has no slash in it. -/
  fileId : ∀ fileNumber, '/' ∉ (env.fileId fileNumber).toList

/-- The directory of one workspace and signal. -/
def signalDir (env : WriterEnv) (workspaceId signalType : String) : String :=
  pathJoin env.dataDir ("files/" ++ workspaceId ++ "/" ++ signalType)

/-- A number has a character that is no dot. -/
theorem IsNumber.exists_ne_dot {text : String} (number : IsNumber text) :
    ∃ char ∈ text.toList, char ≠ '.' := by
  -- It has a digit, and no digit is a dot.
  obtain ⟨some, digits⟩ := number
  obtain ⟨char, listed⟩ : ∃ char, char ∈ text.toList := by
    apply List.exists_mem_of_ne_nil
    intro empty
    exact some (String.toList_inj.mp empty)
  refine ⟨char, listed, ?_⟩
  rintro rfl
  exact absurd (digits _ listed) (by decide)

theorem IsNumber.plainName {text : String} (number : IsNumber text) : PlainName text := by
  obtain ⟨char, listed, other⟩ := number.exists_ne_dot
  apply plainName_of_mem other listed
  intro slash
  exact absurd (number.2 _ slash) (by decide)

/-- No number is the name of a signal. -/
theorem IsNumber.ne_signalTag {text : String} (number : IsNumber text) (batch : IngestBatch) :
    signalTag batch ≠ text := by
  rintro rfl
  have digits := number.2
  -- The first letter of each signal is no digit.
  cases batch with
  | spans rows => exact absurd (digits 't' (by simp [signalTag])) (by decide)
  | metrics rows => exact absurd (digits 'm' (by simp [signalTag])) (by decide)
  | logs rows => exact absurd (digits 'l' (by simp [signalTag])) (by decide)
  | scores rows => exact absurd (digits 's' (by simp [signalTag])) (by decide)

theorem plainName_signalTag (batch : IngestBatch) : PlainName (signalTag batch) := by
  unfold PlainName
  cases batch <;> simp [signalTag]

/-- The segments of the path down to a signal. -/
theorem pathSegments_signal (workspaceId : String) (batch : IngestBatch)
    (plain : PlainName workspaceId) :
    pathSegments ("files/" ++ workspaceId ++ "/" ++ signalTag batch) =
      [.name "files", .name workspaceId, .name (signalTag batch)] := by
  -- Each of the three names is a segment of its own.
  have start : "files/" ++ workspaceId = "files" ++ "/" ++ workspaceId := rfl
  have files : PlainName "files" := by
    unfold PlainName
    decide
  rw [start, pathSegments_slash, pathSegments_slash, pathSegments_plain files,
    pathSegments_plain plain, pathSegments_plain (plainName_signalTag batch)]
  rfl

/-- The names behind the stream name, which neither leave a directory nor repeat the signal. -/
theorem pathSegments_file {env : WriterEnv} (names : PathNames env) (batch : IngestBatch)
    (tsNs : Int64) (fileNumber : Nat) :
    ∃ tail : List String, tail ≠ [] ∧ signalTag batch ∉ tail ∧
      pathSegments (tsNsToDatePath env tsNs ++ "/" ++ (env.fileId fileNumber ++ ".parquet")) =
        tail.map .name := by
  obtain ⟨year, month, day, hour, formatted, numbers⟩ := names.date tsNs
  have number : IsNumber year ∧ IsNumber month ∧ IsNumber day ∧ IsNumber hour := by
    simpa using numbers
  obtain ⟨isYear, isMonth, isDay, isHour⟩ := number
  -- The extension makes the file name a plain one, and no signal.
  have file : PlainName (env.fileId fileNumber ++ ".parquet") := by
    have letter : 'p' ∈ (env.fileId fileNumber ++ ".parquet").toList := by simp
    apply plainName_of_mem (by decide) letter
    simpa using names.fileId fileNumber
  have other : signalTag batch ≠ env.fileId fileNumber ++ ".parquet" := by
    intro same
    have dot : '.' ∈ (signalTag batch).toList := by simp [same]
    cases batch <;> simp [signalTag] at dot
  refine ⟨[year, month, day, hour, env.fileId fileNumber ++ ".parquet"], by simp, ?_, ?_⟩
  · simp only [List.mem_cons, List.not_mem_nil, or_false, not_or]
    exact ⟨isYear.ne_signalTag batch, isMonth.ne_signalTag batch, isDay.ne_signalTag batch,
      isHour.ne_signalTag batch, other⟩
  · rw [formatted, pathSegments_slash, pathSegments_slash, pathSegments_slash, pathSegments_slash,
      pathSegments_plain isYear.plainName, pathSegments_plain isMonth.plainName,
      pathSegments_plain isDay.plainName, pathSegments_plain isHour.plainName,
      pathSegments_plain file]
    rfl

/-- The directory of a signal ends with the name of the signal. -/
theorem lexicalPlace_signalDir (env : WriterEnv) {workspaceId : String}
    (plain : PlainName workspaceId) (batch : IngestBatch) :
    lexicalPlace (signalDir env workspaceId (signalTag batch)) =
      ⟨(lexicalPlace env.dataDir).ups,
        (lexicalPlace env.dataDir).names ++ ["files", workspaceId, signalTag batch]⟩ := by
  have below : isAbsolute ("files/" ++ workspaceId ++ "/" ++ signalTag batch) = false := by
    simp [isAbsolute]
  unfold signalDir
  rw [lexicalPlace_join env.dataDir below, pathSegments_signal workspaceId batch plain]
  exact Place.walk_names _ _ ["files", workspaceId, signalTag batch]

/-- The path of a file goes on from the directory of its signal, first with the stream name. -/
theorem lexicalPlace_filePath {env : WriterEnv} (names : PathNames env) {workspaceId : String}
    (plain : PlainName workspaceId) (streamName : String) (batch : IngestBatch)
    (fileNumber : Nat) :
    ∃ tail : List String, tail ≠ [] ∧ signalTag batch ∉ tail ∧
      isAbsolute (fileEntry env workspaceId streamName batch fileNumber).filePath =
        isAbsolute env.dataDir ∧
      lexicalPlace (fileEntry env workspaceId streamName batch fileNumber).filePath =
        (lexicalPlace (signalDir env workspaceId (signalTag batch))).walk (isAbsolute env.dataDir)
          (pathSegments streamName ++ tail.map .name) := by
  obtain ⟨tail, some, absent, listed⟩ :=
    pathSegments_file names batch ((reach batch).1.min?.getD 0) fileNumber
  refine ⟨tail, some, absent, ?_⟩
  -- The part below the data directory is a relative path.
  generalize relative : "files/" ++ workspaceId ++ "/" ++ signalTag batch ++ "/" ++ streamName ++
    "/" ++ (tsNsToDatePath env ((reach batch).1.min?.getD 0) ++ "/" ++
      (env.fileId fileNumber ++ ".parquet")) = path
  have joined : (fileEntry env workspaceId streamName batch fileNumber).filePath =
      pathJoin env.dataDir path := by
    rw [← relative]
    simp only [fileEntry, batchEntry, String.append_assoc]
  have below : isAbsolute path = false := by
    rw [← relative]
    simp [isAbsolute]
  -- Its segments are the directory of the signal, the stream name and the tail.
  have segments : pathSegments path =
      [.name "files", .name workspaceId, .name (signalTag batch)] ++
        (pathSegments streamName ++ tail.map .name) := by
    rw [← relative, pathSegments_slash, pathSegments_slash, listed,
      pathSegments_signal workspaceId batch plain, List.append_assoc]
  have front := Place.walk_names (isAbsolute env.dataDir) (lexicalPlace env.dataDir)
    ["files", workspaceId, signalTag batch]
  simp only [List.map_cons, List.map_nil] at front
  rw [joined, isAbsolute_join env.dataDir below, lexicalPlace_join env.dataDir below, segments,
    Place.walk_append, lexicalPlace_signalDir env plain batch, front]
  exact ⟨rfl, rfl⟩

/-- Which stream names keep a file below the directory of its signal. -/
theorem under_filePath_iff {env : WriterEnv} (names : PathNames env) {workspaceId : String}
    (plain : PlainName workspaceId) (streamName : String) (batch : IngestBatch)
    (fileNumber : Nat) :
    (lexicalPlace (signalDir env workspaceId (signalTag batch))).Under
        (lexicalPlace (fileEntry env workspaceId streamName batch fileNumber).filePath) ↔
      (lexicalPlace (signalDir env workspaceId (signalTag batch))).Reentered
        (isAbsolute env.dataDir) (Place.relative (pathSegments streamName)) := by
  -- The tail has no segment that is the tag of the signal.
  obtain ⟨tail, some, absent, _, place⟩ :=
    lexicalPlace_filePath names plain streamName batch fileNumber
  have ends : (lexicalPlace (signalDir env workspaceId (signalTag batch))).names.getLast? =
      Option.some (signalTag batch) := by
    rw [lexicalPlace_signalDir env plain batch]
    simp
  rw [place]
  exact Place.under_walk_iff (isAbsolute env.dataDir) ends absent some _

/--
A file is written below the directory of its workspace and signal exactly when the directories
that its stream name leaves are the ones it leads back into.
-/
theorem write_inside_workspace_iff (env : WriterEnv) (names : PathNames env) (workspace : Uuid)
    (serviceName : String) (batch : IngestBatch) (fileNumber : Nat) :
    LexicallyUnder (signalDir env workspace.toText (signalTag batch))
        (fileEntry env workspace.toText (streamOf serviceName) batch fileNumber).filePath ↔
      (lexicalPlace (signalDir env workspace.toText (signalTag batch))).Reentered
        (isAbsolute env.dataDir) (Place.relative (pathSegments (streamOf serviceName))) := by
  have plain := workspace.plainName_toText
  obtain ⟨_, _, _, absolute, _⟩ :=
    lexicalPlace_filePath names plain (streamOf serviceName) batch fileNumber
  have directory : isAbsolute (signalDir env workspace.toText (signalTag batch)) =
      isAbsolute env.dataDir := by
    unfold signalDir
    apply isAbsolute_join
    simp [isAbsolute]
  -- Both paths start in the same place, so only the way down is left to compare.
  have level : isAbsolute (signalDir env workspace.toText (signalTag batch)) =
      isAbsolute (fileEntry env workspace.toText (streamOf serviceName) batch fileNumber).filePath :=
    directory.trans absolute.symm
  unfold LexicallyUnder
  rw [and_iff_right level]
  exact under_filePath_iff names plain (streamOf serviceName) batch fileNumber

/-- The first day of the epoch is formatted as numbers. -/
theorem firstDayEnv_names : PathNames firstDayEnv where
  date := by
    intro tsNs
    have isNumber (text : String) (some : text ≠ "")
        (digits : text.toList.all Char.isDigit = true) : IsNumber text :=
      ⟨some, List.all_eq_true.mp digits⟩
    -- The first three parts of the date are the same for every time.
    have numbers (hour : String) (number : IsNumber hour) :
        ∀ part ∈ ["1970", "01", "01", hour], IsNumber part := by
      simp only [List.mem_cons, List.not_mem_nil, or_false, forall_eq_or_imp, forall_eq]
      exact ⟨isNumber _ (by decide) (by decide), isNumber _ (by decide) (by decide),
        isNumber _ (by decide) (by decide), number⟩
    simp only [tsNsToDatePath, firstDayEnv]
    split_ifs
    · exact ⟨_, _, _, "10", rfl, numbers _ (isNumber _ (by decide) (by decide))⟩
    · exact ⟨_, _, _, "11", rfl, numbers _ (isNumber _ (by decide) (by decide))⟩
    · exact ⟨_, _, _, "00", rfl, numbers _ (isNumber _ (by decide) (by decide))⟩
  fileId := by
    intro fileNumber
    simp [firstDayEnv]

/-- A service name with a way up and back down again stays in the directory. -/
theorem detour_stays_inside :
    LexicallyUnder (signalDir firstDayEnv Uuid.nil.toText "logs")
      (fileEntry firstDayEnv Uuid.nil.toText (streamOf "api/../../logs/web")
        (.logs [logAt Uuid.nil.toText "api/../../logs/web" 10]) 0).filePath :=
  (write_inside_workspace_iff firstDayEnv firstDayEnv_names Uuid.nil "api/../../logs/web"
    (.logs [logAt Uuid.nil.toText "api/../../logs/web" 10]) 0).mpr (by decide)

/-- A sender can name a service after the directory of another workspace. -/
def foreignService : String := "../../11111111-1111-4111-8111-111111111111/logs/api"

/-- Not every service name keeps the files of a sender in the directory of its workspace. -/
theorem service_name_leaves_workspace :
    ¬ ∀ (env : WriterEnv) (_ : PathNames env) (workspace : Uuid)
      (resource : Option Otlp.Resource) (batch : IngestBatch) (fileNumber : Nat),
      LexicallyUnder (signalDir env workspace.toText (signalTag batch))
        (fileEntry env workspace.toText (streamOf (Otlp.logsServiceName resource)) batch
          fileNumber).filePath := by
  intro claim
  have inside := claim firstDayEnv firstDayEnv_names Uuid.nil
    (some (Otlp.namedResource foreignService))
    (.logs [logAt Uuid.nil.toText foreignService 10]) 0
  rw [(Otlp.serviceName_namedResource (by decide)).2] at inside
  -- Two directories are left, and the first of them is entered under another name.
  have back := (under_filePath_iff firstDayEnv_names Uuid.nil.plainName_toText _ _ _).mp inside.2
  exact absurd back (by decide +kernel)

end Parquet

end Zradar

import Zradar.Lib.Fallible
import Zradar.Lib.UrlPath
import Zradar.Parquet.DiskCache
import Zradar.Parquet.FileList
import Zradar.Parquet.Paths

/-! The URLs that a query scans, and the service names under which files are found again. -/

namespace Zradar

/-- The text of a UUID is made of letters, digits and dashes. -/
theorem Uuid.urlName_toText (uuid : Uuid) : UrlName uuid.toText := by
  have letter (value : Nat) (small : value < 16) : nameChar (Nat.digitChar value) = true := by
    interval_cases value <;> decide
  have digit : ∀ char ∈ uuid.digits, nameChar char = true := by
    intro char listed
    obtain ⟨byte, _, inside⟩ := List.mem_flatMap.mp listed
    have bound := byte.toNat_lt
    simp only [List.mem_cons, List.not_mem_nil, or_false] at inside
    rcases inside with rfl | rfl
    · exact letter _ (by omega)
    · exact letter _ (by omega)
  refine ⟨?_, '-', by simp [toText], by decide⟩
  -- Between the dashes stand parts of the digits.
  have part (front length : Nat) :
      ∀ char ∈ (uuid.digits.drop front).take length, nameChar char = true :=
    fun char inside => digit char (List.mem_of_mem_drop (List.mem_of_mem_take inside))
  have first : ∀ char ∈ uuid.digits.take 8, nameChar char = true :=
    fun char inside => digit char (List.mem_of_mem_take inside)
  have last : ∀ char ∈ uuid.digits.drop 20, nameChar char = true :=
    fun char inside => digit char (List.mem_of_mem_drop inside)
  have dash : nameChar '-' = true := by decide
  unfold toText
  rw [String.toList_ofList]
  simp only [List.forall_mem_append, List.forall_mem_cons]
  exact ⟨first, dash, part 8 4, dash, part 12 4, dash, part 16 4, dash, last⟩

namespace Parquet

/-- What a query resolves its files with. -/
structure ReadEnv where
  /-- The disk cache, if there is one: where it keeps the copy of an object. -/
  diskCache : Option (String → Option String)
  canonicalize : String → Option String
  fileExists : String → Bool

section

variable (env : ReadEnv)

/-- The path of a file on this machine. -/
def localPathOf (file : FileListEntry) : Except String String :=
  if file.location = "s3" then
    match env.diskCache with
    | some getOrFetch =>
      match getOrFetch (extractS3Key file.filePath) with
      | some path => .ok path
      | none => .error ("Failed to fetch S3 file: " ++ file.filePath)
    | none => .error ("File " ++ file.filePath ++ " is in S3 but no DiskCache is configured")
  else if "./".toList.isPrefixOf file.filePath.toList then
    match env.canonicalize file.filePath with
    | some path => .ok path
    | none => .error ("Failed to resolve path: " ++ file.filePath)
  else .ok file.filePath

/-- The paths to scan, without those of local files that are gone. -/
def resolvedPaths : List FileListEntry → Except String (List String)
  | [] => .ok []
  | file :: files => do
    let path ← localPathOf env file
    if file.location ≠ "s3" ∧ env.fileExists path = false then resolvedPaths files
    else
      let paths ← resolvedPaths files
      .ok (path :: paths)

/-- The URL under which a path is scanned. -/
def listingUrl (path : String) : String :=
  if isAbsolute path then "file://" ++ path else "file:///" ++ path

/-- The place that the URL of a path denotes. -/
def listingPlace (path : String) : Except String (Place (List UInt8)) :=
  match urlPlace (listingUrl path) with
  | some place => .ok place
  | none => .error "Failed to parse file URLs for ListingTable"

/-- The places that a query scans. -/
def queryParquetAs (files : List FileListEntry) : Except String (List (Place (List UInt8))) := do
  let paths ← resolvedPaths env files
  paths.mapM listingPlace

end

/-- What is relied on for the names that the writer makes up itself. -/
structure UrlNames (env : WriterEnv) : Prop extends PathNames env where
  uuid : ∀ fileNumber, ∃ uuid : Uuid, env.fileId fileNumber = uuid.toText

/-- A file that the writer has registered for a service of a workspace. -/
structure WrittenFile where
  id : Nat
  workspace : Uuid
  serviceName : String
  batch : IngestBatch
  fileNumber : Nat

/-- The entry of a written file, as it is live in the file list. -/
def WrittenFile.entry (env : WriterEnv) (file : WrittenFile) : FileListEntry :=
  { fileEntry env file.workspace.toText (streamOf file.serviceName) file.batch file.fileNumber with
    id := file.id
    deleted := false }

/-- The place where a file is registered. -/
def WrittenFile.place (env : WriterEnv) (file : WrittenFile) : Place (List UInt8) :=
  bytePlace (utf8 (file.entry env).filePath)

theorem IsNumber.urlName {text : String} (number : IsNumber text) : UrlName text := by
  -- Digits are letters of a name, and there is at least one of them.
  refine ⟨fun char listed => ?_, number.exists_ne_dot⟩
  simp [nameChar, Char.isAlphanum, number.2 char listed]

theorem urlName_signalTag (batch : IngestBatch) : UrlName (signalTag batch) := by
  -- The signals are named by letters alone.
  cases batch with
  | spans rows => exact (by decide : UrlName "traces")
  | metrics rows => exact (by decide : UrlName "metrics")
  | logs rows => exact (by decide : UrlName "logs")
  | scores rows => exact (by decide : UrlName "scores")

/-- Only the data directory and the stream name can make the path of a file mean something else. -/
theorem utf8_filePath {env : WriterEnv} (names : UrlNames env)
    (absolute : isAbsolute env.dataDir = true) (file : WrittenFile) :
    (UrlSafe (utf8 (file.entry env).filePath) ↔
        UrlSafe (utf8 env.dataDir) ∧ UrlSafe (utf8 (streamOf file.serviceName))) ∧
      (Climbs (utf8 (file.entry env).filePath) ↔
        Climbs (utf8 env.dataDir) ∨ Climbs (utf8 (streamOf file.serviceName))) := by
  obtain ⟨year, month, day, hour, formatted, numbers⟩ :=
    names.date ((reach file.batch).1.min?.getD 0)
  have number : IsNumber year ∧ IsNumber month ∧ IsNumber day ∧ IsNumber hour := by
    simpa using numbers
  obtain ⟨isYear, isMonth, isDay, isHour⟩ := number
  obtain ⟨uuid, fileId⟩ := names.uuid file.fileNumber
  have parquet : UrlName (uuid.toText ++ ".parquet") := by
    obtain ⟨tame, char, listed, other⟩ := uuid.urlName_toText
    refine ⟨?_, char, by simp [listed], other⟩
    rw [String.toList_append, List.forall_mem_append]
    exact ⟨tame, List.all_eq_true.mp (by decide)⟩
  have files : UrlName "files" := by decide
  -- The path is what stands between its slashes.
  have path : (file.entry env).filePath = pathJoin env.dataDir ("files" ++ "/" ++
      file.workspace.toText ++ "/" ++ signalTag file.batch ++ "/" ++ streamOf file.serviceName ++
      "/" ++ year ++ "/" ++ month ++ "/" ++ day ++ "/" ++ hour ++ "/" ++
      (uuid.toText ++ ".parquet")) := by
    simp only [WrittenFile.entry, fileEntry, batchEntry, formatted, fileId, ← String.append_assoc]
    rfl
  have below : isAbsolute ("files" ++ "/" ++ file.workspace.toText ++ "/" ++
      signalTag file.batch ++ "/" ++ streamOf file.serviceName ++ "/" ++ year ++ "/" ++ month ++
      "/" ++ day ++ "/" ++ hour ++ "/" ++ (uuid.toText ++ ".parquet")) = false := by
    simp [isAbsolute]
  obtain ⟨safe, climbs⟩ := utf8_join absolute below
  rw [path, safe, climbs]
  -- Every part of the path but two is a safe name.
  simp only [utf8_slash, urlSafe_slash, climbs_slash, files.safe, parquet.safe, isYear.urlName.safe,
    isMonth.urlName.safe, isDay.urlName.safe, isHour.urlName.safe,
    file.workspace.urlName_toText.safe, (urlName_signalTag file.batch).safe, true_and, and_true,
    false_or, or_false, and_self]

theorem isAbsolute_filePath {env : WriterEnv} (absolute : isAbsolute env.dataDir = true)
    (file : WrittenFile) : isAbsolute (file.entry env).filePath = true := by
  simp only [WrittenFile.entry, fileEntry, batchEntry]
  rw [isAbsolute_join env.dataDir (by simp [isAbsolute]), absolute]

/-- Live local files of the writer are resolved to their own paths. -/
theorem resolvedPaths_written {env : WriterEnv} (absolute : isAbsolute env.dataDir = true)
    (reader : ReadEnv) {files : List WrittenFile}
    (live : ∀ file ∈ files, reader.fileExists (file.entry env).filePath = true) :
    resolvedPaths reader (files.map (·.entry env)) =
      .ok (files.map fun file => (file.entry env).filePath) := by
  -- The files are resolved one after the other.
  induction files with
  | nil => rfl
  | cons file files ih =>
    obtain ⟨present, others⟩ := List.forall_mem_cons.mp live
    -- The path starts with a slash, so it is taken as it is.
    have dotless : ("./".toList.isPrefixOf (file.entry env).filePath.toList) = false := by
      have first := isAbsolute_filePath absolute file
      cases chars : (file.entry env).filePath.toList with
      | nil => rfl
      | cons char chars' =>
        simp only [isAbsolute, chars, List.head?_cons, Option.some.injEq,
          decide_eq_true_eq] at first
        rw [first]
        rfl
    have here : (file.entry env).location = "local" := rfl
    have path : localPathOf reader (file.entry env) = .ok (file.entry env).filePath := by
      unfold localPathOf
      rw [here, if_neg (by decide), if_neg (by rw [dotless]; decide)]
    rw [List.map_cons, resolvedPaths, path, ih others]
    simp [bind, Except.bind, present]

/-- A query scans the registered places exactly when the URL of every file denotes its place. -/
theorem queryParquetAs_written {env : WriterEnv} (absolute : isAbsolute env.dataDir = true)
    (reader : ReadEnv) {files : List WrittenFile}
    (live : ∀ file ∈ files, reader.fileExists (file.entry env).filePath = true) :
    queryParquetAs reader (files.map (·.entry env)) = .ok (files.map (·.place env)) ↔
      ∀ file ∈ files,
        urlPlace ("file://" ++ (file.entry env).filePath) = some (file.place env) := by
  -- A URL that denotes the place is parsed to it, and no other URL is.
  have listed (file : WrittenFile) :
      listingPlace (file.entry env).filePath = .ok (file.place env) ↔
        urlPlace ("file://" ++ (file.entry env).filePath) = some (file.place env) := by
    unfold listingPlace listingUrl
    rw [if_pos (isAbsolute_filePath absolute file)]
    generalize urlPlace ("file://" ++ (file.entry env).filePath) = denoted
    generalize file.place env = place
    cases denoted with
    | none => simp
    | some other => simp
  -- The paths to scan are those of the files, in their order.
  unfold queryParquetAs
  rw [resolvedPaths_written absolute reader live]
  change (files.map fun file => (file.entry env).filePath).mapM listingPlace = _ ↔ _
  rw [List.mapM_map]
  refine Fallible.mapM_eq_ok_iff.trans ?_
  simp only [Function.comp_apply, listed]

/--
A query scans the places of its live local files, and no others, when neither the data directory
nor a service name has a `?`, a `#` or an escape in it, and, as far as none of them has a segment
that leaves a directory, only then.
-/
theorem written_files_scanned_iff (env : WriterEnv) (names : UrlNames env)
    (absolute : isAbsolute env.dataDir = true) (reader : ReadEnv) (files : List WrittenFile)
    (live : ∀ file ∈ files, reader.fileExists (file.entry env).filePath = true) :
    ((∀ file ∈ files, UrlSafe (utf8 env.dataDir) ∧ UrlSafe (utf8 (streamOf file.serviceName))) →
      queryParquetAs reader (files.map (·.entry env)) = .ok (files.map (·.place env))) ∧
    ((∀ file ∈ files, ¬ Climbs (utf8 env.dataDir) ∧ ¬ Climbs (utf8 (streamOf file.serviceName))) →
      (queryParquetAs reader (files.map (·.entry env)) = .ok (files.map (·.place env)) ↔
        ∀ file ∈ files,
          UrlSafe (utf8 env.dataDir) ∧ UrlSafe (utf8 (streamOf file.serviceName)))) := by
  have scanned := queryParquetAs_written absolute reader live
  have found (file : WrittenFile)
      (safe : UrlSafe (utf8 env.dataDir) ∧ UrlSafe (utf8 (streamOf file.serviceName))) :
      urlPlace ("file://" ++ (file.entry env).filePath) = some (file.place env) :=
    urlPlace_of_safe (isAbsolute_filePath absolute file)
      ((utf8_filePath names absolute file).1.mpr safe)
  refine ⟨fun safe => scanned.mpr fun file listed => found file (safe file listed), fun level => ?_⟩
  constructor
  · intro scans file listed
    -- The path does not climb, so its URL can only lead there if it is safe.
    have flat : ¬ Climbs (utf8 (file.entry env).filePath) := by
      rw [(utf8_filePath names absolute file).2, not_or]
      exact level file listed
    exact (utf8_filePath names absolute file).1.mp (safe_of_urlPlace
      (isAbsolute_filePath absolute file) flat (scanned.mp scans file listed))
  · intro safe
    exact scanned.mpr fun file listed => found file (safe file listed)

/-- The first day of the epoch has a UUID for its files. -/
theorem firstDayEnv_urlNames : UrlNames firstDayEnv where
  toPathNames := firstDayEnv_names
  uuid := by
    intro fileNumber
    refine ⟨⟨[0, 0, 0, 0, 0, 0, 0x40, 0, 0x80, 0, 0, 0, 0, 0, 0, 0], rfl⟩, ?_⟩
    change "00000000-0000-4000-8000-000000000000" = _
    decide

/-- A reader where every file is there. -/
def everythingThere : ReadEnv := ⟨none, fun _ => none, fun _ => true⟩

/-- A log file of a service. -/
def logFileOf (serviceName : String) : WrittenFile :=
  ⟨1, Uuid.nil, serviceName, .logs [logAt Uuid.nil.toText serviceName 10], 0⟩

/-- Names with letters of any script, slashes and a percent sign are found again. -/
theorem plain_names_are_scanned :
    queryParquetAs everythingThere
        ([logFileOf "größe 100%", logFileOf "api/../web"].map (·.entry firstDayEnv)) =
      .ok ([logFileOf "größe 100%", logFileOf "api/../web"].map (·.place firstDayEnv)) :=
  (written_files_scanned_iff firstDayEnv firstDayEnv_urlNames (by decide) everythingThere
    [logFileOf "größe 100%", logFileOf "api/../web"] (fun _ _ => rfl)).1 (by decide)

/-- Not every service name keeps its files within the reach of a query. -/
theorem hash_hides_a_file :
    ¬ ∀ (env : WriterEnv) (_ : UrlNames env) (_ : isAbsolute env.dataDir = true)
      (reader : ReadEnv) (files : List WrittenFile)
      (_ : ∀ file ∈ files, reader.fileExists (file.entry env).filePath = true),
      queryParquetAs reader (files.map (·.entry env)) = .ok (files.map (·.place env)) := by
  intro claim
  have scans := claim firstDayEnv firstDayEnv_urlNames (by decide) everythingThere
    [logFileOf "api#2"] (fun _ _ => rfl)
  have denotes := (queryParquetAs_written (by decide) everythingThere (fun _ _ => rfl)).mp scans
    (logFileOf "api#2") List.mem_cons_self
  have path := utf8_filePath firstDayEnv_urlNames (by decide) (logFileOf "api#2")
  have flat : ¬ Climbs (utf8 ((logFileOf "api#2").entry firstDayEnv).filePath) := by
    rw [path.2]
    decide
  have safe := path.1.mp (safe_of_urlPlace (isAbsolute_filePath (by decide) _) flat denotes)
  -- The URL ends inside of the service name.
  exact absurd safe.2 (by decide)

end Parquet

end Zradar

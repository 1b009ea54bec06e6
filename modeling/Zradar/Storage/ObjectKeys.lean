import Zradar.Lib.Json
import Zradar.Lib.PathComponents
import Zradar.Storage.Orphans

/-! The keys under which local files are promoted, and the keys read back from their URLs. -/

namespace Zradar.Storage

open Parquet

/-- A directory of the process. -/
structure WorkingDir where
  path : String
  absolute : isAbsolute path = true

/-- Convert a path to an absolute one, from the root where the process has no directory. -/
def makeAbsolute (currentDir : Option WorkingDir) (path : String) : String :=
  if isAbsolute path then path
  else pathJoin ((currentDir.map WorkingDir.path).getD "/") path

/-- What the path of a written file is made of. -/
structure WrittenFile where
  workspaceId : String
  signalType : String
  streamName : String
  date : String
  fileId : String

namespace WrittenFile

/-- What stands behind the first directory. -/
def tail (file : WrittenFile) : String :=
  file.workspaceId ++ "/" ++ file.signalType ++ "/" ++ file.streamName ++ "/" ++ file.date ++
    "/" ++ (file.fileId ++ ".parquet")

/-- The path that `write_batch` writes under a data directory. -/
def fullPath (currentDir : Option WorkingDir) (dataDir : String) (file : WrittenFile) : String :=
  pathJoin (makeAbsolute currentDir dataDir) ("files/" ++ file.tail)

end WrittenFile

/-- Drop each `./` at the start. -/
def trimDotSlash : List Char → List Char
  | '.' :: '/' :: rest => trimDotSlash rest
  | text => text

/-- A separator of either kind, as a slash. -/
def asSlash (char : Char) : Char := if char = backslash then '/' else char

def pathToS3Key (path : String) : String :=
  .ofList (((trimDotSlash path.toList).dropWhile fun char => char = '/').map asSlash)

/-- A key without a repeated directory name at its start. -/
def collapse (basename key : String) : String :=
  if (basename ++ "/").toList.isPrefixOf key.toList then
    .ofList (key.toList.drop (basename ++ "/").toList.length)
  else key

/-- The key under which the file mover uploads a local file. -/
def s3KeyForLocalFile (dataDir localPath : String) : String :=
  match ((stripPrefix localPath dataDir).map pathToS3Key).filter fun key => key ≠ "" with
  | none => pathToS3Key localPath
  | some relativeKey =>
    let normalizedRelative := collapse ((fileName dataDir).getD "") relativeKey
    if pathToS3Key dataDir = "" then normalizedRelative
    else pathToS3Key dataDir ++ "/" ++ normalizedRelative

/-- A bucket with the keys of a file mover over a data directory. -/
def moverStorage (storage : ObjectStorage) (dataDir : String) : ObjectStorage :=
  { storage with s3KeyForLocalFile := Storage.s3KeyForLocalFile dataDir }

/-- A path with a slash for each separator. -/
def unified (path : String) : List Char := path.toList.map asSlash

/-- The path of a registered file is the one of a written file. -/
theorem batchEntry_filePath {env : WriterEnv} {currentDir : Option WorkingDir} {dataDir : String}
    (dir : env.dataDir = makeAbsolute currentDir dataDir)
    (workspaceId streamName signalType : String) (batch : IngestBatch)
    (minTsNs minTsUs maxTsUs : Int64) (fileNumber : Nat) :
    (batchEntry env workspaceId streamName signalType batch minTsNs minTsUs maxTsUs
      fileNumber).filePath = WrittenFile.fullPath currentDir dataDir
        ⟨workspaceId, signalType, streamName, tsNsToDatePath env minTsNs,
          env.fileId fileNumber⟩ := by
  apply String.toList_inj.mp
  simp [batchEntry, WrittenFile.fullPath, WrittenFile.tail, dir, String.append_assoc]

theorem isAbsolute_makeAbsolute (currentDir : Option WorkingDir) (path : String) :
    isAbsolute (makeAbsolute currentDir path) = true := by
  unfold makeAbsolute
  split
  case isTrue rooted => exact rooted
  case isFalse below =>
    rw [isAbsolute_join _ (by simpa using below)]
    cases currentDir with
    | none => rfl
    | some directory => exact directory.absolute

/-- Trimming stops at the first character that is neither a dot nor a slash. -/
theorem trimDotSlash_append {char : Char} (dot : char ≠ '.') (slash : char ≠ '/')
    (front rest : List Char) :
    trimDotSlash (front ++ char :: rest) = trimDotSlash front ++ char :: rest := by
  -- Two characters go at a time, so the induction is on the trimmed front.
  fun_induction trimDotSlash front with
  | case1 front ih => simpa [trimDotSlash] using ih
  | case2 front other =>
    unfold trimDotSlash
    split
    · rename_i tail text
      cases front with
      | nil => exact absurd (List.cons.inj text).1 dot
      | cons first front =>
        cases front with
        | nil => exact absurd (List.cons.inj (List.cons.inj text).2).1 slash
        | cons second front =>
          simp only [List.cons_append, List.cons.injEq] at text
          exact absurd (by rw [text.1, text.2.1]) (other front)
    · rfl

/-- The key of a path is what trimming leaves of its front, and then the rest of the path. -/
theorem pathToS3Key_append (front : List Char) :
    ∃ place, ∀ rest : List Char, (pathToS3Key (.ofList (front ++ "files/".toList ++ rest))).toList =
      place ++ "files/".toList ++ rest.map asSlash := by
  -- Trimming stops at the letter at the latest, so it never reaches what comes behind.
  refine ⟨((trimDotSlash front).dropWhile fun char => char = '/').map asSlash, fun rest => ?_⟩
  have text : front ++ "files/".toList ++ rest = front ++ 'f' :: ("iles/".toList ++ rest) := by
    simp
  have stops (front back : List Char) :
      (front ++ 'f' :: back).dropWhile (fun char => char = '/') =
        front.dropWhile (fun char => char = '/') ++ 'f' :: back := by
    induction front with
    | nil => simp
    | cons first front ih =>
      by_cases slash : first = '/'
      · simpa [slash] using ih
      · simp [slash]
  unfold pathToS3Key
  rw [String.toList_ofList, String.toList_ofList, text,
    trimDotSlash_append (by decide) (by decide), stops]
  simp [asSlash, backslash]

/-- Whether a directory name is repeated is settled by the text up to a slash. -/
theorem collapse_append {basename : String} (plain : '/' ∉ basename.toList) {front : List Char}
    (slash : '/' ∈ front) :
    ∃ place, ∀ rest : List Char,
      (collapse basename (.ofList (front ++ rest))).toList = place ++ rest := by
  by_cases repeated : (basename ++ "/").toList <+: front
  · obtain ⟨back, rfl⟩ := repeated
    refine ⟨back, fun rest => ?_⟩
    have begins : (basename ++ "/").toList.isPrefixOf
        (String.ofList ((basename ++ "/").toList ++ back ++ rest)).toList = true := by
      rw [List.isPrefixOf_iff_prefix, String.toList_ofList, List.append_assoc]
      exact List.prefix_append _ _
    unfold collapse
    rw [if_pos begins, String.toList_ofList, String.toList_ofList, List.append_assoc,
      List.drop_left]
  · refine ⟨front, fun rest => ?_⟩
    have other : ¬ (basename ++ "/").toList.isPrefixOf
        (String.ofList (front ++ rest)).toList = true := by
      rw [List.isPrefixOf_iff_prefix, String.toList_ofList]
      intro begins
      -- The slash of the front is not in the name, so the name and its slash do not go beyond it.
      obtain within | beyond :=
        List.prefix_or_prefix_of_prefix begins (List.prefix_append front rest)
      · exact repeated within
      · have shape : (basename ++ "/").toList = basename.toList ++ ['/'] := by simp
        rw [shape] at beyond repeated
        obtain whole | inside := List.prefix_concat_iff.mp beyond
        · exact repeated (whole ▸ List.prefix_rfl)
        · exact plain (inside.subset slash)
    unfold collapse
    rw [if_neg other, String.toList_ofList]

/-- A joined path ends with the path that was joined. -/
theorem pathJoin_append (base : String) :
    ∃ front, ∀ rest : String,
      (pathJoin base ("files/" ++ rest)).toList = front ++ "files/".toList ++ rest.toList := by
  have below (rest : String) : ¬ isAbsolute ("files/" ++ rest) = true := by simp [isAbsolute]
  by_cases ended : base.toList.getLast? = none ∨ base.toList.getLast? = some '/'
  · refine ⟨base.toList, fun rest => ?_⟩
    rw [pathJoin, if_neg (below rest), if_pos ended]
    simp
  · refine ⟨base.toList ++ ['/'], fun rest => ?_⟩
    rw [pathJoin, if_neg (below rest), if_neg ended]
    simp

/-- Stripping the data directory fails for all files, or it leaves each of them a common front. -/
theorem stripPrefix_written (currentDir : Option WorkingDir) (dataDir : String) :
    (∀ rest, stripPrefix (pathJoin (makeAbsolute currentDir dataDir) ("files/" ++ rest)) dataDir =
      none) ∨
    ∃ front : List Char, ∀ rest : String, rest.toList.getLast? = some 't' →
      stripPrefix (pathJoin (makeAbsolute currentDir dataDir) ("files/" ++ rest)) dataDir =
        some (.ofList (front ++ "files/".toList ++ rest.toList)) := by
  have below (rest : String) : isAbsolute ("files/" ++ rest) = false := by simp [isAbsolute]
  have rooted (rest : String) : isAbsolute (pathJoin (makeAbsolute currentDir dataDir)
      ("files/" ++ rest)) = true := by
    rw [isAbsolute_join _ (below rest), isAbsolute_makeAbsolute]
  by_cases absolute : isAbsolute dataDir = true
  · -- The data directory itself is in front of the path.
    refine .inr ⟨[], fun rest ends => ?_⟩
    obtain ⟨pieces, piece, split, counts⟩ := last_piece ends (by decide) (by decide)
    have single : pathPieces "files" = ["files".toList] :=
      List.splitOn_eq_singleton (by decide)
    have whole : pathPieces ("files/" ++ rest) = "files".toList :: pieces ++ [piece] := by
      have slash := pathPieces_slash "files" rest
      rw [single, split] at slash
      exact slash
    have here : makeAbsolute currentDir dataDir = dataDir := by rw [makeAbsolute, if_pos absolute]
    have left := stripPrefix_join absolute (below rest)
      (by rw [whole]; exact trimFront_cons (by decide) _)
      (by rw [whole]; exact trimBack_concat counts _)
    rw [here, left]
    congr 1
    apply String.toList_inj.mp
    simp
  · have relative : isAbsolute dataDir = false := by simpa using absolute
    by_cases empty : pathComponents dataDir = []
    · -- An empty directory leaves the whole path, root and all.
      obtain ⟨front, join⟩ := pathJoin_append (makeAbsolute currentDir dataDir)
      refine .inr ⟨front, fun rest ends => ?_⟩
      have last : (pathJoin (makeAbsolute currentDir dataDir) ("files/" ++ rest)).toList.getLast? =
          some 't' := by
        rw [join, List.getLast?_append, ends]
        rfl
      obtain ⟨pieces, piece, split, counts⟩ := last_piece last (by decide) (by decide)
      rw [stripPrefix_empty empty (rooted rest) split counts, ← join, String.ofList_toList]
    · exact .inl fun rest => stripPrefix_relative (rooted rest) relative empty

/-- The keys below a data directory are a common place and the paths behind it, unified. -/
theorem key_shape (currentDir : Option WorkingDir) (dataDir : String) :
    ∃ place : List Char, ∀ rest : String, rest.toList.getLast? = some 't' →
      (s3KeyForLocalFile dataDir
        (pathJoin (makeAbsolute currentDir dataDir) ("files/" ++ rest))).toList =
          place ++ rest.toList.map asSlash := by
  obtain none | ⟨front, stripped⟩ := stripPrefix_written currentDir dataDir
  · -- The key is the one of the whole path.
    obtain ⟨front, join⟩ := pathJoin_append (makeAbsolute currentDir dataDir)
    obtain ⟨place, key⟩ := pathToS3Key_append front
    refine ⟨place ++ "files/".toList, fun rest _ => ?_⟩
    unfold s3KeyForLocalFile
    rw [none rest]
    show (pathToS3Key _).toList = _
    rw [← key rest.toList, ← join, String.ofList_toList]
  · obtain ⟨place, key⟩ := pathToS3Key_append front
    have plain : '/' ∉ ((fileName dataDir).getD "").toList := by
      cases named : fileName dataDir with
      | none => simp
      | some name => exact slash_not_mem_fileName named
    have slash : '/' ∈ place ++ "files/".toList := by simp
    obtain ⟨left, collapsed⟩ := collapse_append plain slash
    have shape (rest : String) (ends : rest.toList.getLast? = some 't') :
        s3KeyForLocalFile dataDir
          (pathJoin (makeAbsolute currentDir dataDir) ("files/" ++ rest)) =
        if pathToS3Key dataDir = "" then .ofList (left ++ rest.toList.map asSlash)
        else pathToS3Key dataDir ++ "/" ++ .ofList (left ++ rest.toList.map asSlash) := by
      have relative : pathToS3Key (.ofList (front ++ "files/".toList ++ rest.toList)) =
          .ofList (place ++ "files/".toList ++ rest.toList.map asSlash) := by
        rw [← key, String.ofList_toList]
      have normalized := collapsed (rest.toList.map asSlash)
      unfold s3KeyForLocalFile
      rw [stripped rest ends, Option.map_some, relative,
        Option.filter_some_pos (by simp)]
      simp only
      rw [← normalized, String.ofList_toList]
    by_cases top : pathToS3Key dataDir = ""
    · refine ⟨left, fun rest ends => ?_⟩
      rw [shape rest ends, if_pos top, String.toList_ofList]
    · refine ⟨(pathToS3Key dataDir).toList ++ '/' :: left, fun rest ends => ?_⟩
      rw [shape rest ends, if_neg top]
      simp

-- A directory name that would come twice comes once.
example : s3KeyForLocalFile "/workspace/zradar/files"
    "/workspace/zradar/files/files/tenant/traces/service/2026/05/28/00/a.parquet" =
    "workspace/zradar/files/tenant/traces/service/2026/05/28/00/a.parquet" := by decide

namespace WrittenFile

theorem tail_ends (file : WrittenFile) : file.tail.toList.getLast? = some 't' := by
  simp only [tail, String.toList_append, List.getLast?_append]
  rfl

/-- Two keys are the same when the paths are the same but for the kind of their separators. -/
theorem key_eq_iff (currentDir : Option WorkingDir) (dataDir : String)
    (first second : WrittenFile) :
    s3KeyForLocalFile dataDir (first.fullPath currentDir dataDir) =
        s3KeyForLocalFile dataDir (second.fullPath currentDir dataDir) ↔
      unified (first.fullPath currentDir dataDir) =
        unified (second.fullPath currentDir dataDir) := by
  obtain ⟨place, key⟩ := key_shape currentDir dataDir
  obtain ⟨front, join⟩ := pathJoin_append (makeAbsolute currentDir dataDir)
  unfold unified fullPath
  rw [← String.toList_inj, key _ first.tail_ends, key _ second.tail_ends, join, join,
    List.append_cancel_left_eq]
  simp only [List.map_append, List.append_cancel_left_eq]

/-- The name of a file without a separator of either kind, as the one of a UUID. -/
def Plain (file : WrittenFile) : Prop :=
  '/' ∉ file.fileId.toList ∧ backslash ∉ file.fileId.toList

instance (file : WrittenFile) : Decidable file.Plain := inferInstanceAs (Decidable (_ ∧ _))

theorem Plain.asSlash_fileId {file : WrittenFile} (plain : file.Plain) :
    file.fileId.toList.map asSlash = file.fileId.toList := by
  -- No character is a backslash, so none changes.
  refine (List.map_congr_left fun char inside => ?_).trans (List.map_id _)
  have other : char ≠ backslash := fun same => plain.2 (same ▸ inside)
  rw [asSlash, if_neg other]
  rfl

/-- Files with different names have different keys. -/
theorem fileId_of_key {currentDir : Option WorkingDir} {dataDir : String}
    {first second : WrittenFile} (plain : first.Plain) (plain' : second.Plain)
    (same : s3KeyForLocalFile dataDir (first.fullPath currentDir dataDir) =
      s3KeyForLocalFile dataDir (second.fullPath currentDir dataDir)) :
    first.fileId = second.fileId := by
  obtain ⟨front, join⟩ := pathJoin_append (makeAbsolute currentDir dataDir)
  -- The names stand behind the last slash of the paths.
  have text (file : WrittenFile) (plain : file.Plain) : ∃ lead,
      unified (file.fullPath currentDir dataDir) =
        lead ++ '/' :: (file.fileId.toList ++ ".parquet".toList) ∧
      '/' ∉ file.fileId.toList ++ ".parquet".toList := by
    refine ⟨(front ++ "files/".toList ++ (file.workspaceId ++ "/" ++ file.signalType ++ "/" ++
      file.streamName ++ "/" ++ file.date).toList).map asSlash, ?_, ?_⟩
    · unfold unified fullPath tail
      rw [join]
      simp [plain.asSlash_fileId, asSlash, backslash]
    · simp [plain.1]
  obtain ⟨lead, path, clean⟩ := text first plain
  obtain ⟨lead', path', clean'⟩ := text second plain'
  have united := (key_eq_iff currentDir dataDir first second).mp same
  rw [path, path'] at united
  exact String.toList_inj.mp (List.append_cancel_right (eq_of_last_slash united clean clean'))

end WrittenFile

/--
Two written files have the same key exactly when their paths are the same but for the kind of
their separators, so no two names share a key. The key that is read back from the URL of an
upload is the one that was uploaded.
-/
theorem s3_keys_survive (storage : ObjectStorage) (currentDir : Option WorkingDir)
    (dataDir : String) :
    let s3Key (file : WrittenFile) :=
      (moverStorage storage dataDir).s3KeyForLocalFile (file.fullPath currentDir dataDir)
    (∀ first second : WrittenFile, s3Key first = s3Key second ↔
      unified (first.fullPath currentDir dataDir) =
        unified (second.fullPath currentDir dataDir)) ∧
    (∀ first second : WrittenFile, first.Plain → second.Plain →
      s3Key first = s3Key second → first.fileId = second.fileId) ∧
    ∀ file : WrittenFile,
      extractS3Key ((moverStorage storage dataDir).s3Url (s3Key file)) = s3Key file := by
  refine ⟨WrittenFile.key_eq_iff currentDir dataDir, ?_, fun file => ?_⟩
  · intro first second plain plain' same
    exact WrittenFile.fileId_of_key plain plain' same
  · exact extractS3Key_s3Url _ _

/-- A file of a stream, where nothing else is of interest. -/
def serviceFile (streamName fileId : String) : WrittenFile :=
  ⟨"1", "traces", streamName, "2026/05/28/00", fileId⟩

/-- Files of one stream with different names are promoted under different keys. -/
theorem named_files_have_keys :
    let storage : ObjectStorage := ⟨"telemetry", by decide, id⟩
    let s3Key (file : WrittenFile) := (moverStorage storage "./data").s3KeyForLocalFile
      (file.fullPath (some ⟨"/srv", rfl⟩) "./data")
    s3Key (serviceFile "api" "a") ≠ s3Key (serviceFile "api" "b") := by
  intro storage s3Key same
  have names := (s3_keys_survive storage (some ⟨"/srv", rfl⟩) "./data").2.1
    (serviceFile "api" "a") (serviceFile "api" "b") (by decide) (by decide) same
  exact absurd names (by decide)

/-- A backslash and a slash in the name of a stream lead to one key. -/
theorem backslash_shares_key :
    ¬ ∀ first second : WrittenFile,
      s3KeyForLocalFile "/data" (first.fullPath none "/data") =
          s3KeyForLocalFile "/data" (second.fullPath none "/data") →
        first.fullPath none "/data" = second.fullPath none "/data" := by
  intro injective
  have back := injective (serviceFile (.ofList ['a', backslash, 'b']) "a") (serviceFile "a/b" "a")
    ((WrittenFile.key_eq_iff none "/data" _ _).mpr (by decide))
  exact absurd (congrArg String.toList back) (by decide)

end Zradar.Storage

import Zradar.Lib.BigEndian
import Zradar.Lib.CrashFiles
import Zradar.Lib.Positions
import Zradar.Lib.Run
import Zradar.Parquet.Recovery

/-! Parquet files written side by side, under failures, kills, losses of power and recoveries. -/

namespace Zradar.Parquet

/-- The name of a file of some id and extension. -/
def fileName (fileId ending : String) : String := fileId ++ "." ++ ending

/-- A name with an extension behind a name that is not empty has this extension. -/
theorem extension_fileName {fileId ending : String} (named : fileId ≠ "")
    (plain : '.' ∉ ending.toList) : extension (fileName fileId ending) = some ending := by
  have reversed : (fileName fileId ending).toList.reverse =
      ending.toList.reverse ++ '.' :: fileId.toList.reverse := by
    simp [fileName]
  have others : ∀ char ∈ ending.toList.reverse, decide (char ≠ '.') = true := by
    intro char member
    have different : char ≠ '.' := fun same => plain (same ▸ List.mem_reverse.mp member)
    simpa using different
  -- The extension goes up to the first dot from the back.
  obtain ⟨char, rest, front⟩ : ∃ char rest, fileId.toList.reverse = char :: rest := by
    cases parts : fileId.toList.reverse with
    | nil => exact absurd (by simpa using parts) named
    | cons char rest => exact ⟨char, rest, rfl⟩
  simp only [extension, reversed]
  rw [List.dropWhile_append_of_pos others, List.takeWhile_append_of_pos others]
  simp [front]

/-- Where a call that writes a file is. -/
inductive FilePhase where
  /-- Its directory has been made. -/
  | opening
  | writing (rest : Bytes)
  /-- The file is complete, and synced where that is asked for. -/
  | complete
  /-- The file has its name, and is to be entered in the file list. -/
  | renamed
  deriving DecidableEq

/-- A call that writes a file, with all that it is to hold. -/
structure FileCall where
  dir : List String
  fileId : String
  data : Bytes
  phase : FilePhase

/-- The path with the extension that an incomplete file has. -/
def FileCall.tempPath (call : FileCall) : List String := call.dir ++ [fileName call.fileId "par"]

def FileCall.path (call : FileCall) : List String := call.dir ++ [fileName call.fileId "parquet"]

/-- The data directory, the calls under way and the paths in the file list. -/
structure DataDir where
  files : CrashFiles (List String) UInt8
  calls : List FileCall
  /-- The ids of all files so far, and what each of them was to hold. -/
  begun : List (List String × Bytes)
  ids : List String
  registered : List (List String)

inductive FileLabel where
  | start (dir : List String) (fileId : String) (data : Bytes)
  | create (position : Nat)
  | write (position length : Nat)
  | sync (position : Nat)
  | rename (position : Nat)
  | register (position : Nat)
  /-- An operation of a call fails, and so does the call. -/
  | fail (position : Nat)
  | kill
  | lose (directory : Nat) (left : Nat → Bytes)
  /-- The walk at startup removes a file. -/
  | remove (path : List String)

/-- A call goes on to its next phase. -/
def DataDir.advance (state : DataDir) (position : Nat) (call : FileCall) (phase : FilePhase)
    (files : CrashFiles (List String) UInt8) : DataDir :=
  { state with files, calls := state.calls.set position { call with phase } }

/-- One operation on the data directory. -/
def fileStep (fsyncBeforeRename : Bool) (state : DataDir) : FileLabel → Option DataDir
  | .start dir fileId data =>
    -- Ids are random, and no id is drawn twice.
    if fileId ≠ "" ∧ fileId ∉ state.ids then
      let call : FileCall := ⟨dir, fileId, data, .opening⟩
      some { state with
        calls := call :: state.calls
        begun := (call.path, data) :: state.begun
        ids := fileId :: state.ids }
    else none
  | .create position =>
    match state.calls[position]? with
    | some call =>
      if call.phase = .opening then
        some (state.advance position call (.writing call.data) (state.files.create call.tempPath))
      else none
    | none => none
  | .write position length =>
    match state.calls[position]? with
    | some call =>
      match call.phase with
      | .writing rest =>
        some (state.advance position call (.writing (rest.drop length))
          (state.files.append call.tempPath (rest.take length)))
      | _ => none
    | none => none
  | .sync position =>
    match state.calls[position]? with
    | some call =>
      if call.phase = .writing [] then
        some (state.advance position call .complete
          (if fsyncBeforeRename then state.files.sync call.tempPath else state.files))
      else none
    | none => none
  | .rename position =>
    match state.calls[position]? with
    | some call =>
      if call.phase = .complete then
        some (state.advance position call .renamed (state.files.rename call.tempPath call.path))
      else none
    | none => none
  | .register position =>
    match state.calls[position]? with
    | some call =>
      if call.phase = .renamed then
        some { state with
          calls := state.calls.eraseIdx position
          registered := call.path :: state.registered }
      else none
    | none => none
  | .fail position => some { state with calls := state.calls.eraseIdx position }
  | .kill => some { state with calls := [] }
  | .lose directory left =>
    state.files.directories[directory]?.map fun kept =>
      { state with files := state.files.crash kept left, calls := [] }
  | .remove path =>
    -- The walk is over before the first write.
    if state.calls = [] ∧ path.getLast?.any FsEntry.isTemp = true then
      some { state with files := state.files.remove path }
    else none

/-- An empty data directory. -/
def emptyDataDir : DataDir := ⟨.empty, [], [], [], []⟩

/-- A path that files are only ever renamed to. -/
def Published (path : List String) : Prop := path.getLast?.bind extension = some "parquet"

/-- What a call has made of its file so far. -/
def FileCall.Written (lossy : Prop) (files : CrashFiles (List String) UInt8) (call : FileCall) :
    Prop :=
  match call.phase with
  | .opening => True
  | .writing rest => ∃ node, files.names call.tempPath = some node ∧
      files.contents node ++ rest = call.data
  | .complete => ∃ node, files.names call.tempPath = some node ∧
      files.contents node = call.data ∧ (lossy → files.synced node = true)
  | .renamed => ¬ lossy → (files.read call.path).isSome

/-- Whatever is under a path that files are renamed to is a whole file. -/
structure DataDir.Whole (lossy : Prop) (state : DataDir) : Prop where
  replaced : state.files.Replaced Published lossy
  known : ∀ call ∈ state.calls, call.fileId ≠ "" ∧ call.fileId ∈ state.ids ∧
    (call.path, call.data) ∈ state.begun
  apart : (state.calls.map FileCall.fileId).Nodup
  written : ∀ call ∈ state.calls, call.Written lossy state.files
  whole : ∀ path, Published path → ∀ data, some data ∈ state.files.versions path →
    (path, data) ∈ state.begun
  /-- Without losses of power, what is in the file list is there. -/
  present : ∀ path ∈ state.registered, Published path ∧ (¬ lossy → (state.files.read path).isSome)

namespace FileCall

variable {call other : FileCall}

theorem published_path (named : call.fileId ≠ "") : Published call.path := by
  unfold Published path
  rw [List.getLast?_concat, Option.bind_some]
  exact extension_fileName named (by decide)

theorem extension_tempPath (named : call.fileId ≠ "") :
    call.tempPath.getLast?.bind extension = some "par" := by
  unfold tempPath
  rw [List.getLast?_concat, Option.bind_some]
  exact extension_fileName named (by decide)

theorem tempPath_not_published (named : call.fileId ≠ "") : ¬ Published call.tempPath := by
  unfold Published
  rw [extension_tempPath named]
  decide

/-- Files of different ids are written under different paths. -/
theorem tempPath_ne (different : call.fileId ≠ other.fileId) : call.tempPath ≠ other.tempPath := by
  intro same
  have names := congrArg List.getLast? same
  simp only [tempPath, List.getLast?_concat, Option.some.injEq, fileName] at names
  have texts := congrArg String.toList names
  simp only [String.toList_append, List.append_assoc, List.append_cancel_right_eq] at texts
  exact different (String.toList_inj.mp texts)

/-- What a call has written stays while its file and the renamed ones are left alone. -/
theorem Written.mono {lossy : Prop} {files next : CrashFiles (List String) UInt8}
    (written : call.Written lossy files) (kept : files.Keeps next call.tempPath)
    (read : (files.read call.path).isSome → (next.read call.path).isSome) :
    call.Written lossy next := by
  unfold Written at written ⊢
  cases phase : call.phase with
  | opening => trivial
  | writing rest =>
    rw [phase] at written
    obtain ⟨node, named, text⟩ := written
    obtain ⟨names, contents, _⟩ := kept node named
    exact ⟨node, names, contents ▸ text⟩
  | complete =>
    rw [phase] at written
    obtain ⟨node, named, text, synced⟩ := written
    obtain ⟨names, contents, still⟩ := kept node named
    exact ⟨node, names, contents ▸ text, fun power => still (synced power)⟩
  | renamed =>
    rw [phase] at written
    exact fun safe => read (written safe)

end FileCall

namespace DataDir.Whole

variable {lossy : Prop} {state : DataDir} {position : Nat} {call : FileCall}

/-- The other calls have other ids. -/
theorem others (whole : state.Whole lossy) (found : state.calls[position]? = some call) :
    ∀ other ∈ state.calls.eraseIdx position, other ∈ state.calls ∧ other.fileId ≠ call.fileId := by
  intro other member
  refine ⟨List.mem_of_mem_eraseIdx member, fun same => ?_⟩
  have distinct := ((taken_perm found).map FileCall.fileId).nodup_iff.mpr whole.apart
  rw [List.map_cons, List.nodup_cons] at distinct
  exact distinct.1 (same ▸ List.mem_map_of_mem member)

/-- A call that goes on, with what its operation may do to the files. -/
theorem advance (whole : state.Whole lossy) (found : state.calls[position]? = some call)
    {phase : FilePhase} {next : CrashFiles (List String) UInt8}
    (replaced : next.Replaced Published lossy)
    (keeps : ∀ other : FileCall, other.fileId ≠ "" → other.fileId ≠ call.fileId →
      state.files.Keeps next other.tempPath)
    (reads : ∀ path, Published path → (state.files.read path).isSome → (next.read path).isSome)
    (own : FileCall.Written lossy next { call with phase })
    (versions : ∀ path, Published path → ∀ data, some data ∈ next.versions path →
      some data ∈ state.files.versions path ∨ (path, data) ∈ state.begun) :
    (state.advance position call phase next).Whole lossy := by
  have listed : ∀ other ∈ state.calls.set position { call with phase },
      other = { call with phase } ∨ other ∈ state.calls.eraseIdx position := by
    intro other member
    exact List.mem_cons.mp ((replaced_perm found _).mem_iff.mp member)
  have known := whole.known call (List.mem_of_getElem? found)
  refine ⟨replaced, ?_, ?_, ?_, ?_, ?_⟩
  · intro other member
    obtain rfl | rest := listed other member
    · exact known
    · exact whole.known other (whole.others found other rest).1
  · -- The call keeps its id.
    have same := ((replaced_perm found { call with phase }).map FileCall.fileId).trans
      ((taken_perm found).map FileCall.fileId)
    exact same.nodup_iff.mpr whole.apart
  · intro other member
    obtain rfl | rest := listed other member
    · exact own
    · obtain ⟨old, different⟩ := whole.others found other rest
      have named := (whole.known other old).1
      exact (whole.written other old).mono (keeps other named different)
        (reads other.path (FileCall.published_path named))
  · intro path published data member
    obtain old | new := versions path published data member
    · exact whole.whole path published data old
    · exact new
  · intro path member
    obtain ⟨published, there⟩ := whole.present path member
    exact ⟨published, fun safe => reads path published (there safe)⟩

/-- A call that ends, with or without an entry in the file list. -/
theorem finish (whole : state.Whole lossy) (position : Nat) {registered : List (List String)}
    (present : ∀ path ∈ registered, Published path ∧ (¬ lossy → (state.files.read path).isSome)) :
    DataDir.Whole lossy
      { state with calls := state.calls.eraseIdx position, registered } where
  replaced := whole.replaced
  known := fun other member => whole.known other (List.mem_of_mem_eraseIdx member)
  apart := by
    refine List.Nodup.sublist ?_ whole.apart
    exact (List.eraseIdx_sublist _ _).map _
  written := fun other member => whole.written other (List.mem_of_mem_eraseIdx member)
  whole := whole.whole
  present := present

/-- Changes that leave no call under way, and read no file that was not read before. -/
theorem reset (whole : state.Whole lossy) {next : CrashFiles (List String) UInt8}
    (replaced : next.Replaced Published lossy)
    (versions : ∀ path, Published path → ∀ version ∈ next.versions path,
      version ∈ state.files.versions path)
    (reads : ¬ lossy → ∀ path, Published path → next.read path = state.files.read path) :
    DataDir.Whole lossy { state with files := next, calls := [] } where
  replaced := replaced
  known := by simp
  apart := by simp
  written := by simp
  whole := fun path published data member =>
    whole.whole path published data (versions path published _ member)
  present := by
    intro path member
    obtain ⟨published, there⟩ := whole.present path member
    refine ⟨published, fun safe => ?_⟩
    rw [reads safe path published]
    exact there safe

/-- A call with a fresh id has not touched the files yet. -/
theorem start (whole : state.Whole lossy) {dir : List String} {fileId : String} {data : Bytes}
    (named : fileId ≠ "") (fresh : fileId ∉ state.ids) :
    DataDir.Whole lossy
      { state with
        calls := ⟨dir, fileId, data, .opening⟩ :: state.calls
        begun := (dir ++ [fileName fileId "parquet"], data) :: state.begun
        ids := fileId :: state.ids } where
  replaced := whole.replaced
  known := by
    intro other member
    obtain rfl | old := List.mem_cons.mp member
    · exact ⟨named, List.mem_cons_self, List.mem_cons_self⟩
    · obtain ⟨named, listed, begun⟩ := whole.known other old
      exact ⟨named, List.mem_cons_of_mem _ listed, List.mem_cons_of_mem _ begun⟩
  apart := by
    refine List.nodup_cons.mpr ⟨fun member => ?_, whole.apart⟩
    obtain ⟨other, listed, same⟩ := List.mem_map.mp member
    have known := (whole.known other listed).2.1
    rw [same] at known
    exact fresh known
  written := by
    intro other member
    obtain rfl | old := List.mem_cons.mp member
    · trivial
    · exact whole.written other old
  whole := fun path published data member =>
    List.mem_cons_of_mem _ (whole.whole path published data member)
  present := whole.present

/-- What is written, synced or created under a temporary path is not read under a final one. -/
theorem own_tempPath (whole : state.Whole lossy) (found : state.calls[position]? = some call) :
    call.fileId ≠ "" ∧ ¬ Published call.tempPath := by
  have named := (whole.known call (List.mem_of_getElem? found)).1
  exact ⟨named, FileCall.tempPath_not_published named⟩

theorem create (whole : state.Whole lossy) (found : state.calls[position]? = some call) :
    (state.advance position call (.writing call.data)
      (state.files.create call.tempPath)).Whole lossy := by
  obtain ⟨named, writing⟩ := whole.own_tempPath found
  obtain ⟨replaced, same⟩ := whole.replaced.create writing
  obtain ⟨node, names, contents, _, _⟩ := CrashFiles.create_spec whole.replaced writing
  refine whole.advance found replaced ?_ ?_ ⟨node, ?_, ?_⟩ ?_
  · exact fun other _ different => CrashFiles.keeps_create whole.replaced writing
      (FileCall.tempPath_ne different)
  · exact fun path published there => (same path published).1.symm ▸ there
  · exact names ▸ Function.update_self _ _ _
  · rw [contents, Function.update_self, List.nil_append]
  · exact fun path published data member => .inl ((same path published).2 _ member)

theorem write (whole : state.Whole lossy) (found : state.calls[position]? = some call)
    {rest : Bytes} (writing : call.phase = .writing rest) (length : Nat) :
    (state.advance position call (.writing (rest.drop length))
      (state.files.append call.tempPath (rest.take length))).Whole lossy := by
  obtain ⟨named, temp⟩ := whole.own_tempPath found
  obtain ⟨replaced, same⟩ := whole.replaced.append temp (rest.take length)
  have written := whole.written call (List.mem_of_getElem? found)
  unfold FileCall.Written at written
  rw [writing] at written
  obtain ⟨node, linked, text⟩ := written
  obtain ⟨names, contents, _⟩ := CrashFiles.append_named linked (rest.take length)
  refine whole.advance found replaced ?_ ?_ ⟨node, names ▸ linked, ?_⟩ ?_
  · exact fun other _ different => CrashFiles.keeps_append whole.replaced temp
      (FileCall.tempPath_ne different) _
  · exact fun path published there =>
      CrashFiles.read_of_versions (same path published) ▸ there
  · -- What is written is the front of the rest.
    rw [contents, Function.update_self, List.append_assoc, List.take_append_drop]
    exact text
  · exact fun path published data member => .inl (same path published ▸ member)

theorem sync (whole : state.Whole lossy) (found : state.calls[position]? = some call)
    (writing : call.phase = .writing []) {fsync : Bool} (safe : lossy → fsync = true) :
    (state.advance position call .complete
      (if fsync then state.files.sync call.tempPath else state.files)).Whole lossy := by
  have written := whole.written call (List.mem_of_getElem? found)
  unfold FileCall.Written at written
  rw [writing] at written
  obtain ⟨node, linked, text⟩ := written
  rw [List.append_nil] at text
  cases fsync with
  | false =>
    refine whole.advance found whole.replaced (fun _ _ _ node linked => ⟨linked, rfl, id⟩)
      (fun _ _ => id) ⟨node, linked, text, fun power => ?_⟩ (fun _ _ _ => .inl)
    exact absurd (safe power) (by simp)
  | true =>
    obtain ⟨replaced, same⟩ := whole.replaced.sync call.tempPath
    obtain ⟨names, contents, synced⟩ := CrashFiles.sync_named linked
    refine whole.advance found replaced (fun other _ _ => CrashFiles.keeps_sync _ _ _) ?_
      ⟨node, names ▸ linked, contents ▸ text, fun _ => ?_⟩ ?_
    · exact fun path _ there => CrashFiles.read_of_versions (same path) ▸ there
    · rw [if_pos rfl, synced, Function.update_self]
    · exact fun path _ data member => .inl (same path ▸ member)

/-- The complete file is what is read under its final path. -/
theorem rename (whole : state.Whole lossy) (found : state.calls[position]? = some call)
    (complete : call.phase = .complete) :
    (state.advance position call .renamed
      (state.files.rename call.tempPath call.path)).Whole lossy := by
  obtain ⟨named, temp⟩ := whole.own_tempPath found
  have published := FileCall.published_path named
  have member := List.mem_of_getElem? found
  have written := whole.written call member
  unfold FileCall.Written at written
  rw [complete] at written
  obtain ⟨node, linked, text, synced⟩ := written
  obtain ⟨replaced, read, versions, same⟩ := whole.replaced.rename temp published linked synced
  refine whole.advance found replaced ?_ ?_ (fun _ => ?_) ?_
  · intro other present different
    refine CrashFiles.keeps_rename _ (FileCall.tempPath_ne different) fun clash => ?_
    exact FileCall.tempPath_not_published present (clash ▸ published)
  · intro path final there
    by_cases here : path = call.path
    · rw [here, read]
      rfl
    · exact (same path here final).1.symm ▸ there
  · show ((state.files.rename call.tempPath call.path).read call.path).isSome = true
    rw [read]
    rfl
  · intro path final data version
    by_cases here : path = call.path
    · subst here
      obtain new | old := versions _ version
      · -- The new version is what the call was to write.
        cases new
        exact .inr (text ▸ (whole.known call member).2.2)
      · exact .inl old
    · exact .inl ((same path here final).2 _ version)

end DataDir.Whole

/-- A file that the walk at startup removes. -/
def IsTempPath (path : List String) : Prop := path.getLast?.any FsEntry.isTemp = true

instance (path : List String) : Decidable (IsTempPath path) := inferInstanceAs (Decidable (_ = true))

theorem FileCall.isTempPath_tempPath {call : FileCall} (named : call.fileId ≠ "") :
    IsTempPath call.tempPath := by
  have ending := FileCall.extension_tempPath named
  unfold FileCall.tempPath at ending
  rw [List.getLast?_concat, Option.bind_some] at ending
  simp [IsTempPath, FileCall.tempPath, FsEntry.isTemp, ending]

/-- No path is both. -/
theorem Published.not_temp {path : List String} (published : Published path) : ¬ IsTempPath path := by
  unfold Published at published
  unfold IsTempPath
  cases last : path.getLast? with
  | none => simp
  | some name =>
    rw [last, Option.bind_some] at published
    simp [FsEntry.isTemp, published]

/-- Whether the power is lost in a step. -/
def FileLabel.losesPower : FileLabel → Bool
  | .lose _ _ => true
  | _ => false

/-- Whatever is in the data directory was put there by a call. -/
def DataDir.Tidy (state : DataDir) : Prop :=
  ∀ path, state.files.Mentions path → Published path ∨ IsTempPath path

/-- Every step keeps whole what is read, and leaves nothing else in the data directory. -/
theorem DataDir.Whole.step {lossy : Prop} {fsync : Bool} {state next : DataDir} {label : FileLabel}
    (whole : state.Whole lossy) (tidy : state.Tidy) (safe : lossy → fsync = true)
    (power : label.losesPower = true → lossy) (stepped : fileStep fsync state label = some next) :
    next.Whole lossy ∧ next.Tidy := by
  -- One lemma for each operation; the names it adds are those of its own call.
  cases label with
  | start dir fileId data =>
    simp only [fileStep] at stepped
    split at stepped
    · rename_i fresh
      cases stepped
      exact ⟨whole.start fresh.1 fresh.2, tidy⟩
    · cases stepped
  | create position =>
    simp only [fileStep] at stepped
    split at stepped
    · rename_i call found
      split at stepped
      · cases stepped
        refine ⟨whole.create found, fun path mentions => ?_⟩
        obtain rfl | old := CrashFiles.Mentions.of_create mentions
        · exact .inr (FileCall.isTempPath_tempPath (whole.own_tempPath found).1)
        · exact tidy path old
      · cases stepped
    · cases stepped
  | write position length =>
    simp only [fileStep] at stepped
    split at stepped
    · rename_i found
      split at stepped
      · rename_i writing
        cases stepped
        exact ⟨whole.write found writing length, fun path mentions => tidy path mentions.of_append⟩
      · cases stepped
    · cases stepped
  | sync position =>
    simp only [fileStep] at stepped
    split at stepped
    · rename_i found
      split at stepped
      · rename_i writing
        cases stepped
        refine ⟨whole.sync found writing safe, fun path mentions => tidy path ?_⟩
        cases fsync with
        | false => exact mentions
        | true => exact CrashFiles.Mentions.of_sync mentions
      · cases stepped
    · cases stepped
  | rename position =>
    simp only [fileStep] at stepped
    split at stepped
    · rename_i found
      split at stepped
      · rename_i complete
        cases stepped
        refine ⟨whole.rename found complete, fun path mentions => ?_⟩
        obtain rfl | old := CrashFiles.Mentions.of_rename mentions
        · exact .inl (FileCall.published_path (whole.own_tempPath found).1)
        · exact tidy path old
      · cases stepped
    · cases stepped
  | register position =>
    simp only [fileStep] at stepped
    split at stepped
    · rename_i call found
      split at stepped
      · rename_i renamed
        cases stepped
        refine ⟨whole.finish position fun path member => ?_, tidy⟩
        obtain rfl | old := List.mem_cons.mp member
        · have written := whole.written call (List.mem_of_getElem? found)
          unfold FileCall.Written at written
          rw [renamed] at written
          exact ⟨FileCall.published_path (whole.own_tempPath found).1, written⟩
        · exact whole.present path old
      · cases stepped
    · cases stepped
  | fail position =>
    cases stepped
    exact ⟨whole.finish position whole.present, tidy⟩
  | kill =>
    cases stepped
    exact ⟨whole.reset whole.replaced (fun _ _ _ => id) (fun _ _ _ => rfl), tidy⟩
  | lose directory left =>
    obtain ⟨kept, found, rfl⟩ := Option.map_eq_some_iff.mp stepped
    have possible := List.mem_of_getElem? found
    obtain ⟨replaced, versions⟩ := whole.replaced.crash (power rfl) possible left
    refine ⟨whole.reset replaced ?_ fun calm => absurd (power rfl) calm,
      fun path mentions => tidy path (mentions.of_crash possible)⟩
    intro path published version member
    obtain ⟨read, only⟩ := versions path published
    rw [only] at member
    exact List.mem_singleton.mp member ▸ read
  | remove gone =>
    simp only [fileStep] at stepped
    split at stepped
    · rename_i allowed
      obtain ⟨idle, temp⟩ := allowed
      cases stepped
      obtain ⟨replaced, same⟩ := whole.replaced.remove gone
      -- A path that is read is no temporary one.
      have apart : ∀ path, Published path → path ≠ gone :=
        fun path published clash => published.not_temp (clash ▸ temp)
      have reset := whole.reset replaced
        (fun path published => (same path (apart path published)).2)
        (fun _ path published => (same path (apart path published)).1)
      exact ⟨idle ▸ reset, fun path mentions => tidy path mentions.of_remove⟩
    · cases stepped

theorem emptyDataDir_whole (lossy : Prop) : emptyDataDir.Whole lossy ∧ emptyDataDir.Tidy := by
  refine ⟨⟨CrashFiles.empty_replaced, ?_, ?_, ?_, ?_, ?_⟩, ?_⟩
  · simp [emptyDataDir]
  · simp [emptyDataDir]
  · simp [emptyDataDir]
  · simp [emptyDataDir, CrashFiles.versions, CrashFiles.directories, CrashFiles.empty]
  · simp [emptyDataDir]
  · simp [DataDir.Tidy, emptyDataDir, CrashFiles.Mentions, CrashFiles.directories, CrashFiles.empty]

/-- What the steps keep is kept by every run, if files are synced wherever power can be lost. -/
theorem run_whole {fsync : Bool} {labels : List FileLabel} {final : DataDir} (lossy : Prop)
    (safe : lossy → fsync = true) (power : ∀ label ∈ labels, label.losesPower = true → lossy)
    (reached : run (fileStep fsync) emptyDataDir labels = some final) :
    final.Whole lossy ∧ final.Tidy := by
  have kept : ∀ (state : DataDir) (label : FileLabel) (next : DataDir),
      (state.Whole lossy ∧ state.Tidy) → (label.losesPower = true → lossy) →
      fileStep fsync state label = some next → next.Whole lossy ∧ next.Tidy :=
    fun _ _ _ ⟨whole, tidy⟩ allowed stepped => whole.step tidy safe allowed stepped
  exact run_invariant kept (emptyDataDir_whole lossy) (.of_labels power emptyDataDir) reached

/--
Whatever the writers are interrupted by, a file is read as a whole or not at all.

This needs the files to be synced only if the power can be lost. If it is not, every file in the
file list is there.
-/
theorem files_whole {fsync : Bool} {labels : List FileLabel} {final : DataDir}
    (safe : fsync = true ∨ ∀ label ∈ labels, label.losesPower = false)
    (reached : run (fileStep fsync) emptyDataDir labels = some final) :
    (∀ path data, Published path → final.files.read path = some data →
      (path, data) ∈ final.begun) ∧
    ((∀ label ∈ labels, label.losesPower = false) → ∀ path ∈ final.registered,
      ∃ data, final.files.read path = some data ∧ (path, data) ∈ final.begun) := by
  -- The power can be lost if a label says so.
  obtain ⟨whole, _⟩ := run_whole (∃ label ∈ labels, label.losesPower = true) (by
    rintro ⟨label, member, loses⟩
    refine safe.resolve_right fun calm => ?_
    rw [calm label member] at loses
    cases loses) (fun label member loses => ⟨label, member, loses⟩) reached
  have read : ∀ path data, Published path → final.files.read path = some data →
      (path, data) ∈ final.begun := by
    intro path data published reads
    refine whole.whole path published data ?_
    rw [CrashFiles.versions_cons, reads]
    exact List.mem_cons_self
  refine ⟨read, fun calm path member => ?_⟩
  obtain ⟨published, there⟩ := whole.present path member
  obtain ⟨data, reads⟩ := Option.isSome_iff_exists.mp (there (by
    rintro ⟨label, listed, loses⟩
    rw [calm label listed] at loses
    cases loses))
  exact ⟨data, reads, read path data published reads⟩

/-- A write that is killed in the middle, and one that a loss of power leaves renamed. -/
def interruptedWrites : List FileLabel :=
  [.start ["files"] "a" [1, 2, 3], .create 0, .write 0 2, .start ["files"] "b" [4, 5], .create 0,
    .write 0 9, .sync 0, .rename 0, .register 0, .lose 0 fun _ => [9]]

theorem files_whole_interrupted :
    ∃ final, run (fileStep true) emptyDataDir interruptedWrites = some final ∧
      final.files.read ["files", "a.par"] = some [9] ∧
      final.files.read ["files", "b.parquet"] = some [4, 5] ∧
      ∀ path data, Published path → final.files.read path = some data →
        (path, data) ∈ final.begun := by
  have contents : (run (fileStep true) emptyDataDir interruptedWrites).map (fun final =>
      (final.files.read ["files", "a.par"], final.files.read ["files", "b.parquet"])) =
        some (some [9], some [4, 5]) := by
    decide
  obtain ⟨final, reached, fields⟩ := Option.map_eq_some_iff.mp contents
  exact ⟨final, reached, congrArg Prod.fst fields, congrArg Prod.snd fields,
    (files_whole (.inl rfl) reached).1⟩

/-- The removals that the walk over a data directory makes. -/
def recoveryLabels (entries : List FsEntry) : List FileLabel :=
  (FsEntry.doomed entries).map .remove

/-- The walk only removes temporary files. -/
theorem isTempPath_of_doomed {entries : List FsEntry} {path : List String}
    (member : path ∈ FsEntry.doomed entries) : IsTempPath path := by
  obtain ⟨⟨_, flag⟩, found, rfl⟩ := List.mem_map.mp member
  obtain ⟨listed, removed⟩ := List.mem_filter.mp found
  exact FsEntry.isTemp_of_listings entries _ listed removed

/-- Removals of temporary files, where nothing else is going on, take their names out. -/
theorem run_removals (fsync : Bool) {state : DataDir} (idle : state.calls = [])
    {gone : List (List String)} (temps : ∀ path ∈ gone, IsTempPath path) :
    ∃ next, run (fileStep fsync) state (gone.map .remove) = some next ∧ next.calls = [] ∧
      next.files.contents = state.files.contents ∧
      ∀ path, next.files.names path = if path ∈ gone then none else state.files.names path := by
  induction gone generalizing state with
  | nil => exact ⟨state, rfl, idle, rfl, fun path => by simp⟩
  | cons first gone ih =>
    obtain ⟨temp, later⟩ := List.forall_mem_cons.mp temps
    have stepped : fileStep fsync state (.remove first) =
        some { state with files := state.files.remove first } := by
      simp only [fileStep]
      exact if_pos ⟨idle, temp⟩
    have still : ({ state with files := state.files.remove first } : DataDir).calls = [] := idle
    obtain ⟨next, reached, ended, contents, names⟩ := ih still later
    refine ⟨next, ?_, ended, contents, fun path => ?_⟩
    · rw [List.map_cons, run_cons stepped]
      exact reached
    · rw [names path]
      by_cases rest : path ∈ gone
      · simp [rest]
      · by_cases here : path = first
        · simp [here, CrashFiles.remove, CrashFiles.redirect]
        · simp [rest, here, CrashFiles.remove, CrashFiles.redirect]

/-- Where every temporary file is removed, the walk leaves the other ones. -/
theorem paths_walkAndDelete {entries : List FsEntry}
    (cleared : ∀ found ∈ FsEntry.listings entries, IsTempPath found.1 → found.2 = true) :
    FsEntry.paths (FsEntry.walkAndDelete entries).1 =
      (FsEntry.paths entries).filter fun path => ¬ IsTempPath path := by
  rw [FsEntry.paths, (FsEntry.walkAndDelete_walked entries).1, FsEntry.paths, List.filter_map]
  refine congrArg (List.map Prod.fst) (List.filter_congr fun found member => ?_)
  -- What is removed is temporary, and what is temporary is removed.
  cases removed : found.2 with
  | false =>
    have spared : ¬ IsTempPath found.1 := by
      intro temp
      rw [cleared found member temp] at removed
      cases removed
    simp [spared]
  | true =>
    have temp : IsTempPath found.1 := FsEntry.isTemp_of_listings entries found member removed
    simp [temp]

/--
A restart that walks over the data directory leaves whole files and nothing else.

The walk has to get at every directory and file. It takes out the names of the files that it
counts, and reading any other file gives what it gave before.
-/
theorem recovery_leaves_whole {fsync : Bool} {labels : List FileLabel} {state : DataDir}
    {entries : List FsEntry} (safe : fsync = true ∨ ∀ label ∈ labels, label.losesPower = false)
    (reached : run (fileStep fsync) emptyDataDir labels = some state) (idle : state.calls = [])
    (lists : ∀ path, (state.files.names path).isSome → path ∈ FsEntry.paths entries)
    (cleared : ∀ found ∈ FsEntry.listings entries, IsTempPath found.1 → found.2 = true) :
    ∃ next, run (fileStep fsync) state (recoveryLabels entries) = some next ∧
      (∀ path, next.files.read path =
        if path ∈ FsEntry.doomed entries then none else state.files.read path) ∧
      (∀ path data, next.files.read path = some data → (path, data) ∈ next.begun) ∧
      FsEntry.paths (FsEntry.walkAndDelete entries).1 =
        (FsEntry.paths entries).filter (fun path => ¬ IsTempPath path) ∧
      (FsEntry.walkAndDelete entries).2 = (FsEntry.doomed entries).length := by
  obtain ⟨next, removed, _, contents, names⟩ :=
    run_removals fsync idle fun path (member : path ∈ FsEntry.doomed entries) =>
      isTempPath_of_doomed member
  have further := (run_append (fileStep fsync) reached (recoveryLabels entries)).trans removed
  have calm : ∀ label ∈ recoveryLabels entries, label.losesPower = false := by
    intro label member
    obtain ⟨path, _, rfl⟩ := List.mem_map.mp member
    rfl
  obtain ⟨whole, tidy⟩ := run_whole (fsync = true) id (by
    intro label member loses
    refine safe.resolve_right fun quiet => ?_
    obtain before | after := List.mem_append.mp member
    · rw [quiet label before] at loses
      cases loses
    · rw [calm label after] at loses
      cases loses) further
  refine ⟨next, removed, fun path => ?_, fun path data reads => ?_, paths_walkAndDelete cleared, ?_⟩
  · rw [CrashFiles.read, names path, contents]
    split
    · rfl
    · rfl
  · obtain ⟨node, linked, _⟩ := Option.map_eq_some_iff.mp reads
    have there : (next.files.names path).isSome := by simp [linked]
    obtain published | temp := tidy path ⟨next.files.names, List.mem_cons_self, there⟩
    · refine whole.whole path published data ?_
      rw [CrashFiles.versions_cons, reads]
      exact List.mem_cons_self
    · -- A temporary file that is listed is removed, so it is not read.
      rw [names path] at there
      split at there
      · cases there
      · rename_i kept
        obtain ⟨found, listed, rfl⟩ := List.mem_map.mp (lists path there)
        refine absurd ?_ kept
        exact List.mem_map.mpr
          ⟨found, List.mem_filter.mpr ⟨listed, cleared found listed temp⟩, rfl⟩
  · rw [(FsEntry.walkAndDelete_walked entries).2, FsEntry.doomed, List.length_map,
      List.countP_eq_length_filter]

/-- What the interrupted writes have left in the data directory. -/
def leftEntries : List FsEntry := [.dir "files" true [.file "a.par" true, .file "b.parquet" true]]

theorem recovery_leaves_whole_interrupted :
    ∃ state next, run (fileStep true) emptyDataDir interruptedWrites = some state ∧
      run (fileStep true) state (recoveryLabels leftEntries) = some next ∧
      next.files.read ["files", "a.par"] = none ∧
      next.files.read ["files", "b.parquet"] = some [4, 5] ∧
      FsEntry.doomed leftEntries = [["files", "a.par"]] := by
  have left : (run (fileStep true) emptyDataDir interruptedWrites).map (fun state =>
      (state.calls.length, state.files.read ["files", "b.parquet"])) = some (0, some [4, 5]) := by
    decide
  obtain ⟨state, reached, fields⟩ := Option.map_eq_some_iff.mp left
  have idle : state.calls = [] := List.length_eq_zero_iff.mp (congrArg Prod.fst fields)
  have lists : ∀ path, (state.files.names path).isSome → path ∈ FsEntry.paths leftEntries := by
    -- The names are those that the two calls have given out.
    have names : state.files.names =
        Function.update (Function.update (Function.update (Function.update (fun _ => none)
          ["files", "a.par"] (some 0)) ["files", "b.par"] (some 1)) ["files", "b.parquet"] (some 1))
          ["files", "b.par"] none := by
      cases reached
      rfl
    intro path there
    rw [names] at there
    simp only [Function.update_apply] at there
    split at there
    · cases there
    · split at there
      · rename_i second
        rw [second]
        decide
      · split at there
        · rename_i first
          rw [first]
          decide
        · cases there
  obtain ⟨next, removed, reads, _⟩ := recovery_leaves_whole (.inl rfl) reached idle lists (by decide)
  have doomed : FsEntry.doomed leftEntries = [["files", "a.par"]] := by decide
  refine ⟨state, next, reached, removed, ?_, ?_, doomed⟩
  · rw [reads, doomed]
    rfl
  · rw [reads, doomed]
    exact congrArg Prod.snd fields

end Zradar.Parquet

import Zradar.Lib.BigEndian
import Zradar.Lib.CrashFiles
import Zradar.Lib.Run
import Zradar.Wal.Flusher

/-! The file of the checkpoint, saved beside itself and renamed, under kills and losses of power. -/

namespace Zradar.Wal

/-- How a checkpoint is written as JSON, and what is read from text that may be no JSON at all. -/
structure CheckpointCodec where
  write : Checkpoint → Bytes
  read : Bytes → Except String Checkpoint
  read_write : ∀ checkpoint, checkpoint.lastFlushedSegmentId < 2 ^ 64 →
    read (write checkpoint) = .ok checkpoint

/-- The path of the checkpoint in the directory of the WAL. -/
def checkpointPath : String := "checkpoint.json"

/-- The path with the extension of the file that is written first. -/
def checkpointTmpPath : String := "checkpoint.tmp"

/-- Where a call of `save` is. -/
inductive SavePhase where
  | idle
  /-- The file beside the checkpoint is open, and the rest of the text is to be written. -/
  | writing (checkpoint : Checkpoint) (rest : Bytes)
  | synced (checkpoint : Checkpoint)

/-- What a reader of the checkpoint can tell from outside. -/
inductive StoreEvent where
  | saved (checkpoint : Checkpoint)
  /-- The power was lost. -/
  | lost

/-- The directory of the WAL, and the one call that saves. -/
structure StoreState where
  files : CrashFiles String UInt8
  phase : SavePhase
  /-- The last one first. -/
  events : List StoreEvent

inductive StoreLabel where
  | begin (checkpoint : Checkpoint)
  | write (length : Nat)
  | sync
  | rename
  /-- An operation of the call fails, and `save` returns its error. -/
  | fail
  /-- The process is killed, and another one started. -/
  | kill
  | lose (directory : Nat) (left : Nat → Bytes)

namespace CheckpointCodec

/-- What `load` answers to the contents of the file, if there is one. -/
def load (codec : CheckpointCodec) : Option Bytes → Except String (Option Checkpoint)
  | some contents => (codec.read contents).map some
  | none => .ok none

/-- One operation of a save, or what ends one. -/
def storeStep (codec : CheckpointCodec) (state : StoreState) : StoreLabel → Option StoreState
  | .begin checkpoint =>
    match state.phase with
    | .idle =>
      if checkpoint.lastFlushedSegmentId < 2 ^ 64 then
        some { state with
          files := state.files.create checkpointTmpPath
          phase := .writing checkpoint (codec.write checkpoint) }
      else none
    | _ => none
  | .write length =>
    match state.phase with
    | .writing checkpoint rest =>
      some { state with
        files := state.files.append checkpointTmpPath (rest.take length)
        phase := .writing checkpoint (rest.drop length) }
    | _ => none
  | .sync =>
    match state.phase with
    | .writing checkpoint [] =>
      some { state with
        files := state.files.sync checkpointTmpPath
        phase := .synced checkpoint }
    | _ => none
  | .rename =>
    match state.phase with
    | .synced checkpoint =>
      some {
        files := state.files.rename checkpointTmpPath checkpointPath
        phase := .idle
        events := .saved checkpoint :: state.events }
    | _ => none
  | .fail | .kill => some { state with phase := .idle }
  | .lose directory left =>
    state.files.directories[directory]?.map fun kept =>
      ⟨state.files.crash kept left, .idle, .lost :: state.events⟩

end CheckpointCodec

/-- A directory without a checkpoint. -/
def emptyStore : StoreState := ⟨.empty, .idle, []⟩

/-- A cell for the checkpoint, with what a loss of power may take it back to. -/
structure Register where
  value : Option Checkpoint
  older : List (Option Checkpoint)

/-- The cells that saves and losses of power lead to. -/
inductive RegisterRun : List StoreEvent → Register → Prop where
  | start : RegisterRun [] ⟨none, []⟩
  | save {events : List StoreEvent} {register : Register} (before : RegisterRun events register)
      (checkpoint : Checkpoint) :
      RegisterRun (.saved checkpoint :: events)
        ⟨some checkpoint, register.value :: register.older⟩
  | lose {events : List StoreEvent} {register : Register} (before : RegisterRun events register)
      {kept : Option Checkpoint} (possible : kept ∈ register.value :: register.older) :
      RegisterRun (.lost :: events) ⟨kept, []⟩

/-- The files have what the cell has, and nothing but it after a loss of power. -/
structure CheckpointCodec.Holds (codec : CheckpointCodec) (files : CrashFiles String UInt8)
    (register : Register) : Prop where
  current : codec.load (files.read checkpointPath) = .ok register.value
  possible : ∀ version ∈ files.versions checkpointPath,
    ∃ value ∈ register.value :: register.older, codec.load version = .ok value

/-- The one name that a loss of power may not leave anything under but a whole file. -/
def FinalPath (path : String) : Prop := path = checkpointPath

/-- What a save has done of the file beside the checkpoint. -/
def CheckpointCodec.Written (codec : CheckpointCodec) (files : CrashFiles String UInt8) :
    SavePhase → Prop
  | .idle => True
  | .writing checkpoint rest =>
    checkpoint.lastFlushedSegmentId < 2 ^ 64 ∧ ∃ node,
      files.names checkpointTmpPath = some node ∧
        files.contents node ++ rest = codec.write checkpoint
  | .synced checkpoint =>
    checkpoint.lastFlushedSegmentId < 2 ^ 64 ∧ ∃ node,
      files.names checkpointTmpPath = some node ∧ files.contents node = codec.write checkpoint ∧
        files.synced node = true

/-- The files simulate the cell. -/
structure CheckpointCodec.Simulates (codec : CheckpointCodec) (state : StoreState)
    (register : Register) : Prop where
  replaced : state.files.Replaced FinalPath True
  written : codec.Written state.files state.phase
  holds : codec.Holds state.files register

namespace CheckpointCodec

variable {codec : CheckpointCodec} {files next : CrashFiles String UInt8} {register : Register}

theorem tmp_not_final : ¬ FinalPath checkpointTmpPath := by
  unfold FinalPath
  decide

/-- Files that read the same under the path of the checkpoint hold the same cell. -/
theorem Holds.of_same (holds : codec.Holds files register)
    (read : next.read checkpointPath = files.read checkpointPath)
    (versions : ∀ version ∈ next.versions checkpointPath, version ∈ files.versions checkpointPath) :
    codec.Holds next register where
  current := read ▸ holds.current
  possible := fun version member => holds.possible version (versions version member)

theorem Holds.of_versions (holds : codec.Holds files register)
    (same : next.versions checkpointPath = files.versions checkpointPath) :
    codec.Holds next register :=
  holds.of_same (CrashFiles.read_of_versions same) fun _ member => same ▸ member

/-- A save that was renamed into place is the value of the cell. -/
theorem Simulates.rename {phase : SavePhase} {events : List StoreEvent}
    (simulates : codec.Simulates ⟨files, phase, events⟩ register) {checkpoint : Checkpoint}
    (synced : phase = .synced checkpoint) :
    codec.Simulates
      ⟨files.rename checkpointTmpPath checkpointPath, .idle, .saved checkpoint :: events⟩
      ⟨some checkpoint, register.value :: register.older⟩ := by
  subst synced
  obtain ⟨small, node, named, contents, onDisk⟩ := simulates.written
  obtain ⟨replaced, read, versions, _⟩ :=
    simulates.replaced.rename tmp_not_final rfl named fun _ => onDisk
  -- The text that was written reads back as the checkpoint.
  have loaded : codec.load (some (files.contents node)) = .ok (some checkpoint) := by
    rw [load, contents, codec.read_write checkpoint small]
    rfl
  refine ⟨replaced, trivial, ⟨?_, ?_⟩⟩
  · show codec.load ((files.rename checkpointTmpPath checkpointPath).read checkpointPath) = _
    rw [read, loaded]
  · intro version member
    obtain rfl | old := versions version member
    · exact ⟨some checkpoint, List.mem_cons_self, loaded⟩
    · obtain ⟨value, possible, same⟩ := simulates.holds.possible version old
      exact ⟨value, List.mem_cons_of_mem _ possible, same⟩

/-- A loss of power takes the files and the cell back to the same value. -/
theorem Simulates.lose {state : StoreState} (simulates : codec.Simulates state register)
    {kept : Directory String} (possible : kept ∈ state.files.directories)
    (left : Nat → Bytes) :
    ∃ value ∈ register.value :: register.older,
      codec.Simulates ⟨state.files.crash kept left, .idle, .lost :: state.events⟩ ⟨value, []⟩ := by
  obtain ⟨replaced, versions⟩ := simulates.replaced.crash trivial possible left
  obtain ⟨version, only⟩ := versions checkpointPath rfl
  obtain ⟨value, member, same⟩ := simulates.holds.possible _ version
  refine ⟨value, member, replaced, trivial, same, ?_⟩
  intro other listed
  change other ∈ (state.files.crash kept left).versions checkpointPath at listed
  rw [only] at listed
  exact ⟨value, List.mem_cons_self, List.mem_singleton.mp listed ▸ same⟩

/-- Every operation of the store is one of the cell, or leaves the cell as it is. -/
theorem Simulates.step {state after : StoreState} (simulates : codec.Simulates state register)
    (explained : RegisterRun state.events register) {label : StoreLabel}
    (stepped : codec.storeStep state label = some after) :
    ∃ register, RegisterRun after.events register ∧ codec.Simulates after register := by
  obtain ⟨files, phase, events⟩ := state
  -- Only a rename and a loss of power are seen from outside.
  cases label with
  | begin checkpoint =>
    simp only [storeStep] at stepped
    split at stepped
    · split at stepped
      · rename_i small
        cases stepped
        obtain ⟨replaced, others⟩ := simulates.replaced.create tmp_not_final
        obtain ⟨read, versions⟩ := others checkpointPath rfl
        obtain ⟨node, names, contents, _, _⟩ :=
          CrashFiles.create_spec simulates.replaced tmp_not_final
        refine ⟨register, explained, replaced, ⟨small, node, ?_, ?_⟩,
          simulates.holds.of_same read versions⟩
        · rw [names, Function.update_self]
        · rw [contents, Function.update_self, List.nil_append]
      · cases stepped
    · cases stepped
  | write length =>
    simp only [storeStep] at stepped
    split at stepped
    · cases stepped
      obtain ⟨small, node, named, text⟩ := simulates.written
      obtain ⟨replaced, versions⟩ :=
        simulates.replaced.append tmp_not_final (List.take length _)
      obtain ⟨names, contents, _⟩ := CrashFiles.append_named named (List.take length _)
      refine ⟨register, explained, replaced, ⟨small, node, names ▸ named, ?_⟩,
        simulates.holds.of_versions (versions checkpointPath rfl)⟩
      -- What is written is the front of the rest.
      rw [contents, Function.update_self, List.append_assoc, List.take_append_drop]
      exact text
    · cases stepped
  | sync =>
    simp only [storeStep] at stepped
    split at stepped
    · cases stepped
      obtain ⟨small, node, named, text⟩ := simulates.written
      obtain ⟨replaced, versions⟩ := simulates.replaced.sync checkpointTmpPath
      obtain ⟨names, contents, synced⟩ := CrashFiles.sync_named named
      refine ⟨register, explained, replaced, ⟨small, node, names ▸ named, ?_, ?_⟩,
        simulates.holds.of_versions (versions checkpointPath)⟩
      · rw [contents, ← text, List.append_nil]
      · rw [synced, Function.update_self]
    · cases stepped
  | rename =>
    simp only [storeStep] at stepped
    split at stepped
    · rename_i checkpoint
      cases stepped
      exact ⟨_, .save explained checkpoint, simulates.rename rfl⟩
    · cases stepped
  | fail | kill =>
    cases stepped
    exact ⟨register, explained, simulates.replaced, trivial, simulates.holds⟩
  | lose directory left =>
    obtain ⟨kept, found, rfl⟩ := Option.map_eq_some_iff.mp stepped
    obtain ⟨value, possible, lost⟩ := simulates.lose (List.mem_of_getElem? found) left
    exact ⟨_, .lose explained possible, lost⟩

/--
Whatever a save is interrupted by, the file of the checkpoint is a cell that is written at once.

Loading never fails. It gives the checkpoint that was renamed into place last, or after a loss of
power one that the cell had since the loss before.
-/
theorem store_simulates_register {labels : List StoreLabel} {final : StoreState}
    (reached : run codec.storeStep emptyStore labels = some final) :
    ∃ register, RegisterRun final.events register ∧
      codec.load (final.files.read checkpointPath) = .ok register.value := by
  have started : codec.Simulates emptyStore ⟨none, []⟩ := by
    refine ⟨CrashFiles.empty_replaced, trivial, rfl, ?_⟩
    intro version member
    rw [List.mem_singleton.mp member]
    exact ⟨none, List.mem_cons_self, rfl⟩
  have kept : ∀ state label next,
      (∃ register, RegisterRun state.events register ∧ codec.Simulates state register) →
      codec.storeStep state label = some next →
      ∃ register, RegisterRun next.events register ∧ codec.Simulates next register :=
    fun _ _ _ ⟨_, explained, simulates⟩ stepped => simulates.step explained stepped
  obtain ⟨register, explained, simulates⟩ := run_keeps kept ⟨_, .start, started⟩ reached
  exact ⟨register, explained, simulates.holds.current⟩

end CheckpointCodec

/-- What is written in front of the first number of a checkpoint, with an indentation of two. -/
def segmentLead : List Char := "\x7b\n  \"last_flushed_segment_id\": ".toList

def offsetLead : List Char := ",\n  \"last_flushed_offset\": ".toList

def versionLead : List Char := ",\n  \"wal_format_version\": ".toList

def checkpointEnd : List Char := "\n\x7d".toList

/-- The text of a checkpoint. -/
def prettyChars (checkpoint : Checkpoint) : List Char :=
  segmentLead ++ (Nat.toDigits 10 checkpoint.lastFlushedSegmentId ++
    (offsetLead ++ (Nat.toDigits 10 checkpoint.lastFlushedOffset.toNat ++
      (versionLead ++ (Nat.toDigits 10 checkpoint.walFormatVersion.toNat ++ checkpointEnd)))))

/-- A number behind some text, and what comes behind the number. -/
def numberBehind (lead text : List Char) : Option (Nat × List Char) :=
  if lead.isPrefixOf text then
    let rest := text.drop lead.length
    some (Nat.ofDigitChars 10 (rest.takeWhile Char.isDigit) 0, rest.dropWhile Char.isDigit)
  else none

/-- The checkpoint that a text of this form is of. -/
def ofPrettyChars (text : List Char) : Option Checkpoint :=
  (numberBehind segmentLead text).bind fun segmentId =>
  (numberBehind offsetLead segmentId.2).bind fun offset =>
  (numberBehind versionLead offset.2).map fun version =>
    ⟨segmentId.1, UInt64.ofNat offset.1, UInt8.ofNat version.1⟩

theorem numberBehind_written (lead : List Char) (number : Nat) {rest : List Char}
    (ends : (rest.head?.any Char.isDigit) = false) :
    numberBehind lead (lead ++ (Nat.toDigits 10 number ++ rest)) = some (number, rest) := by
  have digits : ∀ char ∈ Nat.toDigits 10 number, Char.isDigit char = true :=
    fun char member => Nat.isDigit_of_mem_toDigits (by decide) (by decide) member
  -- The digits end where the text behind them begins.
  have taken : (Nat.toDigits 10 number ++ rest).takeWhile Char.isDigit = Nat.toDigits 10 number := by
    rw [List.takeWhile_append_of_pos digits]
    cases rest with
    | nil => simp
    | cons char rest => simp_all
  have dropped : (Nat.toDigits 10 number ++ rest).dropWhile Char.isDigit = rest := by
    rw [List.dropWhile_append_of_pos digits]
    cases rest with
    | nil => rfl
    | cons char rest => simp_all
  simp [numberBehind, taken, dropped]

theorem ofPrettyChars_prettyChars (checkpoint : Checkpoint) :
    ofPrettyChars (prettyChars checkpoint) = some checkpoint := by
  -- Each number is behind its own name, and in front of something that is no digit.
  have offsetEnds (rest : List Char) : (offsetLead ++ rest).head?.any Char.isDigit = false := rfl
  have versionEnds (rest : List Char) : (versionLead ++ rest).head?.any Char.isDigit = false := rfl
  have lastEnds : checkpointEnd.head?.any Char.isDigit = false := rfl
  unfold ofPrettyChars prettyChars
  rw [numberBehind_written _ _ (offsetEnds _), Option.bind_some,
    numberBehind_written _ _ (versionEnds _), Option.bind_some, numberBehind_written _ _ lastEnds]
  simp

theorem prettyChars_ascii (checkpoint : Checkpoint) :
    ∀ char ∈ prettyChars checkpoint, char.toNat < 128 := by
  have digits (number : Nat) : ∀ char ∈ Nat.toDigits 10 number, char.toNat < 128 := by
    intro char member
    have digit : char.isDigit = true := Nat.isDigit_of_mem_toDigits (by decide) (by decide) member
    simp only [Char.isDigit, Bool.and_eq_true, decide_eq_true_eq, UInt32.le_iff_toNat_le] at digit
    have last : ('9'.val : UInt32).toNat = 57 := rfl
    show char.val.toNat < 128
    omega
  have among {text : List Char} (all : text.all (fun char => char.toNat < 128) = true) :
      ∀ char ∈ text, char.toNat < 128 := by
    simpa using all
  simp only [prettyChars, List.forall_mem_append]
  exact ⟨among (by decide +kernel), digits _, among (by decide +kernel), digits _,
    among (by decide +kernel), digits _, among (by decide +kernel)⟩

/-- A codec that reads the texts it writes. -/
def prettyCodec : CheckpointCodec where
  write checkpoint := (prettyChars checkpoint).map fun char => UInt8.ofNat char.toNat
  read bytes :=
    match ofPrettyChars (bytes.map fun byte => Char.ofNat byte.toNat) with
    | some checkpoint => .ok checkpoint
    | none => .error "expected value"
  read_write := by
    intro checkpoint _
    -- A character below 128 is one byte, and comes back from it.
    have same : ((prettyChars checkpoint).map fun char => UInt8.ofNat char.toNat).map
        (fun byte => Char.ofNat byte.toNat) = prettyChars checkpoint := by
      rw [List.map_map]
      refine (List.map_congr_left fun char member => ?_).trans (List.map_id _)
      have small := prettyChars_ascii checkpoint char member
      have byte : char.toNat % 2 ^ 8 = char.toNat := Nat.mod_eq_of_lt (by omega)
      simp only [Function.comp, UInt8.toNat_ofNat', byte, Char.ofNat_toNat, id]
    rw [same, ofPrettyChars_prettyChars]

/-- A save, a second one that is cut off while it writes, and a loss of power. -/
def interruptedSaves : List StoreLabel :=
  [.begin ⟨3, 70, 1⟩, .write 200, .sync, .rename, .begin ⟨4, 90, 1⟩, .write 10,
    .lose 1 fun _ => [0]]

theorem store_simulates_register_interrupted :
    ∃ final register, run prettyCodec.storeStep emptyStore interruptedSaves = some final ∧
      RegisterRun final.events register ∧
      prettyCodec.load (final.files.read checkpointPath) = .ok register.value ∧
      register.value = some ⟨3, 70, 1⟩ := by
  have loaded : (run prettyCodec.storeStep emptyStore interruptedSaves).map (fun final =>
      (prettyCodec.load (final.files.read checkpointPath)).toOption) =
        some (some (some ⟨3, 70, 1⟩)) := by
    decide
  obtain ⟨final, reached, value⟩ := Option.map_eq_some_iff.mp loaded
  obtain ⟨register, explained, same⟩ := CheckpointCodec.store_simulates_register reached
  refine ⟨final, register, reached, explained, same, ?_⟩
  rw [same] at value
  exact Option.some.inj value

end Zradar.Wal

import Mathlib.Tactic

/-! Files under names, of which a loss of power keeps what was synced, and some earlier directory. -/

namespace Zradar

variable {ν β : Type}

/-- A directory: the node that each name stands for. -/
abbrev Directory (ν : Type) := ν → Option Nat

/-- The nodes and names as programs see them, and what the disk may have of them. -/
structure CrashFiles (ν β : Type) where
  contents : Nat → List β
  /-- The nodes whose contents are on the disk. -/
  synced : Nat → Bool
  names : Directory ν
  /-- The earlier directories that the disk may still have. -/
  older : List (Directory ν)
  /-- The nodes from here on have not been used. -/
  fresh : Nat

namespace CrashFiles

def empty : CrashFiles ν β := ⟨fun _ => [], fun _ => true, fun _ => none, [], 0⟩

/-- The directories that a loss of power may leave. -/
def directories (files : CrashFiles ν β) : List (Directory ν) := files.names :: files.older

/-- What is read under a name. -/
def read (files : CrashFiles ν β) (name : ν) : Option (List β) :=
  (files.names name).map files.contents

/-- Write the contents of a node, which the disk does not have then. -/
def store (files : CrashFiles ν β) (node : Nat) (data : List β) : CrashFiles ν β :=
  { files with
    contents := Function.update files.contents node data
    synced := Function.update files.synced node false }

/-- A directory takes the place of the one before it. -/
def redirect (files : CrashFiles ν β) (names : Directory ν) : CrashFiles ν β :=
  { files with names, older := files.directories }

/-- Write more behind what a file has. -/
def append (files : CrashFiles ν β) (name : ν) (data : List β) : CrashFiles ν β :=
  match files.names name with
  | some node => files.store node (files.contents node ++ data)
  | none => files

/-- Bring the contents of a file to the disk. -/
def sync (files : CrashFiles ν β) (name : ν) : CrashFiles ν β :=
  match files.names name with
  | some node => { files with synced := Function.update files.synced node true }
  | none => files

section

variable [DecidableEq ν]

/-- Open a file to be written from its start. -/
def create (files : CrashFiles ν β) (name : ν) : CrashFiles ν β :=
  match files.names name with
  | some node => files.store node []
  | none =>
    { (files.store files.fresh []).redirect
        (Function.update files.names name (some files.fresh)) with
      fresh := files.fresh + 1 }

/-- Give a file another name, in place of the file that has it. -/
def rename (files : CrashFiles ν β) (source target : ν) : CrashFiles ν β :=
  match files.names source with
  | some node =>
    files.redirect (Function.update (Function.update files.names target (some node)) source none)
  | none => files

/-- Take a name out of the directory. -/
def remove (files : CrashFiles ν β) (name : ν) : CrashFiles ν β :=
  files.redirect (Function.update files.names name none)

end

/-- A loss of power leaves one of the directories, and anything in nodes that were not synced. -/
def crash (files : CrashFiles ν β) (kept : Directory ν) (left : Nat → List β) : CrashFiles ν β where
  contents := fun node => if files.synced node then files.contents node else left node
  synced := fun _ => true
  names := kept
  older := []
  fresh := files.fresh

/-- What a name may stand for after a loss of power. -/
def versions (files : CrashFiles ν β) (name : ν) : List (Option (List β)) :=
  files.directories.map fun directory => (directory name).map files.contents

/-- Files under final names, each of which was written under another name and moved there. -/
structure Replaced (final : ν → Prop) (lossy : Prop) (files : CrashFiles ν β) : Prop where
  used : ∀ directory ∈ files.directories, ∀ name node, directory name = some node →
    node < files.fresh
  /-- Where power can be lost, whatever stands under a final name is on the disk. -/
  solid : lossy → ∀ directory ∈ files.directories, ∀ name node, final name →
    directory name = some node → files.synced node = true
  /-- A file that is being written stands under no other name. -/
  apart : ∀ temp node, ¬ final temp → files.names temp = some node →
    ∀ directory ∈ files.directories, ∀ name, directory name = some node → name = temp
  beside : ∀ directory ∈ files.directories, ∀ temp node, ¬ final temp →
    directory temp = some node → ∀ name, directory name = some node → name = temp

variable {files : CrashFiles ν β} {final : ν → Prop} {lossy : Prop}

theorem empty_replaced : (empty : CrashFiles ν β).Replaced final lossy := by
  constructor <;> simp [empty, directories]

theorem versions_cons (files : CrashFiles ν β) (name : ν) : files.versions name =
    files.read name :: files.older.map fun directory => (directory name).map files.contents := rfl

/-- The first version of a name is what is read under it. -/
theorem read_of_versions {next : CrashFiles ν β} {name : ν}
    (same : next.versions name = files.versions name) : next.read name = files.read name :=
  (List.cons.inj same).1

/-- Writing to a node that stands under no final name changes no version of a final name. -/
theorem Replaced.store (replaced : files.Replaced final lossy) {node : Nat} (data : List β)
    (own : ∀ directory ∈ files.directories, ∀ name, final name → directory name ≠ some node) :
    (files.store node data).Replaced final lossy ∧
      ∀ name, final name → (files.store node data).versions name = files.versions name := by
  have different : ∀ directory ∈ files.directories, ∀ name other, final name →
      directory name = some other → other ≠ node := by
    rintro directory member name other kept named rfl
    exact own directory member name kept named
  refine ⟨⟨replaced.used, ?_, replaced.apart, replaced.beside⟩, ?_⟩
  · intro power directory member name other kept named
    show Function.update files.synced node false other = true
    rw [Function.update_of_ne (different directory member name other kept named)]
    exact replaced.solid power directory member name other kept named
  · -- No directory has the written node under a final name.
    intro name kept
    refine List.map_congr_left fun directory member => Option.map_congr fun other named => ?_
    exact Function.update_of_ne (different directory member name other kept named) _ _

/-- The node of a file that is being written stands under no final name. -/
theorem Replaced.own (replaced : files.Replaced final lossy) {temp : ν} {node : Nat}
    (writing : ¬ final temp) (named : files.names temp = some node) :
    ∀ directory ∈ files.directories, ∀ name, final name → directory name ≠ some node := by
  intro directory member name kept linked
  have same := replaced.apart temp node writing named directory member name linked
  exact writing (same ▸ kept)

theorem Replaced.append (replaced : files.Replaced final lossy) {temp : ν} (writing : ¬ final temp)
    (data : List β) :
    (files.append temp data).Replaced final lossy ∧
      ∀ name, final name → (files.append temp data).versions name = files.versions name := by
  unfold CrashFiles.append
  cases named : files.names temp with
  | none => exact ⟨replaced, fun _ _ => rfl⟩
  | some node => exact replaced.store _ (replaced.own writing named)

/-- Syncing a file changes nothing that is read. -/
theorem Replaced.sync (replaced : files.Replaced final lossy) (name : ν) :
    (files.sync name).Replaced final lossy ∧
      ∀ name', (files.sync name).versions name' = files.versions name' := by
  unfold CrashFiles.sync
  split
  · rename_i node named
    refine ⟨⟨replaced.used, ?_, replaced.apart, replaced.beside⟩, fun _ => rfl⟩
    intro power directory member other node' kept linked
    show Function.update files.synced node true node' = true
    by_cases here : node' = node
    · rw [here, Function.update_self]
    · rw [Function.update_of_ne here]
      exact replaced.solid power directory member other node' kept linked
  · exact ⟨replaced, fun _ => rfl⟩

/-- A version of a name behind a redirection is its new one, or was one before. -/
theorem mem_versions_redirect (files : CrashFiles ν β) (names : Directory ν) {name : ν}
    {version : Option (List β)} :
    version ∈ (files.redirect names).versions name ↔
      version = (names name).map files.contents ∨ version ∈ files.versions name := by
  show version ∈ _ :: _ ↔ _
  exact List.mem_cons

/-- A directory whose final names are solid and whose other files stand under one name each. -/
theorem Replaced.redirect (replaced : files.Replaced final lossy) (names : Directory ν)
    (fresh : Nat) (used : ∀ name node, names name = some node → node < fresh)
    (more : files.fresh ≤ fresh)
    (solid : lossy → ∀ name node, final name → names name = some node → files.synced node = true)
    (apart : ∀ temp node, ¬ final temp → names temp = some node →
      (∀ name, names name = some node → name = temp) ∧
        ∀ directory ∈ files.directories, ∀ name, directory name = some node → name = temp) :
    Replaced final lossy { files.redirect names with fresh } where
  used := by
    intro directory member name node linked
    obtain rfl | old := List.mem_cons.mp member
    · exact used name node linked
    · exact Nat.lt_of_lt_of_le (replaced.used directory old name node linked) more
  solid := by
    intro power directory member name node kept linked
    obtain rfl | old := List.mem_cons.mp member
    · exact solid power name node kept linked
    · exact replaced.solid power directory old name node kept linked
  apart := by
    intro temp node writing linked directory member name there
    obtain rfl | old := List.mem_cons.mp member
    · exact (apart temp node writing linked).1 name there
    · exact (apart temp node writing linked).2 directory old name there
  beside := by
    intro directory member temp node writing linked
    obtain rfl | old := List.mem_cons.mp member
    · exact (apart temp node writing linked).1
    · exact replaced.beside directory old temp node writing linked

/-- What is written behind a file is behind its contents. -/
theorem append_named {name : ν} {node : Nat} (named : files.names name = some node)
    (data : List β) : (files.append name data).names = files.names ∧
      (files.append name data).contents =
        Function.update files.contents node (files.contents node ++ data) ∧
      (files.append name data).synced = Function.update files.synced node false := by
  simp [CrashFiles.append, CrashFiles.store, named]

theorem sync_named {name : ν} {node : Nat} (named : files.names name = some node) :
    (files.sync name).names = files.names ∧ (files.sync name).contents = files.contents ∧
      (files.sync name).synced = Function.update files.synced node true := by
  simp [CrashFiles.sync, named]

section

variable [DecidableEq ν]

/-- A new file is empty, and no other name stands for anything else than before. -/
theorem create_spec (replaced : files.Replaced final lossy) {temp : ν} (writing : ¬ final temp) :
    ∃ node, (files.create temp).names = Function.update files.names temp (some node) ∧
      (files.create temp).contents = Function.update files.contents node [] ∧
      (files.create temp).synced = Function.update files.synced node false ∧
      ∀ name, files.names name = some node → name = temp := by
  unfold CrashFiles.create
  cases named : files.names temp with
  | some node =>
    refine ⟨node, ?_, rfl, rfl, ?_⟩
    · show files.names = Function.update files.names temp (some node)
      rw [← named, Function.update_eq_self]
    · exact replaced.apart temp node writing named files.names List.mem_cons_self
  | none =>
    refine ⟨files.fresh, rfl, rfl, rfl, fun name linked => ?_⟩
    exact absurd (replaced.used _ List.mem_cons_self name _ linked) (Nat.lt_irrefl _)

/-- A new file under a name that is not final changes no version of a final name. -/
theorem Replaced.create (replaced : files.Replaced final lossy) {temp : ν}
    (writing : ¬ final temp) :
    (files.create temp).Replaced final lossy ∧ ∀ name, final name →
      (files.create temp).read name = files.read name ∧
        ∀ version ∈ (files.create temp).versions name, version ∈ files.versions name := by
  unfold CrashFiles.create
  cases named : files.names temp with
  | some node =>
    obtain ⟨kept, same⟩ := replaced.store [] (replaced.own writing named)
    exact ⟨kept, fun name last => ⟨read_of_versions (same name last),
      fun version member => same name last ▸ member⟩⟩
  | none =>
    -- No directory has the fresh node at all.
    have unused : ∀ directory ∈ files.directories, ∀ name, directory name ≠ some files.fresh := by
      intro directory member name linked
      exact Nat.lt_irrefl _ (replaced.used directory member name files.fresh linked)
    have first : files.names ∈ files.directories := List.mem_cons_self
    obtain ⟨kept, same⟩ := replaced.store [] fun directory member name _ =>
      unused directory member name
    have linked : ∀ name, name ≠ temp →
        Function.update files.names temp (some files.fresh) name = files.names name :=
      fun name other => Function.update_of_ne other _ _
    refine ⟨kept.redirect (Function.update files.names temp (some files.fresh)) (files.fresh + 1)
      ?_ (Nat.le_succ files.fresh) ?_ ?_, ?_⟩
    · intro name node named
      by_cases here : name = temp
      · subst here
        rw [Function.update_self] at named
        cases named
        exact Nat.lt_succ_self _
      · rw [linked name here] at named
        exact Nat.lt_succ_of_lt (replaced.used _ first name node named)
    · intro power name node last named
      have other : name ≠ temp := fun same => writing (same ▸ last)
      exact kept.solid power _ first name node last (linked name other ▸ named)
    · intro name node other named
      by_cases here : name = temp
      · subst here
        rw [Function.update_self] at named
        cases named
        refine ⟨fun second there => ?_, fun directory member second there => ?_⟩
        · by_contra different
          rw [linked second different] at there
          exact unused _ first second there
        · exact absurd there (unused directory member second)
      · rw [linked name here] at named
        refine ⟨fun second there => ?_, replaced.apart name node other named⟩
        by_cases new : second = temp
        · rw [new, Function.update_self] at there
          cases there
          exact absurd named (unused _ first name)
        · rw [linked second new] at there
          exact replaced.apart name node other named _ first second there
    · intro name last
      have other : name ≠ temp := fun same => writing (same ▸ last)
      refine ⟨?_, fun version member => ?_⟩
      · show Option.map _ (Function.update files.names temp (some files.fresh) name) = _
        rw [linked name other]
        exact read_of_versions (same name last)
      · obtain rfl | old := (mem_versions_redirect (files.store files.fresh [])
          (Function.update files.names temp (some files.fresh))).mp member
        · rw [linked name other]
          exact same name last ▸ List.mem_cons_self
        · exact same name last ▸ old

/-- A file that was synced takes a final name at once, and no other name changes. -/
theorem Replaced.rename (replaced : files.Replaced final lossy) {temp target : ν}
    (writing : ¬ final temp) (last : final target) {node : Nat}
    (named : files.names temp = some node) (synced : lossy → files.synced node = true) :
    (files.rename temp target).Replaced final lossy ∧
      (files.rename temp target).read target = some (files.contents node) ∧
      (∀ version ∈ (files.rename temp target).versions target,
        version = some (files.contents node) ∨ version ∈ files.versions target) ∧
      ∀ name, name ≠ target → final name →
        (files.rename temp target).read name = files.read name ∧
          ∀ version ∈ (files.rename temp target).versions name, version ∈ files.versions name := by
  have different : target ≠ temp := fun same => writing (same ▸ last)
  unfold CrashFiles.rename
  rw [named]
  have first : files.names ∈ files.directories := List.mem_cons_self
  have linked : Function.update (Function.update files.names target (some node)) temp none target =
      some node := by
    rw [Function.update_of_ne different, Function.update_self]
  have others : ∀ name, name ≠ target → name ≠ temp →
      Function.update (Function.update files.names target (some node)) temp none name =
        files.names name := by
    intro name one two
    rw [Function.update_of_ne two, Function.update_of_ne one]
  refine ⟨replaced.redirect (Function.update (Function.update files.names target (some node)) temp
    none) files.fresh ?_ (Nat.le_refl files.fresh) ?_ ?_, ?_, ?_, ?_⟩
  · intro name other there
    by_cases here : name = temp
    · rw [here, Function.update_self] at there
      cases there
    · by_cases new : name = target
      · rw [new, linked] at there
        cases there
        exact replaced.used _ first temp node named
      · rw [others name new here] at there
        exact replaced.used _ first name other there
  · intro power name other kept there
    have apart : name ≠ temp := fun same => writing (same ▸ kept)
    by_cases new : name = target
    · rw [new, linked] at there
      cases there
      exact synced power
    · rw [others name new apart] at there
      exact replaced.solid power _ first name other kept there
  · intro name other kept there
    have apart : name ≠ target := fun same => kept (same ▸ last)
    by_cases here : name = temp
    · -- Nothing stands under the old name now.
      rw [here, Function.update_self] at there
      cases there
    · rw [others name apart here] at there
      have alone := replaced.apart name other kept there
      refine ⟨fun second also => ?_, alone⟩
      by_cases old : second = temp
      · rw [old, Function.update_self] at also
        cases also
      · by_cases new : second = target
        · rw [new, linked] at also
          cases also
          exact absurd (alone _ first temp named) (Ne.symm here)
        · rw [others second new old] at also
          exact alone _ first second also
  · show Option.map _ (Function.update (Function.update files.names target _) temp none target) = _
    rw [linked]
    rfl
  · intro version member
    obtain rfl | old := (mem_versions_redirect files (Function.update (Function.update files.names
      target (some node)) temp none)).mp member
    · rw [linked]
      exact .inl rfl
    · exact .inr old
  · intro name apart kept
    have other : name ≠ temp := fun same => writing (same ▸ kept)
    refine ⟨?_, fun version member => ?_⟩
    · show Option.map _ (Function.update (Function.update files.names target _) temp none name) = _
      rw [others name apart other]
      rfl
    · obtain rfl | old := (mem_versions_redirect files (Function.update (Function.update files.names
        target (some node)) temp none)).mp member
      · rw [others name apart other]
        exact List.mem_cons_self
      · exact old

/-- A name that is taken out leaves the other ones as they are. -/
theorem Replaced.remove (replaced : files.Replaced final lossy) (gone : ν) :
    (files.remove gone).Replaced final lossy ∧ ∀ name, name ≠ gone →
      (files.remove gone).read name = files.read name ∧
        ∀ version ∈ (files.remove gone).versions name, version ∈ files.versions name := by
  have first : files.names ∈ files.directories := List.mem_cons_self
  -- Whatever is still there stood there before.
  have before : ∀ name node, Function.update files.names gone none name = some node →
      files.names name = some node := by
    intro name node linked
    by_cases here : name = gone
    · rw [here, Function.update_self] at linked
      cases linked
    · rwa [Function.update_of_ne here] at linked
  refine ⟨replaced.redirect (Function.update files.names gone none) files.fresh ?_
    (Nat.le_refl files.fresh) ?_ ?_, ?_⟩
  · exact fun name node linked => replaced.used _ first name node (before name node linked)
  · exact fun power name node last linked =>
      replaced.solid power _ first name node last (before name node linked)
  · intro temp node writing linked
    have alone := replaced.apart temp node writing (before temp node linked)
    exact ⟨fun name there => alone _ first name (before name node there), alone⟩
  · intro name other
    have linked : Function.update files.names gone none name = files.names name :=
      Function.update_of_ne other _ _
    refine ⟨?_, fun version member => ?_⟩
    · show Option.map _ (Function.update files.names gone none name) = _
      rw [linked]
      rfl
    · obtain rfl | old := (mem_versions_redirect files
        (Function.update files.names gone none)).mp member
      · rw [linked]
        exact List.mem_cons_self
      · exact old

/-- What a rename does to the names. -/
theorem rename_names {temp : ν} {node : Nat} (target : ν) (named : files.names temp = some node) :
    (files.rename temp target).names =
        Function.update (Function.update files.names target (some node)) temp none ∧
      (files.rename temp target).contents = files.contents ∧
      (files.rename temp target).synced = files.synced := by
  unfold CrashFiles.rename
  rw [named]
  exact ⟨rfl, rfl, rfl⟩

end

/-- Some directory that the disk may have names a file so. -/
def Mentions (files : CrashFiles ν β) (name : ν) : Prop :=
  ∃ directory ∈ files.directories, (directory name).isSome

/-- A redirection mentions what it names, and what was mentioned before. -/
theorem Mentions.of_redirect {names : Directory ν} {name : ν}
    (mentions : (files.redirect names).Mentions name) :
    (names name).isSome ∨ files.Mentions name := by
  obtain ⟨directory, member, named⟩ := mentions
  obtain rfl | old := List.mem_cons.mp member
  · exact .inl named
  · exact .inr ⟨directory, old, named⟩

theorem Mentions.of_append {temp name : ν} {data : List β}
    (mentions : (files.append temp data).Mentions name) : files.Mentions name := by
  unfold CrashFiles.append at mentions
  split at mentions
  · exact mentions
  · exact mentions

theorem Mentions.of_sync {temp name : ν} (mentions : (files.sync temp).Mentions name) :
    files.Mentions name := by
  unfold CrashFiles.sync at mentions
  split at mentions
  · exact mentions
  · exact mentions

theorem Mentions.of_crash {kept : Directory ν} {left : Nat → List β} {name : ν}
    (possible : kept ∈ files.directories) (mentions : (files.crash kept left).Mentions name) :
    files.Mentions name := by
  obtain ⟨directory, member, named⟩ := mentions
  rw [List.mem_singleton.mp member] at named
  exact ⟨kept, possible, named⟩

section

variable [DecidableEq ν]

theorem Mentions.of_create {temp name : ν} (mentions : (files.create temp).Mentions name) :
    name = temp ∨ files.Mentions name := by
  unfold CrashFiles.create at mentions
  split at mentions
  · exact .inr mentions
  · obtain named | old := Mentions.of_redirect mentions
    · by_cases here : name = temp
      · exact .inl here
      · change (Function.update files.names temp (some files.fresh) name).isSome at named
        rw [Function.update_of_ne here] at named
        exact .inr ⟨files.names, List.mem_cons_self, named⟩
    · exact .inr old

theorem Mentions.of_rename {temp target name : ν}
    (mentions : (files.rename temp target).Mentions name) :
    name = target ∨ files.Mentions name := by
  unfold CrashFiles.rename at mentions
  split at mentions
  · obtain named | old := Mentions.of_redirect mentions
    · by_cases here : name = temp
      · rw [here, Function.update_self] at named
        cases named
      · rw [Function.update_of_ne here] at named
        by_cases new : name = target
        · exact .inl new
        · rw [Function.update_of_ne new] at named
          exact .inr ⟨files.names, List.mem_cons_self, named⟩
    · exact .inr old
  · exact .inr mentions

theorem Mentions.of_remove {gone name : ν} (mentions : (files.remove gone).Mentions name) :
    files.Mentions name := by
  obtain named | old := Mentions.of_redirect mentions
  · by_cases here : name = gone
    · rw [here, Function.update_self] at named
      cases named
    · rw [Function.update_of_ne here] at named
      exact ⟨files.names, List.mem_cons_self, named⟩
  · exact old

end

/-- The file under a name is the same one, with the same contents, and is synced if it was. -/
def Keeps (files next : CrashFiles ν β) (name : ν) : Prop :=
  ∀ node, files.names name = some node → next.names name = some node ∧
    next.contents node = files.contents node ∧
      (files.synced node = true → next.synced node = true)

/-- Writing to one file leaves a file of another node alone. -/
theorem keeps_append (replaced : files.Replaced final lossy) {temp name : ν}
    (writing : ¬ final temp) (other : name ≠ temp) (data : List β) :
    files.Keeps (files.append temp data) name := by
  intro node named
  cases linked : files.names temp with
  | none =>
    unfold CrashFiles.append
    rw [linked]
    exact ⟨named, rfl, id⟩
  | some written =>
    obtain ⟨names, contents, synced⟩ := append_named linked data
    have different : node ≠ written := by
      rintro rfl
      exact other (replaced.apart temp node writing linked _ List.mem_cons_self name named)
    rw [names, contents, synced, Function.update_of_ne different, Function.update_of_ne different]
    exact ⟨named, rfl, id⟩

theorem keeps_sync (files : CrashFiles ν β) (temp name : ν) : files.Keeps (files.sync temp) name := by
  intro node named
  cases linked : files.names temp with
  | none =>
    unfold CrashFiles.sync
    rw [linked]
    exact ⟨named, rfl, id⟩
  | some written =>
    obtain ⟨names, contents, synced⟩ := sync_named linked
    rw [names, contents, synced]
    refine ⟨named, rfl, fun before => ?_⟩
    by_cases here : node = written
    · rw [here, Function.update_self]
    · rw [Function.update_of_ne here, before]

section

variable [DecidableEq ν]

theorem keeps_create (replaced : files.Replaced final lossy) {temp name : ν}
    (writing : ¬ final temp) (other : name ≠ temp) : files.Keeps (files.create temp) name := by
  intro node named
  obtain ⟨opened, names, contents, synced, alone⟩ := create_spec replaced writing
  have different : node ≠ opened := by
    rintro rfl
    exact other (alone name named)
  rw [names, contents, synced, Function.update_of_ne other, Function.update_of_ne different,
    Function.update_of_ne different]
  exact ⟨named, rfl, id⟩

theorem keeps_rename (files : CrashFiles ν β) {temp target name : ν} (other : name ≠ temp)
    (apart : name ≠ target) : files.Keeps (files.rename temp target) name := by
  intro node named
  cases linked : files.names temp with
  | none =>
    unfold CrashFiles.rename
    rw [linked]
    exact ⟨named, rfl, id⟩
  | some moved =>
    obtain ⟨names, contents, synced⟩ := rename_names target linked
    rw [names, contents, synced, Function.update_of_ne other, Function.update_of_ne apart]
    exact ⟨named, rfl, id⟩

end

/-- A loss of power leaves one of the versions of each final name. -/
theorem Replaced.crash (replaced : files.Replaced final lossy) (power : lossy)
    {kept : Directory ν} (possible : kept ∈ files.directories) (left : Nat → List β) :
    (files.crash kept left).Replaced final lossy ∧ ∀ name, final name →
      (files.crash kept left).read name ∈ files.versions name ∧
        (files.crash kept left).versions name = [(files.crash kept left).read name] := by
  have only : ∀ directory ∈ (files.crash kept left).directories, directory = kept := by
    intro directory member
    exact List.mem_singleton.mp member
  refine ⟨⟨?_, fun _ _ _ _ _ _ _ => rfl, ?_, ?_⟩, fun name last => ⟨?_, rfl⟩⟩
  · intro directory member name node linked
    rw [only directory member] at linked
    exact replaced.used kept possible name node linked
  · intro temp node writing linked directory member
    rw [only directory member]
    exact replaced.beside kept possible temp node writing linked
  · intro directory member temp node writing linked
    rw [only directory member] at linked ⊢
    exact replaced.beside kept possible temp node writing linked
  · -- What stands under a final name was synced, so its contents are left as they were.
    refine List.mem_map.mpr ⟨kept, possible, ?_⟩
    refine Option.map_congr fun node linked => ?_
    show files.contents node = if files.synced node then files.contents node else left node
    rw [if_pos (replaced.solid power kept possible name node last linked)]

end CrashFiles

end Zradar

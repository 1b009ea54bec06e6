import Mathlib.Tactic

/-! The walk over the data directory at startup, which removes what crashes left behind. -/

namespace Zradar.Parquet

/-- What is behind the last dot of a file name, if something is in front of it. -/
def extension (name : String) : Option String :=
  let reversed := name.toList.reverse
  match reversed.dropWhile fun char => char ≠ '.' with
  | _ :: _ :: _ => some (.ofList (reversed.takeWhile fun char => char ≠ '.').reverse)
  | [_] | [] => none

/-- An entry of a directory, with what the walk can do with it. -/
inductive FsEntry where
  /-- An entry that could not be read. -/
  | unknown (name : String)
  | file (name : String) (removable : Bool)
  | dir (name : String) (readable : Bool) (entries : List FsEntry)

namespace FsEntry

/-- Whether the walk takes a file for the rest of an incomplete write. -/
def isTemp (name : String) : Bool := extension name = some "par"

mutual

/-- One entry of `walk_and_delete`: what is left of it, and how many files were removed. -/
def visit : FsEntry → Option FsEntry × Nat
  | .unknown name => (some (.unknown name), 0)
  | .file name removable =>
    if isTemp name then
      if removable then (none, 1) else (some (.file name false), 0)
    else (some (.file name removable), 0)
  | .dir name readable entries =>
    if readable then
      let (left, removed) := walkAndDelete entries
      (some (.dir name true left), removed)
    else (some (.dir name false entries), 0)

/-- The walk over the entries of a directory. -/
def walkAndDelete : List FsEntry → List FsEntry × Nat
  | [] => ([], 0)
  | entry :: entries =>
    let (here, removed) := entry.visit
    let (left, more) := walkAndDelete entries
    (here.toList ++ left, removed + more)

end

mutual

/-- The files in an entry by their path, and whether the walk comes by and removes them. -/
def listing : FsEntry → List (List String × Bool)
  | .unknown name => [([name], false)]
  | .file name removable => [([name], isTemp name && removable)]
  | .dir name readable entries =>
    (listings entries).map fun found => (name :: found.1, readable && found.2)

def listings : List FsEntry → List (List String × Bool)
  | [] => []
  | entry :: entries => entry.listing ++ listings entries

end

/-- The paths of the files below a directory. -/
def paths (entries : List FsEntry) : List (List String) := (listings entries).map Prod.fst

/-- The paths of the files that the walk removes. -/
def doomed (entries : List FsEntry) : List (List String) :=
  ((listings entries).filter fun found => found.2).map Prod.fst

theorem listings_append (first second : List FsEntry) :
    listings (first ++ second) = listings first ++ listings second := by
  induction first with
  | nil => rfl
  | cons entry first ih => rw [List.cons_append, listings, listings, ih, List.append_assoc]

/-- What the walk leaves of some files is a listing without the ones that it removes. -/
def Walked (before after : List (List String × Bool)) (removed : Nat) : Prop :=
  after = before.filter (fun found => !found.2) ∧ removed = before.countP fun found => found.2

theorem Walked.append {before after others rest : List (List String × Bool)} {removed more : Nat}
    (first : Walked before after removed) (second : Walked others rest more) :
    Walked (before ++ others) (after ++ rest) (removed + more) := by
  obtain ⟨rfl, rfl⟩ := first
  obtain ⟨rfl, rfl⟩ := second
  simp [Walked]

/-- A directory that can be read is walked as its entries are. -/
theorem Walked.below {before after : List (List String × Bool)} {removed : Nat}
    (walked : Walked before after removed) (name : String) :
    Walked (before.map fun found => (name :: found.1, true && found.2))
      (after.map fun found => (name :: found.1, true && found.2)) removed := by
  obtain ⟨rfl, rfl⟩ := walked
  simp only [Walked, Bool.true_and, List.filter_map, List.countP_map]
  exact ⟨rfl, rfl⟩

/-- Nothing is removed from files that the walk does not come by. -/
theorem Walked.stays {files : List (List String × Bool)} (spared : ∀ found ∈ files, found.2 = false) :
    Walked files files 0 := by
  refine ⟨(List.filter_eq_self.mpr ?_).symm, (List.countP_eq_zero.mpr ?_).symm⟩
  · intro found member
    simp [spared found member]
  · intro found member
    simp [spared found member]

mutual

theorem visit_walked (entry : FsEntry) :
    Walked entry.listing (listings entry.visit.1.toList) entry.visit.2 := by
  -- One case for each kind of entry; only a directory has more below it.
  match entry with
  | .unknown name => exact .stays (by simp [listing])
  | .file name removable =>
    cases temp : isTemp name <;> cases removable <;>
      simp [visit, listing, listings, temp, Walked]
  | .dir name false entries =>
    have spared : ∀ found ∈ (listings entries).map fun found => (name :: found.1, false && found.2),
        found.2 = false := by simp
    simpa [visit, listing, listings] using Walked.stays spared
  | .dir name true entries =>
    simpa [visit, listing, listings] using (walkAndDelete_walked entries).below name

theorem walkAndDelete_walked (entries : List FsEntry) :
    Walked (listings entries) (listings (walkAndDelete entries).1) (walkAndDelete entries).2 := by
  match entries with
  | [] => exact ⟨rfl, rfl⟩
  | entry :: entries =>
    simp only [walkAndDelete, listings, listings_append]
    exact (visit_walked entry).append (walkAndDelete_walked entries)

end

mutual

/-- The walk removes no file without the extension of an incomplete one. -/
theorem isTemp_of_listing (entry : FsEntry) (found : List String × Bool)
    (member : found ∈ entry.listing) (removed : found.2 = true) :
    found.1.getLast?.any isTemp = true := by
  match entry with
  | .unknown name =>
    cases List.mem_singleton.mp member
    cases removed
  | .file name removable =>
    cases List.mem_singleton.mp member
    simp only [Bool.and_eq_true] at removed
    simpa using removed.1
  | .dir name readable entries =>
    obtain ⟨below, listed, rfl⟩ := List.mem_map.mp member
    simp only [Bool.and_eq_true] at removed
    have temp := isTemp_of_listings entries below listed removed.2
    -- The file has the same name below its directory.
    cases parts : below.1 with
    | nil => simp [parts] at temp
    | cons part rest =>
      rw [parts] at temp
      rwa [List.getLast?_cons_cons]

theorem isTemp_of_listings (entries : List FsEntry) (found : List String × Bool)
    (member : found ∈ listings entries) (removed : found.2 = true) :
    found.1.getLast?.any isTemp = true := by
  match entries with
  | [] => cases member
  | entry :: entries =>
    obtain here | later := List.mem_append.mp member
    · exact isTemp_of_listing entry found here removed
    · exact isTemp_of_listings entries found later removed

end

end FsEntry

end Zradar.Parquet

import Mathlib.Data.List.Nodup

/-! Rows under a primary key, of which the first one of each key stays. -/

namespace Zradar

variable {α κ : Type} [DecidableEq κ] {key : α → κ} {rows more : List α} {row : α}

/-- Insert a row, unless there is one with its key. -/
def insertAbsent (key : α → κ) (rows : List α) (row : α) : List α :=
  if key row ∈ rows.map key then rows else rows ++ [row]

/-- No row is ever changed or taken away. -/
theorem prefix_foldl_insertAbsent : rows <+: more.foldl (insertAbsent key) rows := by
  induction more generalizing rows with
  | nil => exact List.prefix_refl rows
  | cons row more further =>
    refine List.IsPrefix.trans ?_ further
    rw [insertAbsent]
    split
    · exact List.prefix_refl rows
    · exact List.prefix_append rows [row]

/-- A key that is there stays there. -/
theorem keys_subset_foldl_insertAbsent {found : κ} (member : found ∈ rows.map key) :
    found ∈ (more.foldl (insertAbsent key) rows).map key :=
  (prefix_foldl_insertAbsent.map key).subset member

/-- There is one row of each key at most. -/
theorem nodup_foldl_insertAbsent (distinct : (rows.map key).Nodup) :
    ((more.foldl (insertAbsent key) rows).map key).Nodup := by
  induction more generalizing rows with
  | nil => exact distinct
  | cons row more further =>
    refine further ?_
    rw [insertAbsent]
    by_cases present : key row ∈ rows.map key
    · rw [if_pos present]
      exact distinct
    · -- The key of the new row is the only one that was not there.
      rw [if_neg present, List.map_append]
      refine distinct.append (List.nodup_singleton _) ?_
      intro found before single
      obtain rfl := List.mem_singleton.mp single
      exact present before

/-- Every row is an old one or one that was inserted. -/
theorem mem_of_mem_foldl_insertAbsent (member : row ∈ more.foldl (insertAbsent key) rows) :
    row ∈ rows ∨ row ∈ more := by
  induction more generalizing rows with
  | nil => exact .inl member
  | cons new more further =>
    obtain here | later := further member
    · rw [insertAbsent] at here
      split at here
      · exact .inl here
      · exact (List.mem_append.mp here).imp id fun single => by
          rw [List.mem_singleton.mp single]
          exact List.mem_cons_self
    · exact .inr (List.mem_cons_of_mem _ later)

/-- Behind an insertion there is a row with the key, be it an old one or the new one. -/
theorem key_mem_foldl_insertAbsent (member : row ∈ more) :
    key row ∈ (more.foldl (insertAbsent key) rows).map key := by
  induction more generalizing rows with
  | nil => cases member
  | cons new more further =>
    obtain rfl | later := List.mem_cons.mp member
    · have inserted : key row ∈ (insertAbsent key rows row).map key := by
        rw [insertAbsent]
        split
        · assumption
        · simp
      rw [List.foldl_cons]
      exact keys_subset_foldl_insertAbsent inserted
    · exact further later

end Zradar

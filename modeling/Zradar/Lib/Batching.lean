import Mathlib.Tactic

/-! Cutting a list into batches, each of which ends where its size reaches a limit. -/

namespace Zradar

variable {α : Type}

/-- The size of a batch. -/
def batchSize (size : α → Nat) (batch : List α) : Nat := (batch.map size).sum

/-- The batches of some items, the first of which begins with the items that are held already. -/
def batchesFrom (size : α → Nat) (limit : Nat) : List α → List α → List (List α)
  | held, [] => if held.isEmpty then [] else [held]
  | held, item :: rest =>
    -- The item that brings a batch to the limit is the last one in it.
    if limit ≤ batchSize size (held ++ [item]) then
      (held ++ [item]) :: batchesFrom size limit [] rest
    else batchesFrom size limit (held ++ [item]) rest

/-- The batches of a list. -/
def batches (size : α → Nat) (limit : Nat) (items : List α) : List (List α) :=
  batchesFrom size limit [] items

variable {size : α → Nat} {limit : Nat}

/-- Every item is in a batch, and the batches keep the order of the items. -/
theorem flatten_batchesFrom (held items : List α) :
    (batchesFrom size limit held items).flatten = held ++ items := by
  -- Whatever is held goes into the next batch, in front of what follows.
  induction items generalizing held with
  | nil =>
    unfold batchesFrom
    cases held <;> simp
  | cons item rest ih =>
    unfold batchesFrom
    split
    · rw [List.flatten_cons, ih, List.nil_append, List.append_assoc, List.singleton_append]
    · rw [ih, List.append_assoc, List.singleton_append]

@[simp] theorem flatten_batches (items : List α) : (batches size limit items).flatten = items :=
  flatten_batchesFrom [] items

/-- No batch is empty. -/
theorem ne_nil_of_mem_batchesFrom {held items batch : List α}
    (member : batch ∈ batchesFrom size limit held items) : batch ≠ [] := by
  -- A batch is cut behind an item, and what is left at the end is cut only if it is some.
  induction items generalizing held with
  | nil =>
    unfold batchesFrom at member
    cases held with
    | nil => cases member
    | cons first held =>
      rw [List.mem_singleton.mp member]
      exact List.cons_ne_nil first held
  | cons item rest ih =>
    unfold batchesFrom at member
    split at member
    · rcases List.mem_cons.mp member with first | later
      · rw [first]
        exact List.append_ne_nil_of_right_ne_nil held (List.cons_ne_nil item [])
      · exact ih later
    · exact ih member

end Zradar

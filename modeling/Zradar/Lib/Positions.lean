import Mathlib.Data.List.Perm.Basic

/-! Members of a list that are taken out or replaced by their position. -/

namespace Zradar

variable {α : Type} {values : List α} {position : Nat} {value : α}

/-- A list is the member at a position and the others. -/
theorem taken_perm (found : values[position]? = some value) :
    (value :: values.eraseIdx position).Perm values := by
  obtain ⟨inside, rfl⟩ := List.getElem?_eq_some_iff.mp found
  exact List.getElem_cons_eraseIdx_perm inside

/-- A list in which a member is replaced is the new member and the others. -/
theorem replaced_perm (found : values[position]? = some value) (other : α) :
    (values.set position other).Perm (other :: values.eraseIdx position) :=
  List.set_perm_cons_eraseIdx (List.getElem?_eq_some_iff.mp found).1 other

/-- A value stays in a list in which another one is replaced. -/
theorem mem_set_of_ne {old new : α} (found : values[position]? = some old) (member : value ∈ values)
    (other : value ≠ old) : value ∈ values.set position new := by
  -- Only the value at the position is replaced.
  obtain ⟨index, located⟩ := List.mem_iff_getElem?.mp member
  have apart : position ≠ index := by
    rintro rfl
    rw [found] at located
    exact other (Option.some.inj located).symm
  refine List.mem_of_getElem? (i := index) ?_
  rw [List.getElem?_set_ne apart, located]

/-- A value stays in a list from which another one is erased. -/
theorem mem_eraseIdx_of_ne {old : α} (found : values[position]? = some old)
    (member : value ∈ values) (other : value ≠ old) : value ∈ values.eraseIdx position := by
  -- Only the value at the position is taken away.
  obtain same | rest := List.mem_cons.mp ((taken_perm found).mem_iff.mpr member)
  · exact absurd same other
  · exact rest

/-- A list counts as much as without a member, and one more if the member counts. -/
theorem countP_taken (found : values[position]? = some value) (counts : α → Bool) :
    values.countP counts =
      (values.eraseIdx position).countP counts + if counts value then 1 else 0 := by
  rw [← (taken_perm found).countP_eq, List.countP_cons]

theorem countP_replaced (found : values[position]? = some value) (other : α) (counts : α → Bool) :
    (values.set position other).countP counts =
      (values.eraseIdx position).countP counts + if counts other then 1 else 0 := by
  rw [(replaced_perm found other).countP_eq, List.countP_cons]

/-- What is taken of a list is what is taken of a member and of the others. -/
theorem filterMap_taken {β : Type} (found : values[position]? = some value) (take? : α → Option β) :
    (values.filterMap take?).Perm
      ((take? value).toList ++ (values.eraseIdx position).filterMap take?) := by
  have taken := ((taken_perm found).filterMap take?).symm
  cases part : take? value with
  | none => rwa [List.filterMap_cons_none part] at taken
  | some some => rwa [List.filterMap_cons_some part] at taken

theorem filterMap_replaced {β : Type} (found : values[position]? = some value) (other : α)
    (take? : α → Option β) : ((values.set position other).filterMap take?).Perm
      ((take? other).toList ++ (values.eraseIdx position).filterMap take?) := by
  have replaced := (replaced_perm found other).filterMap take?
  cases part : take? other with
  | none => rwa [List.filterMap_cons_none part] at replaced
  | some some => rwa [List.filterMap_cons_some part] at replaced

/-- Replacing a member by one that gives the same takes the same of a list. -/
theorem filterMap_set_same {β : Type} (found : values[position]? = some value) {other : α}
    {take? : α → Option β} (same : take? other = take? value) :
    ((values.set position other).filterMap take?).Perm (values.filterMap take?) := by
  have replaced := filterMap_replaced found other take?
  rw [same] at replaced
  exact replaced.trans (filterMap_taken found take?).symm

/-- The parts of a list are those of a member and those of the others. -/
theorem flatMap_taken {β : Type} (found : values[position]? = some value) (parts : α → List β) :
    (values.flatMap parts).Perm (parts value ++ (values.eraseIdx position).flatMap parts) :=
  ((taken_perm found).flatMap_right parts).symm

theorem flatMap_replaced {β : Type} (found : values[position]? = some value) (other : α)
    (parts : α → List β) : ((values.set position other).flatMap parts).Perm
      (parts other ++ (values.eraseIdx position).flatMap parts) :=
  (replaced_perm found other).flatMap_right parts

end Zradar

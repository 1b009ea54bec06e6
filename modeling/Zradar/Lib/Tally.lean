import Mathlib.Algebra.BigOperators.Group.List.Basic
import Mathlib.Algebra.Order.BigOperators.Group.List

/-! Sums of weights over the members of a list that count. -/

namespace Zradar

variable {α β M : Type} [AddCommMonoid M]

/-- The sum of the weights of the members that count. -/
def tally (weight : α → M) (counts : α → Bool) (members : List α) : M :=
  ((members.filter counts).map weight).sum

section

variable {weight : α → M} {counts other : α → Bool} {members more : List α}

@[simp] theorem tally_nil : tally weight counts [] = 0 := rfl

theorem tally_cons (member : α) : tally weight counts (member :: members) =
    (if counts member then weight member else 0) + tally weight counts members := by
  unfold tally
  by_cases counted : counts member = true
  · rw [List.filter_cons_of_pos counted, if_pos counted, List.map_cons, List.sum_cons]
  · rw [List.filter_cons_of_neg counted, if_neg counted, zero_add]

theorem tally_append :
    tally weight counts (members ++ more) = tally weight counts members + tally weight counts more := by
  unfold tally
  rw [List.filter_append, List.map_append, List.sum_append]

theorem tally_singleton (member : α) :
    tally weight counts [member] = if counts member then weight member else 0 := by
  rw [tally_cons, tally_nil, add_zero]

theorem tally_map (change : β → α) (members : List β) :
    tally weight counts (members.map change) = tally (weight ∘ change) (counts ∘ change) members := by
  unfold tally
  rw [List.filter_map, List.map_map]

/-- The order of the members does not matter. -/
theorem tally_perm (same : members.Perm more) :
    tally weight counts members = tally weight counts more :=
  ((same.filter counts).map weight).sum_eq

/-- Only the members decide what counts. -/
theorem tally_congr (same : ∀ member ∈ members, counts member = other member) :
    tally weight counts members = tally weight other members := by
  unfold tally
  rw [List.filter_congr same]

theorem tally_weights {heavy : α → M} (same : ∀ member ∈ members, weight member = heavy member) :
    tally weight counts members = tally heavy counts members := by
  unfold tally
  rw [List.map_congr_left fun member listed => same member (List.mem_of_mem_filter listed)]

/-- A list in which nothing counts weighs nothing. -/
theorem tally_eq_zero (none : ∀ member ∈ members, counts member = false) :
    tally weight counts members = 0 := by
  -- Nothing is left when only the counted members are kept.
  have empty : members.filter counts = [] := by
    refine List.filter_eq_nil_iff.mpr fun member listed counted => ?_
    rw [none member listed] at counted
    exact nomatch counted
  rw [tally, empty]
  rfl

/-- What counts and is filtered out, and what counts and is kept. -/
theorem tally_split (keep : α → Bool) (members : List α) :
    tally weight counts members =
      tally weight counts (members.filter keep) +
        tally weight counts (members.filter fun member => !keep member) := by
  -- Each member is counted in exactly one of the two parts.
  induction members with
  | nil => simp
  | cons member members ih =>
    rw [tally_cons, ih]
    cases kept : keep member with
    | true =>
      rw [List.filter_cons_of_pos kept, List.filter_cons_of_neg (by simp [kept]), tally_cons, add_assoc]
    | false =>
      rw [List.filter_cons_of_neg (by simp [kept]), List.filter_cons_of_pos (by simp [kept]),
        tally_cons, add_left_comm]

/-- Members that count for one of two reasons count for either, if none counts for both. -/
theorem tally_or (apart : ∀ member ∈ members, counts member = true → other member = false) :
    tally weight (fun member => counts member || other member) members =
      tally weight counts members + tally weight other members := by
  -- No member is counted twice, since the two conditions exclude each other.
  induction members with
  | nil => simp
  | cons member members ih =>
    obtain ⟨here, rest⟩ := List.forall_mem_cons.mp apart
    rw [tally_cons, tally_cons, tally_cons, ih rest]
    cases first : counts member with
    | true => simp [here first, add_assoc]
    | false => simp [add_left_comm]

/-- A part of a sum of weights is the sum of their parts. -/
theorem map_tally {N : Type} [AddCommMonoid N] (part : M →+ N) :
    part (tally weight counts members) = tally (fun member => part (weight member)) counts members := by
  rw [tally, tally, map_list_sum, List.map_map]
  rfl

/-- Weights that are not negative have such a sum. -/
theorem tally_nonneg [PartialOrder M] [IsOrderedAddMonoid M]
    (nonneg : ∀ member ∈ members, 0 ≤ weight member) : 0 ≤ tally weight counts members := by
  apply List.sum_nonneg
  intro value listed
  obtain ⟨member, inside, rfl⟩ := List.mem_map.mp listed
  exact nonneg member (List.mem_of_mem_filter inside)

/-- A member that counts weighs no more than all that do. -/
theorem le_tally [PartialOrder M] [IsOrderedAddMonoid M]
    (nonneg : ∀ member ∈ members, 0 ≤ weight member) {member : α} (listed : member ∈ members)
    (counted : counts member = true) : weight member ≤ tally weight counts members := by
  -- The others do not weigh less than nothing.
  apply List.single_le_sum
  · intro value inside
    obtain ⟨other, held, rfl⟩ := List.mem_map.mp inside
    exact nonneg other (List.mem_of_mem_filter held)
  · exact List.mem_map_of_mem (List.mem_filter.mpr ⟨listed, counted⟩)

/-- Members that are each inside of one bucket weigh as much as all buckets together. -/
theorem sum_tally_of_existsUnique {inside : β → α → Bool} {buckets : List β}
    (distinct : buckets.Nodup)
    (own : ∀ member ∈ members, ∃! bucket, bucket ∈ buckets ∧ inside bucket member = true) :
    (buckets.map fun bucket => tally weight (inside bucket) members).sum =
      (members.map weight).sum := by
  -- The induction is on the members, each of which adds its weight to both sides.
  classical
  induction members with
  | nil => simp
  | cons member members ih =>
    obtain ⟨here, rest⟩ := List.forall_mem_cons.mp own
    obtain ⟨bucket, ⟨listed, holds⟩, unique⟩ := here
    -- The member is weighed in its own bucket, and in no other.
    have once : (buckets.map fun bucket => if inside bucket member then weight member else 0).sum =
        weight member := by
      rw [List.sum_map_eq_nsmul_single bucket, distinct.count, if_pos listed]
      · rw [if_pos holds, one_nsmul]
      · intro other apart found
        refine if_neg fun inside => ?_
        exact apart (unique other ⟨found, inside⟩)
    simp only [tally_cons]
    rw [List.sum_map_add, once, ih rest, List.map_cons, List.sum_cons]

end

end Zradar

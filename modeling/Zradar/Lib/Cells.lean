import Mathlib.Tactic
import Mathlib.Data.List.Sort

/-! Rows grouped into cells of a bucket and a group, and the greatest of some counts. -/

namespace Zradar

variable {α β γ : Type} [DecidableEq β] [DecidableEq γ]

/-- The rows of one group in one bucket. -/
structure Cell (α β γ : Type) where
  bucket : β
  group : γ
  rows : List α

section

variable (bucket : α → β) (group : α → γ) (rows : List α)

/-- One cell for each bucket and group that occur together. -/
def cells : List (Cell α β γ) :=
  (rows.map fun row => (bucket row, group row)).dedup.map fun key =>
    ⟨key.1, key.2, rows.filter fun row => bucket row = key.1 ∧ group row = key.2⟩

/-- The rows of a group, whatever their bucket. -/
def groupRows (name : γ) : List α := rows.filter fun row => group row = name

/-- The rows of a group are all in one bucket. -/
def OneBucket (name : γ) : Prop :=
  ∀ first ∈ rows, ∀ second ∈ rows, group first = name → group second = name →
    bucket first = bucket second

end

section

variable {bucket : α → β} {group : α → γ} {rows : List α}

theorem mem_cells {cell : Cell α β γ} :
    cell ∈ cells bucket group rows ↔
      (∃ row ∈ rows, bucket row = cell.bucket ∧ group row = cell.group) ∧
        cell.rows = rows.filter fun row => bucket row = cell.bucket ∧ group row = cell.group := by
  -- A cell is made for each pair of bucket and group that some row has.
  simp only [cells, List.mem_map, List.mem_dedup]
  constructor
  · rintro ⟨key, ⟨row, listed, rfl⟩, rfl⟩
    exact ⟨⟨row, listed, rfl, rfl⟩, rfl⟩
  · rintro ⟨⟨row, listed, sameBucket, sameGroup⟩, held⟩
    refine ⟨(cell.bucket, cell.group), ⟨row, listed, by rw [sameBucket, sameGroup]⟩, ?_⟩
    rw [← held]

variable (bucket group) in
/-- Every row is in a cell. -/
theorem cell_of_row {row : α} (listed : row ∈ rows) :
    ⟨bucket row, group row, rows.filter fun other => bucket other = bucket row ∧
      group other = group row⟩ ∈ cells bucket group rows :=
  mem_cells.mpr ⟨⟨row, listed, rfl, rfl⟩, rfl⟩

/-- A group has a cell exactly if it has a row. -/
theorem group_mem_cells {name : γ} :
    name ∈ (cells bucket group rows).map Cell.group ↔ ∃ row ∈ rows, group row = name := by
  -- Every row lies in the cell of its own group.
  constructor
  · intro named
    obtain ⟨cell, member, rfl⟩ := List.mem_map.mp named
    obtain ⟨⟨row, listed, _, same⟩, _⟩ := mem_cells.mp member
    exact ⟨row, listed, same⟩
  · rintro ⟨row, listed, rfl⟩
    exact List.mem_map_of_mem (f := Cell.group) (cell_of_row bucket group listed)

/-- No two cells share both bucket and group. -/
theorem cells_nodup :
    ((cells bucket group rows).map fun cell => (cell.bucket, cell.group)).Nodup := by
  rw [cells, List.map_map]
  exact (List.map_id _).symm ▸ List.nodup_dedup _

/-- Cells with one bucket and group are one cell. -/
theorem cell_eq {first second : Cell α β γ} (one : first ∈ cells bucket group rows)
    (two : second ∈ cells bucket group rows) (sameBucket : first.bucket = second.bucket)
    (sameGroup : first.group = second.group) : first = second :=
  List.inj_on_of_nodup_map cells_nodup one two (Prod.ext sameBucket sameGroup)

/-- The cell of a group in one bucket has all its rows. -/
theorem cell_rows_of_oneBucket {cell : Cell α β γ} (member : cell ∈ cells bucket group rows)
    (one : OneBucket bucket group rows cell.group) :
    cell.rows = groupRows group rows cell.group := by
  -- The other rows of the group lie in the same bucket.
  obtain ⟨⟨row, listed, sameBucket, sameGroup⟩, held⟩ := mem_cells.mp member
  rw [held, groupRows]
  refine List.filter_congr fun other inside => ?_
  rw [decide_eq_decide]
  constructor
  · exact And.right
  · intro own
    exact ⟨(one other inside row listed own sameGroup).trans sameBucket, own⟩

/-- The cell of a group in several buckets lacks some of its rows. -/
theorem cell_rows_lt_of_split {cell : Cell α β γ} (member : cell ∈ cells bucket group rows)
    (split : ¬ OneBucket bucket group rows cell.group) :
    cell.rows.length < (groupRows group rows cell.group).length := by
  obtain ⟨_, held⟩ := mem_cells.mp member
  have apart : ∃ row ∈ rows, group row = cell.group ∧ bucket row ≠ cell.bucket := by
    by_contra none
    push Not at none
    exact split fun first one second two own other =>
      (none first one own).trans (none second two other).symm
  obtain ⟨row, listed, own, elsewhere⟩ := apart
  -- The cell is what another filter leaves of the group, and it does not leave this row.
  have narrower : cell.rows =
      (groupRows group rows cell.group).filter fun row => bucket row = cell.bucket := by
    rw [held, groupRows, List.filter_filter]
    exact List.filter_congr fun other _ => by simp
  rw [narrower]
  refine List.length_filter_lt_length_iff_exists.mpr ⟨row, ?_, by simpa using elsewhere⟩
  exact List.mem_filter.mpr ⟨listed, by simpa using own⟩

/-- Rows that were made from items are grouped as the items are. -/
theorem cells_map {δ : Type} (make : δ → α) (items : List δ) :
    cells bucket group (items.map make) =
      (cells (bucket ∘ make) (group ∘ make) items).map fun cell =>
        ⟨cell.bucket, cell.group, cell.rows.map make⟩ := by
  -- The keys of the rows are those of the items.
  unfold cells
  rw [List.map_map, List.map_map]
  refine List.map_congr_left fun key _ => ?_
  simp only [Function.comp_apply, List.filter_map]
  rfl

/-- Other names for the groups leave the cells as they are. -/
theorem cells_rename {δ : Type} [DecidableEq δ] {name : γ → δ} (injective : name.Injective) :
    cells bucket (fun row => name (group row)) rows =
      (cells bucket group rows).map fun cell => ⟨cell.bucket, name cell.group, cell.rows⟩ := by
  -- Distinct groups keep distinct names, so the cells stay apart.
  have keys : (rows.map fun row => (bucket row, name (group row))) =
      (rows.map fun row => (bucket row, group row)).map (Prod.map id name) := by
    rw [List.map_map]
    rfl
  unfold cells
  rw [keys, List.dedup_map_of_injective (Function.injective_id.prodMap injective), List.map_map,
    List.map_map]
  refine List.map_congr_left fun key _ => ?_
  simp [injective.eq_iff]

/-- The groups of some cells have no duplicates exactly if each of them is in one bucket. -/
theorem cells_groups_nodup_iff :
    ((cells bucket group rows).map Cell.group).Nodup ↔
      ∀ name, OneBucket bucket group rows name := by
  constructor
  -- Two buckets of one group would make two cells of that group.
  · intro distinct name first one second two own other
    have same := List.inj_on_of_nodup_map distinct (cell_of_row bucket group one)
      (cell_of_row bucket group two) (own.trans other.symm)
    exact congrArg Cell.bucket same
  -- Two cells of one group share a bucket, so they are the same cell.
  · intro single
    refine (List.nodup_map_iff_inj_on (List.Nodup.of_map _ cells_nodup)).mpr ?_
    intro first one second two same
    obtain ⟨⟨row, listed, sameBucket, sameGroup⟩, _⟩ := mem_cells.mp one
    obtain ⟨⟨other, inside, otherBucket, otherGroup⟩, _⟩ := mem_cells.mp two
    refine cell_eq one two ?_ same
    rw [← sameBucket, ← otherBucket]
    exact single first.group row listed other inside sameGroup (otherGroup.trans same.symm)

end

/-- What is listed in another order was made from items in another order. -/
theorem exists_map_of_perm {δ ε : Type} {make : δ → ε} {items : List δ} {made : List ε}
    (same : made.Perm (items.map make)) :
    ∃ others : List δ, others.Perm items ∧ made = others.map make := by
  induction made generalizing items with
  | nil =>
    have none : items = [] := List.map_eq_nil_iff.mp same.nil_eq.symm
    exact ⟨[], by rw [none], rfl⟩
  | cons first made ih =>
    -- The first of them was made from some item, and the rest from the others.
    obtain ⟨item, listed, rfl⟩ := List.mem_map.mp (same.mem_iff.mp List.mem_cons_self)
    obtain ⟨front, back, rfl⟩ := List.append_of_mem listed
    have rest : made.Perm ((front ++ back).map make) := by
      refine (List.perm_cons (make item)).mp (same.trans ?_)
      rw [List.map_append, List.map_append, List.map_cons]
      exact List.perm_middle
    obtain ⟨others, perm, same⟩ := ih rest
    exact ⟨item :: others, (perm.cons item).trans List.perm_middle.symm, by rw [same]; rfl⟩

section

variable {δ : Type} (count : δ → Nat) {items : List δ}
  (sorted : items.Pairwise fun first second => count second ≤ count first)
include sorted

/-- Less than the length of the front are greater than one of its items. -/
theorem greater_lt_of_mem_take {length : Nat} {item : δ} (front : item ∈ items.take length) :
    (items.filter fun other => count item < count other).length < length := by
  obtain ⟨before, after, split⟩ := List.append_of_mem front
  have whole : items = before ++ item :: (after ++ items.drop length) := by
    rw [← List.cons_append, ← List.append_assoc, ← split, List.take_append_drop]
  -- Nothing behind the item is greater.
  have later : (item :: (after ++ items.drop length)).filter
      (fun other => count item < count other) = [] := by
    rw [whole] at sorted
    have behind := (List.pairwise_cons.mp (List.pairwise_append.mp sorted).2.1).1
    refine List.filter_eq_nil_iff.mpr fun other member => ?_
    rcases List.mem_cons.mp member with rfl | member
    · simp
    · simpa using behind other member
  have short : before.length + 1 ≤ length := by
    have taken := List.length_take_le length items
    rw [split, List.length_append, List.length_cons] at taken
    omega
  have bound := List.length_filter_le (fun other => decide (count item < count other)) before
  rw [whole, List.filter_append, later, List.append_nil]
  omega

/-- No item behind the front is greater than one of its items. -/
theorem le_of_mem_drop {length : Nat} {item other : δ} (front : item ∈ items.take length)
    (behind : other ∈ items.drop length) : count other ≤ count item := by
  rw [← List.take_append_drop length items] at sorted
  exact (List.pairwise_append.mp sorted).2.2 item front other behind

end

section

open Classical

variable (bucket : α → β) (group : α → γ) (rows : List α)

/-- How many rows a group has. -/
def groupTotal (name : γ) : Nat := (groupRows group rows name).length

/-- Some groups are the given number of those with the most rows, each with the number of them. -/
structure TopGroups (length : Nat) (top : List (γ × Nat)) : Prop where
  distinct : (top.map Prod.fst).Nodup
  size : top.length = min length (rows.map group).dedup.length
  occurs : ∀ entry ∈ top, ∃ row ∈ rows, group row = entry.1
  exact : ∀ entry ∈ top, entry.2 = groupTotal group rows entry.1
  highest : ∀ entry ∈ top, ∀ row ∈ rows, group row ∉ top.map Prod.fst →
    groupTotal group rows (group row) ≤ entry.2

/-- The groups in one bucket that have as many rows as another group. -/
noncomputable def outranking (name : γ) : List γ :=
  (rows.map group).dedup.filter fun other =>
    OneBucket bucket group rows other ∧ groupTotal group rows name ≤ groupTotal group rows other

/-- Every group in several buckets is outranked by the given number of groups in one bucket. -/
def SplitOutranked (length : Nat) : Prop :=
  ∀ row ∈ rows, ¬ OneBucket bucket group rows (group row) →
    length ≤ (outranking bucket group rows (group row)).length

/-- The group and the number of rows of a cell. -/
def Cell.counted (cell : Cell α β γ) : γ × Nat := (cell.group, cell.rows.length)

variable {bucket group rows} {ranked : List (Cell α β γ)} {length : Nat}

/-- A group that is outranked often enough has no more rows than any cell at the front. -/
theorem groupTotal_le_of_outranked (same : ranked.Perm (cells bucket group rows))
    (sorted : ranked.Pairwise fun first second => second.rows.length ≤ first.rows.length)
    {cell : Cell α β γ} (front : cell ∈ ranked.take length) {name : γ}
    (outranked : length ≤ (outranking bucket group rows name).length) :
    groupTotal group rows name ≤ cell.rows.length := by
  by_contra more
  have few := greater_lt_of_mem_take (fun cell => cell.rows.length) sorted front
  -- Each group that outranks the name would have a cell that is greater than the one at the front.
  have many : outranking bucket group rows name ⊆
      (ranked.filter fun other => cell.rows.length < other.rows.length).map Cell.group := by
    intro other member
    obtain ⟨listed, ranks⟩ := List.mem_filter.mp member
    obtain ⟨one, above⟩ := of_decide_eq_true ranks
    obtain ⟨row, inside, rfl⟩ := List.mem_map.mp (List.mem_dedup.mp listed)
    have held := cell_of_row bucket group inside
    have total := cell_rows_of_oneBucket held one
    refine List.mem_map.mpr ⟨_, List.mem_filter.mpr ⟨same.mem_iff.mpr held, ?_⟩, rfl⟩
    rw [total]
    unfold groupTotal at above more
    simpa using lt_of_lt_of_le (not_le.mp more) above
  have distinct : (outranking bucket group rows name).Nodup := (List.nodup_dedup _).filter _
  have length := (distinct.subperm many).length_le
  rw [List.length_map] at length
  omega

/-- Up to the given number there are as many cells as groups. -/
theorem cells_length_of_outranked (outranked : SplitOutranked bucket group rows length) :
    min length (cells bucket group rows).length = min length (rows.map group).dedup.length := by
  by_cases all : ∀ name, OneBucket bucket group rows name
  · -- Each group has one cell.
    have distinct := cells_groups_nodup_iff.mpr all
    have perm : ((cells bucket group rows).map Cell.group).Perm (rows.map group).dedup := by
      refine (List.perm_ext_iff_of_nodup distinct (List.nodup_dedup _)).mpr fun name => ?_
      rw [group_mem_cells, List.mem_dedup, List.mem_map]
    rw [← perm.length_eq, List.length_map]
  · -- Some group is outranked, so that there are more cells and more groups than are asked for.
    obtain ⟨row, listed, split⟩ : ∃ row ∈ rows, ¬ OneBucket bucket group rows (group row) := by
      by_contra none
      push Not at none
      refine all fun name first one second two own other => ?_
      exact none first one first one second two rfl (other.trans own.symm)
    have enough := outranked row listed split
    have less : (outranking bucket group rows (group row)).length ≤ (rows.map group).dedup.length :=
      List.length_filter_le _ _
    have inside : outranking bucket group rows (group row) ⊆
        (cells bucket group rows).map Cell.group := by
      intro name member
      obtain ⟨other, there, named⟩ :=
        List.mem_map.mp (List.mem_dedup.mp (List.mem_of_mem_filter member))
      exact group_mem_cells.mpr ⟨other, there, named⟩
    have distinct : (outranking bucket group rows (group row)).Nodup :=
      (List.nodup_dedup _).filter _
    have cells := (distinct.subperm inside).length_le
    rw [List.length_map] at cells
    omega

/--
The front of the cells, ranked by their rows, is the groups with the most rows exactly if every
group in several buckets is outranked.
-/
theorem topGroups_iff (same : ranked.Perm (cells bucket group rows))
    (sorted : ranked.Pairwise fun first second => second.rows.length ≤ first.rows.length) :
    TopGroups group rows length ((ranked.take length).map Cell.counted) ↔
      SplitOutranked bucket group rows length := by
  have groups : ((ranked.take length).map Cell.counted).map Prod.fst =
      (ranked.take length).map Cell.group := by
    rw [List.map_map]
    rfl
  have isCell : ∀ cell ∈ ranked.take length, cell ∈ cells bucket group rows :=
    fun cell front => same.mem_iff.mp (List.mem_of_mem_take front)
  constructor
  · intro top row listed split
    have single : ∀ cell ∈ ranked.take length, OneBucket bucket group rows cell.group := by
      intro cell front
      by_contra several
      have less := cell_rows_lt_of_split (isCell cell front) several
      have exact := top.exact _ (List.mem_map_of_mem front)
      unfold groupTotal at exact
      simp only [Cell.counted] at exact
      omega
    have absent : group row ∉ (ranked.take length).map Cell.group := by
      intro shown
      obtain ⟨cell, front, named⟩ := List.mem_map.mp shown
      exact split (named ▸ single cell front)
    have distinct := top.distinct
    rw [groups] at distinct
    -- The row has a group that is not shown, so the front is as long as was asked for.
    have inside :
        (ranked.take length).map Cell.group ⊆ (rows.map group).dedup.erase (group row) := by
      intro name shown
      obtain ⟨cell, front, rfl⟩ := List.mem_map.mp shown
      obtain ⟨⟨other, member, _, named⟩, _⟩ := mem_cells.mp (isCell cell front)
      have different : cell.group ≠ group row := by
        intro equal
        exact absent (equal ▸ shown)
      refine (List.mem_erase_of_ne different).mpr ?_
      exact List.mem_dedup.mpr (List.mem_map.mpr ⟨other, member, named⟩)
    have fewer := (distinct.subperm inside).length_le
    have own : group row ∈ (rows.map group).dedup :=
      List.mem_dedup.mpr (List.mem_map_of_mem listed)
    have size := top.size
    rw [List.length_erase_of_mem own, List.length_map] at fewer
    rw [List.length_map] at size
    have some : 0 < (rows.map group).dedup.length := List.length_pos_of_mem own
    have full : (ranked.take length).length = length := by omega
    -- Each of the groups that are shown outranks the one that is not.
    have above :
        (ranked.take length).map Cell.group ⊆ outranking bucket group rows (group row) := by
      intro name shown
      obtain ⟨cell, front, rfl⟩ := List.mem_map.mp shown
      have least := top.highest _ (List.mem_map_of_mem front) row listed (groups ▸ absent)
      rw [top.exact _ (List.mem_map_of_mem front)] at least
      refine List.mem_filter.mpr ⟨List.mem_of_mem_erase (inside shown), ?_⟩
      exact decide_eq_true ⟨single cell front, least⟩
    have enough := (distinct.subperm above).length_le
    rw [List.length_map, full] at enough
    exact enough
  · intro outranked
    have single : ∀ cell ∈ ranked.take length, OneBucket bucket group rows cell.group := by
      intro cell front
      by_contra several
      obtain ⟨⟨row, listed, _, named⟩, _⟩ := mem_cells.mp (isCell cell front)
      have least := groupTotal_le_of_outranked same sorted front
        (outranked row listed (named ▸ several))
      have less := cell_rows_lt_of_split (isCell cell front) several
      rw [named] at least
      unfold groupTotal at least
      omega
    refine ⟨?_, ?_, ?_, ?_, ?_⟩
    · rw [groups]
      have nodup : (ranked.take length).Nodup :=
        ((same.nodup_iff.mpr (List.Nodup.of_map _ cells_nodup))).sublist (List.take_sublist _ _)
      refine (List.nodup_map_iff_inj_on nodup).mpr ?_
      intro first one second two equal
      obtain ⟨⟨row, listed, sameBucket, sameGroup⟩, _⟩ := mem_cells.mp (isCell first one)
      obtain ⟨⟨other, inside, otherBucket, otherGroup⟩, _⟩ := mem_cells.mp (isCell second two)
      refine cell_eq (isCell first one) (isCell second two) ?_ equal
      rw [← sameBucket, ← otherBucket]
      exact single first one row listed other inside sameGroup (otherGroup.trans equal.symm)
    · rw [List.length_map, List.length_take, same.length_eq]
      exact cells_length_of_outranked outranked
    · intro entry shown
      obtain ⟨cell, front, rfl⟩ := List.mem_map.mp shown
      obtain ⟨⟨row, listed, _, named⟩, _⟩ := mem_cells.mp (isCell cell front)
      exact ⟨row, listed, named⟩
    · intro entry shown
      obtain ⟨cell, front, rfl⟩ := List.mem_map.mp shown
      exact congrArg List.length (cell_rows_of_oneBucket (isCell cell front) (single cell front))
    · intro entry shown row listed hidden
      obtain ⟨cell, front, rfl⟩ := List.mem_map.mp shown
      by_cases one : OneBucket bucket group rows (group row)
      · -- The only cell of the group is behind the front.
        have held := cell_of_row bucket group listed
        have member := same.mem_iff.mpr held
        rw [← List.take_append_drop length ranked] at member
        rcases List.mem_append.mp member with ahead | behind
        · exact absurd (groups ▸ List.mem_map_of_mem (f := Cell.group) ahead) hidden
        · have less := le_of_mem_drop (fun cell => cell.rows.length) sorted front behind
          rw [groupTotal, ← cell_rows_of_oneBucket held one]
          exact less
      · exact groupTotal_le_of_outranked same sorted front (outranked row listed one)

end

end Zradar

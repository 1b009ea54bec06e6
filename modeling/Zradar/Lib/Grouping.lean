import Mathlib.Data.List.AList
import Mathlib.Tactic

/-! Lists grouped by a key: in the order of the keys, or in the order in which they are first seen. -/

namespace Zradar

variable {κ β γ : Type}

/-- Groups that hold every row once, under its key and in the order of arrival. -/
structure IsGrouping [DecidableEq κ] (key : β → κ) (rows : List β) (groups : List (κ × List β)) :
    Prop where
  /-- Each key has one group. -/
  distinct : (groups.map Prod.fst).Nodup
  /-- A group holds the rows of its key. -/
  group : ∀ entry ∈ groups, entry.2 = rows.filter fun row => key row = entry.1
  nonempty : ∀ entry ∈ groups, entry.2 ≠ []
  /-- Every row has a group. -/
  complete : ∀ row ∈ rows, key row ∈ groups.map Prod.fst

/-- Lists that agree on the rows of every key hold the same rows. -/
theorem perm_of_filter_key_eq [DecidableEq κ] {key : β → κ} {first second : List β}
    (agree : ∀ k, (first.filter fun row => key row = k) = second.filter fun row => key row = k) :
    first.Perm second := by
  classical
  rw [List.perm_iff_count]
  intro row
  -- A row is counted among the rows of its own key.
  have own (rows : List β) : (rows.filter fun other => key other = key row).count row =
      rows.count row := by
    rw [List.count_filter]
    simp
  rw [← own first, ← own second, agree]

/-- Among groups whose rows have the key of the group, one key picks one group. -/
theorem filter_flatten_of_mem [DecidableEq κ] {key : β → κ} {groups : List (κ × List β)}
    (distinct : (groups.map Prod.fst).Nodup)
    (keyed : ∀ entry ∈ groups, ∀ row ∈ entry.2, key row = entry.1) {entry : κ × List β}
    (member : entry ∈ groups) :
    ((groups.flatMap Prod.snd).filter fun row => key row = entry.1) = entry.2 := by
  induction groups with
  | nil => cases member
  | cons first rest ih =>
    obtain ⟨fresh, distinct⟩ := List.nodup_cons.mp distinct
    have later := fun other inside => keyed other (List.mem_cons_of_mem _ inside)
    rw [List.flatMap_cons, List.filter_append]
    rcases List.mem_cons.mp member with rfl | behind
    · -- The wanted group comes first, and no later group has its key.
      have all : (entry.2.filter fun row => key row = entry.1) = entry.2 := by
        rw [List.filter_eq_self]
        intro row held
        exact decide_eq_true (keyed entry List.mem_cons_self row held)
      have none : ((rest.flatMap Prod.snd).filter fun row => key row = entry.1) = [] := by
        rw [List.filter_eq_nil_iff]
        intro row held same
        obtain ⟨other, inside, holds⟩ := List.mem_flatMap.mp held
        rw [← of_decide_eq_true same, later other inside row holds] at fresh
        exact fresh (List.mem_map_of_mem inside)
      rw [all, none, List.append_nil]
    · have none : (first.2.filter fun row => key row = entry.1) = [] := by
        rw [List.filter_eq_nil_iff]
        intro row held same
        rw [← keyed first List.mem_cons_self row held, of_decide_eq_true same] at fresh
        exact fresh (List.mem_map_of_mem behind)
      rw [none, List.nil_append, ih distinct later behind]

namespace IsGrouping

variable [DecidableEq κ] {key : β → κ} {rows : List β} {groups : List (κ × List β)}

theorem nil (key : β → κ) : IsGrouping key [] [] where
  distinct := by simp
  group := by simp
  nonempty := by simp
  complete := by simp

/-- Every row of a group has the key of the group. -/
theorem key_of_mem (grouping : IsGrouping key rows groups) {entry : κ × List β}
    (member : entry ∈ groups) {row : β} (held : row ∈ entry.2) : key row = entry.1 := by
  rw [grouping.group entry member] at held
  exact of_decide_eq_true (List.mem_filter.mp held).2

/-- One more row goes to the end of the group of its key, which may be a new one. -/
theorem snoc (grouping : IsGrouping key rows groups) {row : β} {added : List (κ × List β)}
    (distinct : (added.map Prod.fst).Nodup)
    (others : ∀ entry, entry.1 ≠ key row → (entry ∈ added ↔ entry ∈ groups))
    (own : ∃ old, (key row, old ++ [row]) ∈ added ∧
      ((key row, old) ∈ groups ∨ old = [] ∧ key row ∉ groups.map Prod.fst)) :
    IsGrouping key (rows ++ [row]) added := by
  obtain ⟨old, member, origin⟩ := own
  -- The old group is what the earlier rows contribute to the key.
  have earlier : old = rows.filter fun other => key other = key row := by
    rcases origin with held | ⟨rfl, fresh⟩
    · exact grouping.group _ held
    · symm
      rw [List.filter_eq_nil_iff]
      intro other listed same
      exact fresh (of_decide_eq_true same ▸ grouping.complete other listed)
  have single : ∀ entry ∈ added, entry.1 = key row → entry.2 = old ++ [row] := by
    intro entry held same
    have pair := List.inj_on_of_nodup_map distinct held member same
    rw [pair]
  constructor
  · exact distinct
  · intro entry held
    by_cases same : entry.1 = key row
    · rw [single entry held same, earlier]
      simp [List.filter_append, same]
    · have apart : ¬ key row = entry.1 := fun equal => same equal.symm
      rw [grouping.group entry ((others entry same).mp held)]
      simp [List.filter_append, apart]
  · intro entry held
    by_cases same : entry.1 = key row
    · rw [single entry held same]
      simp
    · exact grouping.nonempty entry ((others entry same).mp held)
  · intro other listed
    by_cases same : key other = key row
    · exact List.mem_map.mpr ⟨_, member, same.symm⟩
    · have before : other ∈ rows := by
        rcases List.mem_append.mp listed with before | last
        · exact before
        · rw [List.mem_singleton.mp last] at same
          exact absurd rfl same
      obtain ⟨entry, held, named⟩ := List.mem_map.mp (grouping.complete other before)
      exact List.mem_map.mpr ⟨entry, (others entry (named ▸ same)).mpr held, named⟩

/-- Taking the rows of one key out of all groups leaves the rows of that key. -/
theorem filter_flatten (grouping : IsGrouping key rows groups) (k : κ) :
    ((groups.flatMap Prod.snd).filter fun row => key row = k) =
      rows.filter fun row => key row = k := by
  by_cases listed : k ∈ groups.map Prod.fst
  · obtain ⟨entry, member, rfl⟩ := List.mem_map.mp listed
    rw [filter_flatten_of_mem grouping.distinct (fun _ => grouping.key_of_mem) member]
    exact grouping.group entry member
  · -- A key without a group has no rows at all.
    have absent (row : β) : key row = k → row ∉ rows := by
      rintro rfl held
      exact listed (grouping.complete row held)
    have none : (rows.filter fun row => key row = k) = [] := by
      rw [List.filter_eq_nil_iff]
      intro row held same
      exact absent row (of_decide_eq_true same) held
    rw [none, List.filter_eq_nil_iff]
    intro row held same
    obtain ⟨entry, member, inside⟩ := List.mem_flatMap.mp held
    rw [grouping.group entry member] at inside
    exact absent row (of_decide_eq_true same) (List.mem_of_mem_filter inside)

/-- The groups together hold exactly the rows. -/
theorem perm_flatten (grouping : IsGrouping key rows groups) :
    (groups.flatMap Prod.snd).Perm rows :=
  perm_of_filter_key_eq grouping.filter_flatten

/-- Grouping the images of rows groups the rows themselves. -/
theorem of_map {item : γ → β} {items : List γ} (grouping : IsGrouping key (items.map item) groups) :
    IsGrouping (fun row => key (item row)) items
      (groups.map fun entry => (entry.1, items.filter fun row => key (item row) = entry.1)) := by
  have keys : (groups.map fun entry =>
      (entry.1, items.filter fun row => key (item row) = entry.1)).map Prod.fst =
        groups.map Prod.fst := by
    rw [List.map_map]
    rfl
  constructor
  · rw [keys]
    exact grouping.distinct
  · intro entry held
    obtain ⟨source, _, rfl⟩ := List.mem_map.mp held
    rfl
  · intro entry held empty
    obtain ⟨source, member, rfl⟩ := List.mem_map.mp held
    -- The images of an empty group would be an empty group.
    have images := grouping.group source member
    rw [List.filter_map] at images
    apply grouping.nonempty source member
    rw [images]
    exact congrArg (List.map item) empty
  · intro row listed
    rw [keys]
    exact grouping.complete _ (List.mem_map_of_mem listed)

end IsGrouping

/-- Add a row to the group of a key, where groups stand in the order of their keys. -/
def addOrdered [LinearOrder κ] (k : κ) (row : β) : List (κ × List β) → List (κ × List β)
  | [] => [(k, [row])]
  | (other, held) :: rest =>
    if k < other then (k, [row]) :: (other, held) :: rest
    else if k = other then (other, held ++ [row]) :: rest
    else (other, held) :: addOrdered k row rest

/-- Group rows by a key, in the order of the keys. -/
def groupOrdered [LinearOrder κ] (key : β → κ) (rows : List β) : List (κ × List β) :=
  rows.foldl (fun groups row => addOrdered (key row) row groups) []

/-- Add a row to the group of a key, where a key that is new goes to the end. -/
def addFirstSeen [DecidableEq κ] (k : κ) (row : β) : List (κ × List β) → List (κ × List β)
  | [] => [(k, [row])]
  | (other, held) :: rest =>
    if k = other then (other, held ++ [row]) :: rest else (other, held) :: addFirstSeen k row rest

/-- Group rows by a key, in the order in which the keys are first seen. -/
def groupFirstSeen [DecidableEq κ] (key : β → κ) (rows : List β) : List (κ × List β) :=
  rows.foldl (fun groups row => addFirstSeen (key row) row groups) []

section

variable [LinearOrder κ] {k : κ} {row : β}

/-- The keys behind an insertion are the keys before it and the one that was inserted. -/
theorem mem_keys_addOrdered {groups : List (κ × List β)} {other : κ} :
    other ∈ (addOrdered k row groups).map Prod.fst ↔ other = k ∨ other ∈ groups.map Prod.fst := by
  -- The induction follows the search for the place of the key.
  fun_induction addOrdered k row groups with
  | case1 => simp
  | case2 first held rest before => simp
  | case3 held rest => simp
  | case4 first held rest behind apart ih =>
    rw [List.map_cons, List.map_cons, List.mem_cons, List.mem_cons, ih]
    exact or_left_comm

theorem sorted_addOrdered {groups : List (κ × List β)}
    (sorted : groups.Pairwise fun one other => one.1 < other.1) :
    (addOrdered k row groups).Pairwise fun one other => one.1 < other.1 := by
  fun_induction addOrdered k row groups with
  | case1 => simp
  | case2 first held rest before =>
    -- The new group is in front of the first one, and so in front of all.
    refine List.pairwise_cons.mpr ⟨?_, sorted⟩
    intro entry member
    rcases List.mem_cons.mp member with rfl | later
    · exact before
    · exact lt_trans before ((List.pairwise_cons.mp sorted).1 entry later)
  | case3 held rest =>
    obtain ⟨ahead, sorted⟩ := List.pairwise_cons.mp sorted
    exact List.pairwise_cons.mpr ⟨ahead, sorted⟩
  | case4 first held rest behind apart ih =>
    obtain ⟨ahead, sorted⟩ := List.pairwise_cons.mp sorted
    refine List.pairwise_cons.mpr ⟨?_, ih sorted⟩
    intro entry member
    -- The keys behind the first one are the old ones and the new one.
    rcases mem_keys_addOrdered.mp (List.mem_map_of_mem member) with same | old
    · rw [same]
      exact lt_of_le_of_ne (not_lt.mp behind) (Ne.symm apart)
    · obtain ⟨listed, held, named⟩ := List.mem_map.mp old
      rw [← named]
      exact ahead listed held

/-- An insertion leaves the groups of all other keys alone. -/
theorem mem_addOrdered_of_ne {groups : List (κ × List β)} {entry : κ × List β}
    (other : entry.1 ≠ k) : entry ∈ addOrdered k row groups ↔ entry ∈ groups := by
  -- Only the group of the row itself is changed.
  have unlike (held : List β) : entry ≠ (k, held) := fun same => other (by rw [same])
  fun_induction addOrdered k row groups with
  | case1 => simp [unlike]
  | case2 first held rest before => simp [unlike]
  | case3 held rest => simp [unlike]
  | case4 first held rest behind apart ih =>
    rw [List.mem_cons, List.mem_cons]
    exact or_congr_right ih

/-- An insertion puts the row behind the group of its key, or into a new group. -/
theorem addOrdered_own {groups : List (κ × List β)}
    (sorted : groups.Pairwise fun one other => one.1 < other.1) :
    ∃ old, (k, old ++ [row]) ∈ addOrdered k row groups ∧
      ((k, old) ∈ groups ∨ old = [] ∧ k ∉ groups.map Prod.fst) := by
  fun_induction addOrdered k row groups with
  | case1 => exact ⟨[], by simp, .inr (by simp)⟩
  | case2 first held rest before =>
    refine ⟨[], by simp, .inr ⟨rfl, ?_⟩⟩
    -- All keys are behind the first one, which is behind the new one.
    intro listed
    obtain ⟨entry, member, named⟩ := List.mem_map.mp listed
    rcases List.mem_cons.mp member with rfl | later
    · exact absurd before (named ▸ lt_irrefl _)
    · have ahead := (List.pairwise_cons.mp sorted).1 entry later
      rw [named] at ahead
      exact absurd before (not_lt.mpr (le_of_lt ahead))
  | case3 held rest => exact ⟨held, by simp, .inl (by simp)⟩
  | case4 first held rest behind apart ih =>
    obtain ⟨old, member, origin⟩ := ih (List.pairwise_cons.mp sorted).2
    refine ⟨old, List.mem_cons_of_mem _ member, ?_⟩
    rcases origin with listed | ⟨empty, fresh⟩
    · exact .inl (List.mem_cons_of_mem _ listed)
    · exact .inr ⟨empty, by simpa [apart] using fresh⟩

/-- Grouping in the order of the keys is a grouping, and its keys are in order. -/
theorem groupOrdered_spec (key : β → κ) (rows : List β) :
    IsGrouping key rows (groupOrdered key rows) ∧
      (groupOrdered key rows).Pairwise fun one other => one.1 < other.1 := by
  -- Rows are added at the end, so the induction takes them off there.
  induction rows using List.reverseRecOn with
  | nil => exact ⟨IsGrouping.nil key, .nil⟩
  | append_singleton rows row ih =>
    obtain ⟨grouping, sorted⟩ := ih
    have step : groupOrdered key (rows ++ [row]) =
        addOrdered (key row) row (groupOrdered key rows) := by
      simp [groupOrdered]
    rw [step]
    have kept : (addOrdered (key row) row (groupOrdered key rows)).Pairwise
        fun one other => one.1 < other.1 := sorted_addOrdered sorted
    refine ⟨grouping.snoc ?_ (fun entry other => mem_addOrdered_of_ne other)
      (addOrdered_own sorted), kept⟩
    exact List.pairwise_map.mpr (kept.imp ne_of_lt)

end

section

variable [DecidableEq κ] {k : κ} {row : β}

theorem mem_keys_addFirstSeen {groups : List (κ × List β)} {other : κ} :
    other ∈ (addFirstSeen k row groups).map Prod.fst ↔
      other = k ∨ other ∈ groups.map Prod.fst := by
  -- The key is found among the groups or added at their end.
  fun_induction addFirstSeen k row groups with
  | case1 => simp
  | case2 held rest => simp
  | case3 first held rest apart ih =>
    rw [List.map_cons, List.map_cons, List.mem_cons, List.mem_cons, ih]
    exact or_left_comm

/-- A row that is added counts for the keys that its own key is among. -/
theorem perm_flatMap_addFirstSeen (chosen : κ → Bool) (groups : List (κ × List β)) :
    (((addFirstSeen k row groups).filter fun entry => chosen entry.1).flatMap Prod.snd).Perm
      ((groups.filter fun entry => chosen entry.1).flatMap Prod.snd ++
        if chosen k then [row] else []) := by
  fun_induction addFirstSeen k row groups with
  | case1 => cases picked : chosen k <;> simp [picked]
  | case2 held rest =>
    cases picked : chosen k
    · simp [picked]
    · -- The row stands behind its group, and in front of those that follow.
      simp only [picked, List.filter_cons_of_pos, List.flatMap_cons, if_true, List.append_assoc]
      exact List.perm_append_comm.append_left _
  | case3 first held rest apart ih =>
    cases picked : chosen first
    · simpa [picked] using ih
    · simp only [picked, List.filter_cons_of_pos, List.flatMap_cons, List.append_assoc]
      exact ih.append_left _

theorem distinct_addFirstSeen {groups : List (κ × List β)}
    (distinct : (groups.map Prod.fst).Nodup) :
    ((addFirstSeen k row groups).map Prod.fst).Nodup := by
  -- A new key is added only when no earlier group has it.
  fun_induction addFirstSeen k row groups with
  | case1 => simp
  | case2 held rest => exact distinct
  | case3 first held rest apart ih =>
    obtain ⟨fresh, distinct⟩ := List.nodup_cons.mp distinct
    refine List.nodup_cons.mpr ⟨?_, ih distinct⟩
    intro listed
    rcases mem_keys_addFirstSeen.mp listed with same | old
    · exact apart same.symm
    · exact fresh old

theorem mem_addFirstSeen_of_ne {groups : List (κ × List β)} {entry : κ × List β}
    (other : entry.1 ≠ k) : entry ∈ addFirstSeen k row groups ↔ entry ∈ groups := by
  -- Only the group of the row itself is changed.
  have unlike (held : List β) : entry ≠ (k, held) := fun same => other (by rw [same])
  fun_induction addFirstSeen k row groups with
  | case1 => simp [unlike]
  | case2 held rest => simp [unlike]
  | case3 first held rest apart ih =>
    rw [List.mem_cons, List.mem_cons]
    exact or_congr_right ih

theorem addFirstSeen_own (groups : List (κ × List β)) :
    ∃ old, (k, old ++ [row]) ∈ addFirstSeen k row groups ∧
      ((k, old) ∈ groups ∨ old = [] ∧ k ∉ groups.map Prod.fst) := by
  -- The row is put behind the earlier rows of its key, of which there may be none.
  fun_induction addFirstSeen k row groups with
  | case1 => exact ⟨[], by simp, .inr (by simp)⟩
  | case2 held rest => exact ⟨held, by simp, .inl (by simp)⟩
  | case3 first held rest apart ih =>
    obtain ⟨old, member, origin⟩ := ih
    refine ⟨old, List.mem_cons_of_mem _ member, ?_⟩
    rcases origin with listed | ⟨empty, fresh⟩
    · exact .inl (List.mem_cons_of_mem _ listed)
    · exact .inr ⟨empty, by simpa [apart] using fresh⟩

/-- Grouping in the order of first sight is a grouping. -/
theorem groupFirstSeen_spec (key : β → κ) (rows : List β) :
    IsGrouping key rows (groupFirstSeen key rows) := by
  -- Rows are added one by one, so the induction takes the last row away.
  induction rows using List.reverseRecOn with
  | nil => exact IsGrouping.nil key
  | append_singleton rows row ih =>
    have step : groupFirstSeen key (rows ++ [row]) =
        addFirstSeen (key row) row (groupFirstSeen key rows) := by
      simp [groupFirstSeen]
    rw [step]
    exact ih.snoc (distinct_addFirstSeen ih.distinct)
      (fun entry other => mem_addFirstSeen_of_ne other) (addFirstSeen_own _)

/-- The keys of a grouping are the keys of the rows, in the order in which they are first seen. -/
theorem groupFirstSeen_keys (key : β → κ) (rows : List β) :
    (groupFirstSeen key rows).map Prod.fst = (rows.map key).eraseDups := by
  -- A row adds its key at the end, unless the key is already there.
  have added (k : κ) (row : β) (groups : List (κ × List β)) :
      (addFirstSeen k row groups).map Prod.fst =
        groups.map Prod.fst ++ if k ∈ groups.map Prod.fst then [] else [k] := by
    fun_induction addFirstSeen k row groups with
    | case1 => simp
    | case2 held rest => simp
    | case3 first held rest apart ih =>
      rw [List.map_cons, ih, List.map_cons, List.cons_append]
      simp only [List.mem_cons, apart, false_or]
  induction rows using List.reverseRecOn with
  | nil => rfl
  | append_singleton rows row ih =>
    have step : groupFirstSeen key (rows ++ [row]) =
        addFirstSeen (key row) row (groupFirstSeen key rows) := by
      simp [groupFirstSeen]
    rw [step, added, ih, List.map_append, List.eraseDups_append]
    congr 1
    by_cases seen : key row ∈ rows.map key
    · rw [if_pos (List.mem_eraseDups.mpr seen)]
      simp only [List.removeAll, List.map_cons, List.map_nil, List.filter_cons]
      simp [seen]
    · rw [if_neg (fun member => seen (List.mem_eraseDups.mp member))]
      simp only [List.removeAll, List.map_cons, List.map_nil, List.filter_cons]
      simp [seen, List.eraseDups_cons]

/-- Rows that share one key form one group. -/
theorem groupFirstSeen_of_const {key : β → κ} {rows : List β} {k : κ} (some : rows ≠ [])
    (shared : ∀ row ∈ rows, key row = k) : groupFirstSeen key rows = [(k, rows)] := by
  -- The first row opens the only group, and the later rows join it.
  induction rows using List.reverseRecOn with
  | nil => exact absurd rfl some
  | append_singleton rows row ih =>
    have last : key row = k := shared row (by simp)
    have before : ∀ other ∈ rows, key other = k :=
      fun other listed => shared other (List.mem_append_left _ listed)
    have step : groupFirstSeen key (rows ++ [row]) =
        addFirstSeen (key row) row (groupFirstSeen key rows) := by
      simp [groupFirstSeen]
    rw [step, last]
    by_cases empty : rows = []
    · subst empty
      rfl
    · rw [ih empty before, addFirstSeen, if_pos rfl]

/-- Add a row to the group at a position. -/
def pushAt (groups : List (κ × List β)) (position : Nat) (row : β) : List (κ × List β) :=
  groups.modify position fun group => (group.1, group.2 ++ [row])

/-- One step of a grouping that keeps the position of each key in a map. -/
def indexStep (key : β → κ) (state : AList (fun _ : κ => Nat) × List (κ × List β)) (row : β) :
    AList (fun _ : κ => Nat) × List (κ × List β) :=
  match state.1.lookup (key row) with
  | some position => (state.1, pushAt state.2 position row)
  | none =>
    -- The group of a new key is opened at the end, and then the row is put into it.
    let groups := state.2 ++ [(key row, [])]
    (state.1.insert (key row) (groups.length - 1), pushAt groups (groups.length - 1) row)

/-- Group rows by a key, with a map from the keys to the positions of their groups. -/
def groupIndexed (key : β → κ) (rows : List β) : List (κ × List β) :=
  (rows.foldl (indexStep key) (∅, [])).2

/-- Where a key is found is where its row goes. -/
theorem addFirstSeen_eq_pushAt (k : κ) (row : β) (groups : List (κ × List β)) :
    addFirstSeen k row groups =
      match groups.findIdx? fun group => group.1 = k with
      | some position => pushAt groups position row
      | none => groups ++ [(k, [row])] := by
  -- The search for the position and the insertion walk along the same groups.
  induction groups with
  | nil => rfl
  | cons group rest ih =>
    obtain ⟨other, held⟩ := group
    rw [addFirstSeen, List.findIdx?_cons]
    by_cases same : k = other
    · subst same
      simp [pushAt]
    · have apart : ¬ other = k := fun equal => same equal.symm
      rw [if_neg same, ih]
      cases found : rest.findIdx? fun group => group.1 = k with
      | none => simp [apart]
      | some position => simp [apart, pushAt, List.modify_succ_cons]

/-- The map knows the position of every key, and of no other. -/
def IndexSound (state : AList (fun _ : κ => Nat) × List (κ × List β)) : Prop :=
  ∀ k, state.1.lookup k = state.2.findIdx? fun group => group.1 = k

/-- Putting a row into a group leaves the keys where they are. -/
theorem pushAt_findIdx? (groups : List (κ × List β)) (position : Nat) (row : β) (k : κ) :
    ((pushAt groups position row).findIdx? fun group => group.1 = k) =
      groups.findIdx? fun group => group.1 = k := by
  -- Adding a row to a group leaves its key as it was.
  induction groups generalizing position with
  | nil => simp [pushAt]
  | cons group rest ih =>
    cases position with
    | zero => simp [pushAt, List.findIdx?_cons]
    | succ position =>
      have later := ih position
      simp only [pushAt] at later
      simp [pushAt, List.findIdx?_cons, List.modify_succ_cons, later]

omit [DecidableEq κ] in
/-- A row that is put into the last group, which was just opened, is alone there. -/
theorem pushAt_last (groups : List (κ × List β)) (k : κ) (row : β) :
    pushAt (groups ++ [(k, [])]) groups.length row = groups ++ [(k, [row])] := by
  unfold pushAt
  induction groups with
  | nil => rfl
  | cons group rest ih => simp [List.modify_succ_cons, ih]

/-- A step with a sound map is the step without one, and the map stays sound. -/
theorem indexStep_sound (key : β → κ) {state : AList (fun _ : κ => Nat) × List (κ × List β)}
    (sound : IndexSound state) (row : β) :
    IndexSound (indexStep key state row) ∧
      (indexStep key state row).2 = addFirstSeen (key row) row state.2 := by
  obtain ⟨index, groups⟩ := state
  have position := sound (key row)
  simp only at position
  rw [addFirstSeen_eq_pushAt, ← position]
  unfold indexStep
  simp only
  cases found : index.lookup (key row) with
  | some place =>
    refine ⟨?_, rfl⟩
    intro k
    rw [pushAt_findIdx?]
    exact sound k
  | none =>
    have last : (groups ++ [(key row, ([] : List β))]).length - 1 = groups.length := by simp
    simp only [last, pushAt_last]
    refine ⟨?_, trivial⟩
    intro k
    have absent : (groups.findIdx? fun group => group.1 = key row) = none := by rw [← position, found]
    -- The new key is found at the end, and every other key where it was.
    rw [List.findIdx?_append]
    by_cases same : k = key row
    · subst same
      simp [absent]
    · have apart : ¬ key row = k := fun equal => same equal.symm
      have known := sound k
      simp only at known
      simp [AList.lookup_insert_ne same, apart, known]

/-- A grouping with a map of positions is the one without. -/
theorem groupIndexed_eq (key : β → κ) (rows : List β) :
    groupIndexed key rows = groupFirstSeen key rows := by
  -- The two loops go side by side, and the map stays sound.
  have beside (rows : List β) : ∀ state : AList (fun _ : κ => Nat) × List (κ × List β),
      IndexSound state → (rows.foldl (indexStep key) state).2 =
        rows.foldl (fun groups row => addFirstSeen (key row) row groups) state.2 := by
    induction rows with
    | nil =>
      intro state _
      rfl
    | cons row rows ih =>
      intro state sound
      obtain ⟨kept, same⟩ := indexStep_sound key sound row
      rw [List.foldl_cons, List.foldl_cons, ih _ kept, same]
  exact beside rows (∅, []) (by intro k; simp)

end

/-- Rows that are grouped together with their keys are grouped by their keys. -/
theorem groupFirstSeen_keyed [DecidableEq κ] (key : β → κ) (rows : List β) :
    IsGrouping key rows
      ((groupFirstSeen Prod.fst (rows.map fun row => (key row, row))).map fun group =>
        (group.1, group.2.map Prod.snd)) := by
  have spec := groupFirstSeen_spec Prod.fst (rows.map fun row => (key row, row))
  -- Taking the rows out of their pairs leaves the rows of the key.
  have same : (groupFirstSeen Prod.fst (rows.map fun row => (key row, row))).map
      (fun group => (group.1, group.2.map Prod.snd)) =
        (groupFirstSeen Prod.fst (rows.map fun row => (key row, row))).map
          fun group => (group.1, rows.filter fun row => key row = group.1) := by
    apply List.map_congr_left
    intro group member
    rw [spec.group group member, List.filter_map, List.map_map]
    simp [Function.comp_def]
  rw [same]
  exact spec.of_map

end Zradar

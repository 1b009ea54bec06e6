import Mathlib.Tactic

/-! Maps as lists of entries with ascending keys, where a later entry replaces an earlier one. -/

namespace Zradar

variable {κ β γ : Type} [LinearOrder κ]

/-- Insert an entry, in place of one that has its key. -/
def insertEntry (key : κ) (value : β) : List (κ × β) → List (κ × β)
  | [] => [(key, value)]
  | entry :: entries =>
    if key < entry.1 then (key, value) :: entry :: entries
    else if key = entry.1 then (key, value) :: entries
    else entry :: insertEntry key value entries

/-- Insert some entries, one after the other. -/
def insertAll (entries : List (κ × β)) (pairs : List (κ × β)) : List (κ × β) :=
  pairs.foldl (fun entries pair => insertEntry pair.1 pair.2 entries) entries

/-- The map of some pairs. -/
def sortedMap (pairs : List (κ × β)) : List (κ × β) := insertAll [] pairs

/-- The keys ascend, and so none of them is there twice. -/
def Ascending (entries : List (κ × β)) : Prop := (entries.map Prod.fst).Pairwise (· < ·)

/-- The value under a key. -/
def valueOf (entries : List (κ × β)) (key : κ) : Option β :=
  (entries.find? fun entry => entry.1 = key).map Prod.snd

/-- The last value under a key. -/
def lastValueOf (pairs : List (κ × β)) (key : κ) : Option β := valueOf pairs.reverse key

theorem valueOf_cons (entry : κ × β) (entries : List (κ × β)) (key : κ) :
    valueOf (entry :: entries) key = if entry.1 = key then some entry.2 else valueOf entries key := by
  unfold valueOf
  by_cases same : entry.1 = key
  · simp [same]
  · simp [same]

theorem valueOf_append (front back : List (κ × β)) (key : κ) :
    valueOf (front ++ back) key = (valueOf front key).or (valueOf back key) := by
  induction front with
  | nil => rfl
  | cons entry front ih =>
    rw [List.cons_append, valueOf_cons, valueOf_cons, ih]
    split <;> rfl

/-- A filter on the keys hides the value or leaves it. -/
theorem valueOf_filter (keep : κ → Bool) (entries : List (κ × β)) (key : κ) :
    valueOf (entries.filter fun entry => keep entry.1) key =
      if keep key then valueOf entries key else none := by
  -- An entry of another key decides nothing, whether it is kept or not.
  induction entries with
  | nil => simp [valueOf]
  | cons entry entries ih =>
    rw [valueOf_cons]
    cases kept : keep entry.1 with
    | true =>
      rw [List.filter_cons_of_pos (by simp [kept]), valueOf_cons, ih]
      split_ifs with here hidden
      · rfl
      · exact absurd (here ▸ kept) hidden
      · rfl
      · rfl
    | false =>
      rw [List.filter_cons_of_neg (by simp [kept]), ih]
      split_ifs with shown here
      · rw [here, shown] at kept
        exact nomatch kept
      · rfl
      · rfl

theorem mem_of_valueOf {entries : List (κ × β)} {key : κ} {value : β}
    (found : valueOf entries key = some value) : (key, value) ∈ entries := by
  obtain ⟨entry, listed, rfl⟩ := Option.map_eq_some_iff.mp found
  have same : entry.1 = key := by simpa using List.find?_some listed
  rw [← same]
  exact List.mem_of_find?_eq_some listed

theorem valueOf_mapEntries (convert : κ → β → γ) (entries : List (κ × β)) (key : κ) :
    valueOf (entries.map fun entry => (entry.1, convert entry.1 entry.2)) key =
      (valueOf entries key).map (convert key) := by
  -- Keys are kept, so the lookup stops at the same entry.
  induction entries with
  | nil => rfl
  | cons entry entries ih =>
    rw [List.map_cons, valueOf_cons, valueOf_cons, ih]
    split_ifs with here
    · rw [← here]
      rfl
    · rfl

theorem lastValueOf_mapEntries (convert : κ → β → γ) (pairs : List (κ × β)) (key : κ) :
    lastValueOf (pairs.map fun pair => (pair.1, convert pair.1 pair.2)) key =
      (lastValueOf pairs key).map (convert key) := by
  rw [lastValueOf, lastValueOf, ← List.map_reverse, valueOf_mapEntries]

section

variable (key : κ) (value : β) {entries : List (κ × β)}

theorem mem_insertEntry {entry : κ × β} (member : entry ∈ insertEntry key value entries) :
    entry = (key, value) ∨ entry ∈ entries := by
  -- The induction follows the walk to the place of the key.
  induction entries with
  | nil => simpa [insertEntry] using member
  | cons first entries ih =>
    unfold insertEntry at member
    split_ifs at member
    · simpa using member
    · rcases List.mem_cons.mp member with same | rest
      · exact .inl same
      · exact .inr (List.mem_cons_of_mem _ rest)
    · rcases List.mem_cons.mp member with rfl | rest
      · exact .inr List.mem_cons_self
      · exact (ih rest).imp_right (List.mem_cons_of_mem _)

theorem ascending_insertEntry (ascending : Ascending entries) :
    Ascending (insertEntry key value entries) := by
  unfold Ascending at ascending ⊢
  induction entries with
  | nil => simp [insertEntry]
  | cons first entries ih =>
    rw [List.map_cons, List.pairwise_cons] at ascending
    obtain ⟨least, rest⟩ := ascending
    unfold insertEntry
    split_ifs with below same
    · -- The key is below the first key, and so below all of them.
      simp only [List.map_cons, List.pairwise_cons]
      refine ⟨?_, least, rest⟩
      intro other member
      rcases List.mem_cons.mp member with rfl | member
      · exact below
      · exact below.trans (least other member)
    · simp only [List.map_cons, List.pairwise_cons]
      exact ⟨same ▸ least, rest⟩
    · simp only [List.map_cons, List.pairwise_cons]
      refine ⟨?_, ih rest⟩
      intro other member
      obtain ⟨entry, inside, rfl⟩ := List.mem_map.mp member
      rcases mem_insertEntry key value inside with rfl | inside
      · exact lt_of_le_of_ne (not_lt.mp below) (Ne.symm same)
      · exact least _ (List.mem_map_of_mem inside)

theorem valueOf_insertEntry (other : κ) :
    valueOf (insertEntry key value entries) other =
      if key = other then some value else valueOf entries other := by
  -- The walk passes smaller keys, and at its end it adds or replaces one entry.
  induction entries with
  | nil => rw [insertEntry, valueOf_cons]
  | cons first entries ih =>
    unfold insertEntry
    by_cases below : key < first.1
    · rw [if_pos below, valueOf_cons]
    · rw [if_neg below]
      by_cases same : key = first.1
      · rw [if_pos same, valueOf_cons, valueOf_cons, ← same]
        split_ifs <;> rfl
      · rw [if_neg same, valueOf_cons, valueOf_cons, ih]
        by_cases here : first.1 = other
        · have elsewhere : key ≠ other := fun equal => same (equal.trans here.symm)
          rw [if_pos here, if_pos here, if_neg elsewhere]
        · rw [if_neg here, if_neg here]

/-- A function on the values of a map can be applied before or after an insertion. -/
theorem map_insertEntry (convert : β → γ) :
    (insertEntry key value entries).map (fun entry => (entry.1, convert entry.2)) =
      insertEntry key (convert value) (entries.map fun entry => (entry.1, convert entry.2)) := by
  -- The place of an entry depends on the keys only.
  induction entries with
  | nil => rfl
  | cons first entries ih =>
    simp only [insertEntry, List.map_cons]
    split_ifs
    · rfl
    · rfl
    · rw [List.map_cons, ih]

end

/-- What is inserted last is found first. -/
theorem valueOf_insertAll (entries pairs : List (κ × β)) (key : κ) :
    valueOf (insertAll entries pairs) key = (lastValueOf pairs key).or (valueOf entries key) := by
  -- A later pair of a key replaces the earlier ones.
  induction pairs generalizing entries with
  | nil => rfl
  | cons pair pairs ih =>
    show valueOf (insertAll (insertEntry pair.1 pair.2 entries) pairs) key = _
    rw [ih, valueOf_insertEntry, lastValueOf, lastValueOf, List.reverse_cons, valueOf_append,
      valueOf_cons]
    cases valueOf pairs.reverse key with
    | some value => rfl
    | none => split_ifs <;> rfl

theorem valueOf_sortedMap (pairs : List (κ × β)) (key : κ) :
    valueOf (sortedMap pairs) key = lastValueOf pairs key := by
  rw [sortedMap, valueOf_insertAll]
  exact Option.or_none

theorem ascending_sortedMap (pairs : List (κ × β)) : Ascending (sortedMap pairs) := by
  -- Every insertion keeps the entries in order.
  have general : ∀ entries : List (κ × β), Ascending entries →
      Ascending (insertAll entries pairs) := by
    induction pairs with
    | nil => exact fun entries ascending => ascending
    | cons pair pairs ih =>
      exact fun entries ascending => ih _ (ascending_insertEntry pair.1 pair.2 ascending)
  exact general [] List.Pairwise.nil

theorem mem_sortedMap {pairs : List (κ × β)} {entry : κ × β} (member : entry ∈ sortedMap pairs) :
    entry ∈ pairs := by
  -- Entries are only ever inserted, starting from none.
  have general : ∀ (pairs entries : List (κ × β)), entry ∈ insertAll entries pairs →
      entry ∈ entries ∨ entry ∈ pairs := by
    intro pairs
    induction pairs with
    | nil => exact fun entries member => .inl member
    | cons pair pairs ih =>
      intro entries member
      rcases ih _ member with inside | later
      · rcases mem_insertEntry pair.1 pair.2 inside with rfl | earlier
        · exact .inr List.mem_cons_self
        · exact .inl earlier
      · exact .inr (List.mem_cons_of_mem _ later)
  exact (general pairs [] member).resolve_left (List.not_mem_nil)

theorem map_sortedMap (convert : β → γ) (pairs : List (κ × β)) :
    (sortedMap pairs).map (fun entry => (entry.1, convert entry.2)) =
      sortedMap (pairs.map fun pair => (pair.1, convert pair.2)) := by
  -- The conversion commutes with each insertion.
  have general : ∀ (pairs entries : List (κ × β)),
      (insertAll entries pairs).map (fun entry => (entry.1, convert entry.2)) =
        insertAll (entries.map fun entry => (entry.1, convert entry.2))
          (pairs.map fun pair => (pair.1, convert pair.2)) := by
    intro pairs
    induction pairs with
    | nil => exact fun entries => rfl
    | cons pair pairs ih =>
      intro entries
      show (insertAll (insertEntry pair.1 pair.2 entries) pairs).map _ = _
      rw [ih, map_insertEntry]
      rfl
  exact general pairs []

section

variable {first second : κ × β} {firsts seconds : List (κ × β)}

/-- A key below the first one is not there. -/
theorem valueOf_eq_none (ascending : Ascending (first :: firsts)) {key : κ} (low : key ≤ first.1) :
    valueOf firsts key = none := by
  -- In an ascending list every later key is above the first one.
  have least := (List.pairwise_cons.mp ascending).1
  cases found : valueOf firsts key with
  | none => rfl
  | some value =>
    have above := least key (List.mem_map_of_mem (f := Prod.fst) (mem_of_valueOf found))
    exact absurd above (not_lt.mpr low)

/-- The first key of a map is not below that of a map with the same values. -/
theorem first_le_of_valueOf (ascending : Ascending (first :: firsts))
    (same : valueOf (first :: firsts) second.1 = some second.2) : first.1 ≤ second.1 := by
  rcases List.mem_cons.mp (mem_of_valueOf same) with equal | later
  · rw [← equal]
  · exact le_of_lt ((List.pairwise_cons.mp ascending).1 _ (List.mem_map_of_mem (f := Prod.fst) later))

/-- Maps with the same values are the same. -/
theorem eq_of_valueOf (ascending : Ascending firsts) (other : Ascending seconds)
    (same : ∀ key, valueOf firsts key = valueOf seconds key) : firsts = seconds := by
  induction firsts generalizing seconds with
  | nil =>
    cases seconds with
    | nil => rfl
    | cons second seconds =>
      have found := same second.1
      rw [valueOf_cons, if_pos rfl] at found
      exact nomatch found
  | cons first firsts ih =>
    cases seconds with
    | nil =>
      have found := same first.1
      rw [valueOf_cons, if_pos rfl] at found
      exact nomatch found
    | cons second seconds =>
      have own : ∀ (entry : κ × β) entries, valueOf (entry :: entries) entry.1 = some entry.2 := by
        intro entry entries
        rw [valueOf_cons, if_pos rfl]
      -- Each of the first keys is not below the other one.
      have keys : first.1 = second.1 := le_antisymm
        (first_le_of_valueOf ascending ((same _).trans (own second seconds)))
        (first_le_of_valueOf other ((same _).symm.trans (own first firsts)))
      have values : first.2 = second.2 := by
        have found := (own first firsts).symm.trans (same first.1)
        rw [keys, own second seconds] at found
        exact Option.some.inj found
      have rest : firsts = seconds := by
        refine ih (List.pairwise_cons.mp ascending).2 (List.pairwise_cons.mp other).2 fun key => ?_
        have found := same key
        rw [valueOf_cons, valueOf_cons, ← keys] at found
        by_cases here : first.1 = key
        · rw [valueOf_eq_none ascending (le_of_eq here.symm),
            valueOf_eq_none other (le_of_eq (here.symm.trans keys))]
        · simpa [here] using found
      rw [rest, Prod.ext keys values]

/-- The map of some pairs is determined by the last value under each key. -/
theorem sortedMap_congr (same : ∀ key, lastValueOf firsts key = lastValueOf seconds key) :
    sortedMap firsts = sortedMap seconds := by
  refine eq_of_valueOf (ascending_sortedMap firsts) (ascending_sortedMap seconds) fun key => ?_
  rw [valueOf_sortedMap, valueOf_sortedMap, same]

end

end Zradar

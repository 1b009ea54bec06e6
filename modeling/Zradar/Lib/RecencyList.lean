import Mathlib.Tactic

/-! Entries in the order of their last use, under keys of which none is there twice. -/

namespace Zradar

/-- Entries under distinct keys, the least recently used one first. -/
structure RecencyList (κ β : Type) where
  entries : List (κ × β)
  distinct : (entries.map Prod.fst).Nodup

namespace RecencyList

variable {κ β : Type}

/-- No entries. -/
def empty : RecencyList κ β := ⟨[], List.nodup_nil⟩

/-- The entries that are left when the least recently used ones are taken away. -/
def rest (list : RecencyList κ β) (entries : List (κ × β)) (suffix : entries <:+ list.entries) :
    RecencyList κ β :=
  ⟨entries, list.distinct.sublist (suffix.sublist.map _)⟩

/-- The sum of the weights of the values. -/
def total (weigh : β → Nat) (list : RecencyList κ β) : Nat :=
  (list.entries.map fun entry => weigh entry.2).sum

variable [DecidableEq κ] (list : RecencyList κ β) (key other : κ) (value : β)

/-- The value under a key. -/
def find? : Option β := (list.entries.find? fun entry => entry.1 = key).map Prod.snd

/-- The entries under other keys. -/
def without : RecencyList κ β where
  entries := list.entries.filter fun entry => entry.1 ≠ key
  distinct := list.distinct.sublist (List.filter_sublist.map _)

/-- Take out the entry of a key. -/
def pop : Option β × RecencyList κ β := (list.find? key, list.without key)

theorem not_mem_without : key ∉ (list.without key).entries.map Prod.fst := by
  intro listed
  -- An entry of the key would not have passed the filter.
  obtain ⟨entry, inside, same⟩ := List.mem_map.mp listed
  have apart := (List.mem_filter.mp inside).2
  simp [same] at apart

/-- Enter a value as the most recently used one, in place of one that has its key. -/
def put : RecencyList κ β where
  entries := (list.without key).entries ++ [(key, value)]
  distinct := by
    rw [List.map_append, List.map_singleton]
    exact (list.without key).distinct.append (List.nodup_singleton key)
      (List.disjoint_singleton.mpr (not_mem_without list key))

/-- Look a value up, and make it the most recently used one. -/
def get : Option β × RecencyList κ β :=
  match list.find? key with
  | some value => (some value, list.put key value)
  | none => (none, list)

variable {list key other value}

theorem find?_eq_some_iff : list.find? key = some value ↔ (key, value) ∈ list.entries := by
  obtain ⟨entries, distinct⟩ := list
  unfold find?
  -- With distinct keys, the entry that is found first is the only one of its key.
  induction entries with
  | nil => simp
  | cons entry entries ih =>
    obtain ⟨fresh, later⟩ := List.nodup_cons.mp distinct
    by_cases here : entry.1 = key
    · subst here
      simp only [decide_true, List.find?_cons_of_pos, Option.map_some, Option.some.injEq,
        List.mem_cons]
      constructor
      · rintro rfl
        exact .inl rfl
      · rintro (same | behind)
        · exact (congrArg Prod.snd same).symm
        · exact absurd (List.mem_map_of_mem (f := Prod.fst) behind) fresh
    · rw [List.find?_cons_of_neg (by simpa using here), List.mem_cons]
      have other : (key, value) ≠ entry := fun same => here (congrArg Prod.fst same).symm
      simpa [other] using ih later

theorem find?_without : (list.without key).find? other =
    if other = key then none else list.find? other := by
  apply Option.ext
  intro found
  rw [find?_eq_some_iff]
  by_cases same : other = key
  · simp [without, same]
  · simp [without, same, find?_eq_some_iff]

theorem find?_put : (list.put key value).find? other =
    if other = key then some value else list.find? other := by
  apply Option.ext
  intro found
  -- The new entry stands behind those of the other keys.
  rw [find?_eq_some_iff]
  by_cases same : other = key
  · simp [put, without, same, eq_comm]
  · simp [put, without, same, find?_eq_some_iff]

/-- Looking values up does not change them. -/
theorem find?_get : (list.get key).2.find? other = list.find? other := by
  -- A look-up only puts the value it found back in front.
  unfold get
  cases found : list.find? key with
  | none => rfl
  | some value =>
    rw [find?_put]
    split
    · rename_i same
      rw [same, found]
    · rfl

/-- What is left behind the least recently used entries was there before. -/
theorem find?_of_rest {entries : List (κ × β)} {suffix : entries <:+ list.entries}
    (found : (list.rest entries suffix).find? key = some value) : list.find? key = some value :=
  find?_eq_some_iff.mpr (suffix.subset (find?_eq_some_iff.mp found))

variable (list key) (weigh : β → Nat)

/-- The weight of all entries is that of the entry of a key and that of the others. -/
theorem total_pop : list.total weigh =
    ((list.find? key).map weigh).getD 0 + (list.without key).total weigh := by
  obtain ⟨entries, distinct⟩ := list
  unfold total find? without
  simp only
  induction entries with
  | nil => rfl
  | cons entry entries ih =>
    obtain ⟨fresh, later⟩ := List.nodup_cons.mp distinct
    by_cases here : entry.1 = key
    · -- No other entry has the key, so the filter takes this one only.
      have others : (entries.filter fun entry => entry.1 ≠ key) = entries := by
        rw [List.filter_eq_self]
        intro other inside
        refine decide_eq_true fun again => fresh ?_
        rw [here, ← again]
        exact List.mem_map_of_mem inside
      rw [List.find?_cons_of_pos (by simpa using here), List.filter_cons_of_neg (by simpa using here),
        others]
      rfl
    · rw [List.find?_cons_of_neg (by simpa using here),
        List.filter_cons_of_pos (by simpa using here), List.map_cons, List.sum_cons, List.map_cons,
        List.sum_cons, ih later]
      omega

theorem total_put :
    (list.put key value).total weigh = (list.without key).total weigh + weigh value := by
  simp [total, put]

theorem total_get : (list.get key).2.total weigh = list.total weigh := by
  unfold get
  cases found : list.find? key with
  | none => rfl
  | some value =>
    -- The entry moves to the end and keeps its weight.
    rw [total_put, total_pop list key weigh, found]
    simp [Nat.add_comm]

end RecencyList

end Zradar

import Zradar.Lib.Paging

/-! Pages of rows in descending order, cut from a table that rows are added to meanwhile. -/

namespace Zradar

variable {α β : Type} [LinearOrder β] (key : α → β)

/-- Rows with the greatest key first. -/
def descending (rows : List α) : List α :=
  rows.insertionSort fun first second => key second ≤ key first

/-- How many rows come in front of a row. -/
def rankOf (rows : List α) (row : α) : Nat := rows.countP fun other => key row < key other

variable {key}

theorem descending_perm (rows : List α) : (descending key rows).Perm rows :=
  List.perm_insertionSort _ _

/-- Distinct keys come in strictly descending order. -/
theorem pairwise_descending {rows : List α} (distinct : (rows.map key).Nodup) :
    (descending key rows).Pairwise fun first second => key second < key first := by
  have total : Std.Total fun first second : α => key second ≤ key first :=
    ⟨fun first second => le_total (key second) (key first)⟩
  have transitive : IsTrans α fun first second => key second ≤ key first :=
    ⟨fun _ _ _ below above => above.trans below⟩
  have sorted : (descending key rows).Pairwise fun first second => key second ≤ key first :=
    List.pairwise_insertionSort _ _
  have apart : (descending key rows).Pairwise fun first second => key first ≠ key second :=
    List.pairwise_map.mp (((descending_perm rows).map key).nodup_iff.mpr distinct)
  exact sorted.imp₂ (fun _ _ below other => lt_of_le_of_ne below other.symm) apart

/-- In strictly descending order, the rank of a row is its position. -/
theorem rankOf_eq_position {sorted : List α}
    (strict : sorted.Pairwise fun first second => key second < key first) {position : Nat}
    {row : α} (located : sorted[position]? = some row) : rankOf key sorted row = position := by
  -- The rows in front of the position are those with a greater key.
  induction sorted generalizing position with
  | nil => simp at located
  | cons first rest further =>
    obtain ⟨greatest, strict⟩ := List.pairwise_cons.mp strict
    cases position with
    | zero =>
      obtain rfl := Option.some.inj located
      have none : rest.countP (fun other => key first < key other) = 0 := by
        rw [List.countP_eq_zero]
        intro other member
        simpa using (greatest other member).le
      simp [rankOf, none]
    | succ position =>
      rw [List.getElem?_cons_succ] at located
      have above := greatest row (List.mem_of_getElem? located)
      have ranked := further strict located
      rw [rankOf] at ranked ⊢
      rw [List.countP_cons_of_pos (by simpa using above), ranked]

/-- A page has the rows whose rank falls into it. -/
theorem mem_page_descending_iff {rows : List α} (distinct : (rows.map key).Nodup)
    {limit offset : Nat} {row : α} :
    row ∈ page limit offset (descending key rows) ↔
      row ∈ rows ∧ offset ≤ rankOf key rows row ∧ rankOf key rows row < offset + limit := by
  have strict := pairwise_descending distinct
  have ranked : rankOf key (descending key rows) row = rankOf key rows row :=
    (descending_perm rows).countP_eq _
  have members : row ∈ descending key rows ↔ row ∈ rows := (descending_perm rows).mem_iff
  rw [page, List.mem_iff_getElem?, ← members]
  constructor
  · rintro ⟨index, located⟩
    rw [List.getElem?_take] at located
    split_ifs at located with inside
    rw [List.getElem?_drop] at located
    have position := rankOf_eq_position strict located
    exact ⟨List.mem_of_getElem? located, by omega, by omega⟩
  · rintro ⟨member, lower, upper⟩
    obtain ⟨position, located⟩ := List.mem_iff_getElem?.mp member
    have here := rankOf_eq_position strict located
    refine ⟨position - offset, ?_⟩
    rw [List.getElem?_take, if_pos (by omega), List.getElem?_drop, ← located]
    congr 1
    omega

/-- A page in front of a row that is there is full. -/
theorem length_page_descending {rows : List α} {limit offset : Nat} {row : α} (there : row ∈ rows)
    (behind : offset + limit ≤ rankOf key rows row) :
    (page limit offset (descending key rows)).length = limit := by
  have fewer : rankOf key rows row < rows.length := by
    -- A row is not in front of itself.
    rw [rankOf, List.countP_eq_length_filter]
    refine List.length_filter_lt_length_iff_exists.mpr ⟨row, there, ?_⟩
    simp
  rw [page, List.length_take, List.length_drop, (descending_perm rows).length_eq]
  omega

/-- No row moves towards the front when others are added. -/
theorem rankOf_le_of_sublist (key : α → β) {rows more : List α} (grown : rows.Sublist more) (row : α) :
    rankOf key rows row ≤ rankOf key more row :=
  grown.countP_le

end Zradar

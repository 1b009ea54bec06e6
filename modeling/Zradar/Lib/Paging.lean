import Mathlib.Tactic
import Mathlib.Data.List.Sort

/-! Pages cut from orderings that agree with a sort key only, each from an ordering of its own. -/

namespace Zradar

variable {α : Type}

/-- Some order of the rows that agrees with the key. -/
structure Arranged (key : α → Int) (rows arranged : List α) : Prop where
  perm : arranged.Perm rows
  sorted : arranged.Pairwise fun first second => key first ≤ key second

/-- A way to order rows by a key, where every execution may break ties in its own way. -/
structure OrderBy (α : Type) (key : α → Int) where
  arrange : (limit offset : Nat) → List α → List α
  arranged : ∀ limit offset rows, Arranged key rows (arrange limit offset rows)

/-- The rows that a limit and an offset leave. -/
def page (limit offset : Nat) (rows : List α) : List α := (rows.drop offset).take limit

/-- A page from the start that is long enough has every row. -/
theorem page_of_whole {limit offset : Nat} {rows : List α} (start : offset = 0)
    (long : rows.length ≤ limit) : page limit offset rows = rows := by
  rw [page, start, List.drop_zero, List.take_of_length_le long]

/-- The first pages of some size, one after the other. -/
def OrderBy.pages {key : α → Int} (order : OrderBy α key) (size count : Nat) (rows : List α) :
    List α :=
  (List.range count).flatMap fun number =>
    page size (number * size) (order.arrange size (number * size) rows)

/-- Sorting gives an order that agrees with the key. -/
theorem arranged_insertionSort (key : α → Int) (rows : List α) :
    Arranged key rows (rows.insertionSort fun first second => key first ≤ key second) := by
  have total : Std.Total fun first second : α => key first ≤ key second :=
    ⟨fun first second => le_total (key first) (key second)⟩
  have transitive : IsTrans α fun first second => key first ≤ key second :=
    ⟨fun _ _ _ => le_trans⟩
  exact ⟨List.perm_insertionSort _ _, List.pairwise_insertionSort _ _⟩

/-- An engine that sorts in the same way every time. -/
def sortedOrder (key : α → Int) : OrderBy α key where
  arrange _ _ rows := rows.insertionSort fun first second => key first ≤ key second
  arranged _ _ rows := arranged_insertionSort key rows

/-- Every choice of orders for the rows is that of some engine. -/
theorem exists_orderBy {key : α → Int} {rows : List α} {chosen : Nat → Nat → List α}
    (arranged : ∀ limit offset, Arranged key rows (chosen limit offset)) :
    ∃ order : OrderBy α key, ∀ limit offset, order.arrange limit offset rows = chosen limit offset := by
  -- The order returns the chosen pages for these rows, and sorts all others.
  classical
  refine ⟨⟨fun limit offset other => if other = rows then chosen limit offset
    else (sortedOrder key).arrange limit offset other, ?_⟩, fun limit offset => if_pos rfl⟩
  intro limit offset other
  by_cases same : other = rows
  · simpa [same] using arranged limit offset
  · simpa [same] using (sortedOrder key).arranged limit offset other

/-- Sorted rows are those below a key, those at it and those above it, in this order. -/
theorem sorted_split {key : α → Int} {rows : List α}
    (sorted : rows.Pairwise fun first second => key first ≤ key second) (value : Int) :
    rows = rows.filter (fun row => key row < value) ++ (rows.filter (fun row => key row = value) ++
      rows.filter fun row => value < key row) := by
  induction rows with
  | nil => rfl
  | cons row rows ih =>
    obtain ⟨least, sorted⟩ := List.pairwise_cons.mp sorted
    have ih := ih sorted
    rcases lt_trichotomy (key row) value with below | same | above
    · simp [below, below.ne, below.not_gt, ← ih]
    · -- No row is below the first one.
      have none : rows.filter (fun row => key row < value) = [] := by
        simp only [List.filter_eq_nil_iff, decide_eq_true_eq]
        intro other member
        have := least other member
        omega
      rw [none, List.nil_append] at ih
      simp [same, none, ← ih]
    · have lower : rows.filter (fun row => key row < value) = [] := by
        simp only [List.filter_eq_nil_iff, decide_eq_true_eq]
        intro other member
        have := least other member
        omega
      have tied : rows.filter (fun row => key row = value) = [] := by
        simp only [List.filter_eq_nil_iff, decide_eq_true_eq]
        intro other member
        have := least other member
        omega
      rw [lower, tied, List.nil_append, List.nil_append] at ih
      simp [above, above.ne', above.not_gt, lower, tied, ← ih]

/-- Where the rows with the key of a row begin in every order. -/
def tiesBegin (key : α → Int) (rows : List α) (row : α) : Nat :=
  rows.countP fun other => key other < key row

/-- Where the rows with the key of a row end in every order. -/
def tiesEnd (key : α → Int) (rows : List α) (row : α) : Nat :=
  tiesBegin key rows row + rows.countP fun other => key other = key row

/-- A row that a filter leaves out does not occur in any part of what it keeps. -/
theorem count_take_filter_eq_zero [DecidableEq α] {keeps : α → Bool} {row : α} (rows : List α)
    (leftOut : keeps row = false) (count : Nat) : ((rows.filter keeps).take count).count row = 0 := by
  refine List.count_eq_zero.mpr fun member => ?_
  have kept := (List.mem_filter.mp (List.mem_of_mem_take member)).2
  rw [leftOut] at kept
  contradiction

/-- In front of a position, a row occurs as often as among the first of those with its key. -/
theorem Arranged.count_take [DecidableEq α] {key : α → Int} {rows arranged : List α}
    (order : Arranged key rows arranged) (row : α) (position : Nat) :
    (arranged.take position).count row =
      ((arranged.filter fun other => key other = key row).take
        (position - tiesBegin key rows row)).count row := by
  have lower : (arranged.filter fun other => key other < key row).length =
      tiesBegin key rows row := by
    rw [← List.countP_eq_length_filter]
    exact order.perm.countP_eq _
  -- The rows below and above have other keys, so the row is not among them.
  have below (count : Nat) :
      ((arranged.filter fun other => key other < key row).take count).count row = 0 :=
    count_take_filter_eq_zero arranged (by simp) count
  have above (count : Nat) :
      ((arranged.filter fun other => key row < key other).take count).count row = 0 :=
    count_take_filter_eq_zero arranged (by simp) count
  conv_lhs => rw [sorted_split order.sorted (key row)]
  rw [List.take_append, List.take_append, List.count_append, List.count_append, below, above, lower,
    Nat.zero_add, Nat.add_zero]

/-- No run of ties is cut at the position, unless its rows are all the same. -/
def CutsNoTie (key : α → Int) (rows : List α) (position : Nat) : Prop :=
  ∀ row ∈ rows, tiesBegin key rows row < position → position < tiesEnd key rows row →
    ∀ other ∈ rows, key other = key row → other = row

/-- Rows without ties can be cut anywhere. -/
theorem cutsNoTie_of_nodup {key : α → Int} {rows : List α} (different : (rows.map key).Nodup)
    {position : Nat} : CutsNoTie key rows position :=
  fun _ here _ _ _ there tied => List.inj_on_of_nodup_map different there here tied

/-- In front of a position that cuts no tie, all orders have the same rows. -/
theorem Arranged.take_perm {key : α → Int} {rows first second : List α}
    (one : Arranged key rows first) (two : Arranged key rows second) {position : Nat}
    (whole : CutsNoTie key rows position) :
    (first.take position).Perm (second.take position) := by
  classical
  rw [List.perm_iff_count]
  intro row
  rw [one.count_take, two.count_take]
  -- The rows with this key are the same ones in both orders.
  have ties : ∀ {arranged : List α}, Arranged key rows arranged →
      (arranged.filter fun other => key other = key row).Perm
        (rows.filter fun other => key other = key row) :=
    fun order => order.perm.filter _
  have length : (rows.filter fun other => key other = key row).length =
      rows.countP fun other => key other = key row := List.countP_eq_length_filter.symm
  by_cases before : position ≤ tiesBegin key rows row
  · rw [Nat.sub_eq_zero_of_le before, List.take_zero, List.take_zero]
  by_cases after : tiesEnd key rows row ≤ position
  · unfold tiesEnd at after
    rw [List.take_of_length_le (by rw [(ties one).length_eq]; omega),
      List.take_of_length_le (by rw [(ties two).length_eq]; omega)]
    exact ((ties one).trans (ties two).symm).count_eq row
  · -- The position cuts the ties, which are then all equal to the row.
    by_cases listed : row ∈ rows
    · have same : ∀ {arranged : List α}, Arranged key rows arranged →
          (arranged.filter fun other => key other = key row) =
            List.replicate (rows.countP fun other => key other = key row) row := by
        intro arranged order
        refine List.eq_replicate_iff.mpr ⟨by rw [(ties order).length_eq, length], ?_⟩
        intro other member
        obtain ⟨inside, tied⟩ := List.mem_filter.mp ((ties order).mem_iff.mp member)
        exact whole row listed (by omega) (by omega) other inside (of_decide_eq_true tied)
      rw [same one, same two]
    · have absent : ∀ {arranged : List α}, Arranged key rows arranged → ∀ count,
          ((arranged.filter fun other => key other = key row).take count).count row = 0 := by
        intro arranged order count
        refine List.count_eq_zero.mpr fun member => listed ?_
        exact order.perm.mem_iff.mp (List.mem_of_mem_filter (List.mem_of_mem_take member))
      rw [absent one, absent two]

/-- All pages of one order are its first rows. -/
theorem pages_of_one (arranged : List α) (size count : Nat) :
    ((List.range count).flatMap fun number => page size (number * size) arranged) =
      arranged.take (count * size) := by
  induction count with
  | zero => simp
  | succ count ih =>
    rw [List.range_succ, List.flatMap_append, ih, Nat.succ_mul, List.take_add]
    simp [page]

/-- A page between two positions that cut no tie has the same rows in all orders. -/
theorem Arranged.page_perm {key : α → Int} {rows first second : List α}
    (one : Arranged key rows first) (two : Arranged key rows second) {size offset : Nat}
    (begins : CutsNoTie key rows offset) (ends : CutsNoTie key rows (offset + size)) :
    (page size offset first).Perm (page size offset second) := by
  have front := one.take_perm two begins
  have both := one.take_perm two ends
  rw [List.take_add, List.take_add] at both
  -- The rows in front of the page cancel.
  exact (List.perm_append_left_iff _).mp ((front.symm.append_right _).trans both)

/-- The rows with one key can be put in any order of their own. -/
theorem Arranged.reorder {key : α → Int} {rows arranged : List α}
    (order : Arranged key rows arranged) {value : Int} {ties : List α}
    (same : ties.Perm (arranged.filter fun row => key row = value)) :
    Arranged key rows (arranged.filter (fun row => key row < value) ++
      (ties ++ arranged.filter fun row => value < key row)) := by
  -- Only rows of the same key change places, so the order by key is kept.
  constructor
  · refine List.Perm.trans ?_ order.perm
    conv_rhs => rw [sorted_split order.sorted value]
    exact (same.append_right _).append_left _
  · have tied : ∀ row ∈ ties, key row = value := by
      intro row member
      exact of_decide_eq_true (List.mem_filter.mp (same.mem_iff.mp member)).2
    have low : ∀ row ∈ arranged.filter (fun row => key row < value), key row < value := by
      intro row member
      exact of_decide_eq_true (List.mem_filter.mp member).2
    have high : ∀ row ∈ arranged.filter (fun row => value < key row), value < key row := by
      intro row member
      exact of_decide_eq_true (List.mem_filter.mp member).2
    refine List.pairwise_append.mpr ⟨order.sorted.filter _, List.pairwise_append.mpr
      ⟨?_, order.sorted.filter _, ?_⟩, ?_⟩
    · refine List.pairwise_of_forall_mem_list fun first one second two => ?_
      rw [tied first one, tied second two]
    · intro first one second two
      rw [tied first one]
      exact (high second two).le
    · intro first one second two
      rcases List.mem_append.mp two with two | two
      · rw [tied second two]
        exact (low first one).le
      · exact ((low first one).trans (high second two)).le

/-- Two different rows with one key can stand on both sides of a cut, in either order. -/
theorem exists_swapped {key : α → Int} {rows : List α} {row other : α} {position : Nat}
    (here : row ∈ rows) (there : other ∈ rows) (tied : key other = key row)
    (different : other ≠ row) (after : tiesBegin key rows row < position)
    (before : position < tiesEnd key rows row) :
    ∃ front back, front.length + 1 = position ∧
      Arranged key rows (front ++ row :: other :: back) ∧
      Arranged key rows (front ++ other :: row :: back) := by
  classical
  obtain ⟨arranged, order⟩ : ∃ arranged, Arranged key rows arranged :=
    ⟨_, arranged_insertionSort key rows⟩
  obtain ⟨ties, isTies⟩ : ∃ ties, ties = arranged.filter fun each => key each = key row := ⟨_, rfl⟩
  have isIn : row ∈ ties := by
    rw [isTies]
    exact List.mem_filter.mpr ⟨order.perm.mem_iff.mpr here, by simp⟩
  have otherIn : other ∈ ties.erase row := by
    refine (List.mem_erase_of_ne different).mpr ?_
    rw [isTies]
    exact List.mem_filter.mpr ⟨order.perm.mem_iff.mpr there, by simp [tied]⟩
  -- What is left of the ties is cut so that the two rows stand at the position.
  obtain ⟨rest, isRest⟩ : ∃ rest, rest = (ties.erase row).erase other := ⟨_, rfl⟩
  have taken : (row :: other :: rest).Perm ties := by
    rw [isRest]
    exact ((List.perm_cons_erase otherIn).symm.cons row).trans (List.perm_cons_erase isIn).symm
  have many : rest.length + 2 = rows.countP fun each => key each = key row := by
    rw [← order.perm.countP_eq, List.countP_eq_length_filter, ← isTies, ← taken.length_eq]
    simp
  have lower : (arranged.filter fun each => key each < key row).length =
      tiesBegin key rows row := by
    rw [← List.countP_eq_length_filter]
    exact order.perm.countP_eq _
  unfold tiesEnd at before
  obtain ⟨cut, isCut⟩ : ∃ cut, cut = position - 1 - tiesBegin key rows row := ⟨_, rfl⟩
  have parts : ∀ {one two : α}, [one, two].Perm [row, other] →
      (rest.take cut ++ one :: two :: rest.drop cut).Perm ties := by
    intro one two pair
    refine List.Perm.trans ?_ taken
    have front : (rest.take cut ++ one :: two :: rest.drop cut).Perm (one :: two :: rest) := by
      refine List.perm_middle.trans (List.Perm.cons one (List.perm_middle.trans ?_))
      rw [List.take_append_drop]
    exact front.trans (pair.append_right rest)
  refine ⟨arranged.filter (fun each => key each < key row) ++ rest.take cut,
    rest.drop cut ++ arranged.filter fun each => key row < key each, ?_, ?_, ?_⟩
  · rw [List.length_append, List.length_take, lower]
    omega
  · have arrange := order.reorder (isTies ▸ parts (List.Perm.refl [row, other]))
    simpa [List.append_assoc] using arrange
  · have arrange := order.reorder (isTies ▸ parts (List.Perm.swap row other []))
    simpa [List.append_assoc] using arrange

/-- The rows with one key end inside of all rows. -/
theorem tiesEnd_le (key : α → Int) (rows : List α) (row : α) :
    tiesEnd key rows row ≤ rows.length := by
  -- A row is counted at most once, either below the key or among its ties.
  unfold tiesEnd tiesBegin
  induction rows with
  | nil => simp
  | cons head rows ih =>
    simp only [List.countP_cons, List.length_cons, decide_eq_true_eq]
    by_cases below : key head < key row
    · simp only [below, below.ne, if_true, if_false]
      omega
    · simp only [below, if_false]
      split <;> omega

/-- Two lists of parts with the same elements that differ in one part agree in that part too. -/
theorem perm_of_flatMap_perm {β : Type} {list : List β} {first second : β → List α}
    (same : (list.flatMap first).Perm (list.flatMap second)) {item : β} (listed : item ∈ list)
    (once : list.Nodup) (agree : ∀ other, other ≠ item → first other = second other) :
    (first item).Perm (second item) := by
  -- What the other items contribute is the same on both sides and can be cancelled.
  obtain ⟨front, back, rfl⟩ := List.append_of_mem listed
  obtain ⟨_, right, apart⟩ := List.nodup_append.mp once
  have fronts : front.flatMap first = front.flatMap second :=
    List.flatMap_congr fun other member =>
      agree other (apart other member item List.mem_cons_self)
  have backs : back.flatMap first = back.flatMap second :=
    List.flatMap_congr fun other member =>
      agree other fun equal => (List.nodup_cons.mp right).1 (equal ▸ member)
  rw [List.flatMap_append, List.flatMap_append, List.flatMap_cons, List.flatMap_cons, fronts, backs,
    List.perm_append_left_iff, List.perm_append_right_iff] at same
  exact same

/-- The page that ends behind a row has that row at its end. -/
theorem page_ends {front back : List α} {row : α} {size offset : Nat}
    (positive : 0 < size) (long : front.length + 1 = offset + size) :
    page size offset (front ++ row :: back) = front.drop offset ++ [row] := by
  -- The row is the last one that the page takes.
  have whole : (front ++ row :: back).take (offset + size) = front ++ [row] := by
    rw [← long, List.take_append, List.take_of_length_le (Nat.le_succ _), Nat.add_sub_cancel_left]
    rfl
  calc page size offset (front ++ row :: back)
      = ((front ++ row :: back).take (offset + size)).drop offset := by
        rw [List.drop_take, Nat.add_sub_cancel_left, page]
    _ = front.drop offset ++ [row] := by
        rw [whole, List.drop_append_of_le_length (by omega)]

/--
The pages of every engine have every row exactly once if and only if they are enough and no page
ends between two different rows with the same key.
-/
theorem pages_cover_iff {key : α → Int} {rows : List α} {size : Nat} (positive : 0 < size)
    (count : Nat) :
    (∀ order : OrderBy α key, (order.pages size count rows).Perm rows) ↔
      rows.length ≤ count * size ∧ ∀ number, CutsNoTie key rows (number * size) := by
  constructor
  · intro covers
    have enough : rows.length ≤ count * size := by
      have whole := (covers (sortedOrder key)).length_eq
      have same := (arranged_insertionSort key rows).perm.length_eq
      simp only [OrderBy.pages, sortedOrder, pages_of_one, List.length_take, same] at whole
      omega
    refine ⟨enough, ?_⟩
    intro number row here after before other there tied
    by_contra different
    obtain ⟨front, back, long, one, two⟩ := exists_swapped here there tied different after before
    -- One engine uses the first order throughout, the other the second one for the page before.
    obtain ⟨plain, usesPlain⟩ := exists_orderBy fun _ _ => one
    have either : ∀ _limit offset : Nat, Arranged key rows
        (if offset + size = number * size then front ++ other :: row :: back
          else front ++ row :: other :: back) := by
      intro _ offset
      split
      · exact two
      · exact one
    obtain ⟨mixed, usesMixed⟩ := exists_orderBy either
    have short : tiesEnd key rows row ≤ rows.length := tiesEnd_le key rows row
    obtain ⟨prior, rfl⟩ : ∃ prior, number = prior + 1 := by
      refine ⟨number - 1, ?_⟩
      cases number with
      | zero => omega
      | succ number => omega
    rw [Nat.succ_mul] at long before usesMixed
    have listed : prior ∈ List.range count := by
      refine List.mem_range.mpr (lt_of_mul_lt_mul_right ?_ (Nat.zero_le size))
      omega
    have ends := perm_of_flatMap_perm ((covers plain).trans (covers mixed).symm) listed
      List.nodup_range fun each other => by
        have moved : ¬ each * size + size = prior * size + size := by
          simpa [positive.ne'] using other
        simp only [usesPlain, usesMixed, if_neg moved]
    simp only [usesPlain, usesMixed, if_true] at ends
    -- The two pages have the same rows but for the last one.
    rw [page_ends positive long, page_ends positive long, List.perm_append_left_iff, List.singleton_perm,
      List.cons.injEq] at ends
    exact different ends.1.symm
  · rintro ⟨enough, whole⟩ order
    have first := order.arranged size 0 rows
    have same : (order.pages size count rows).Perm
        ((List.range count).flatMap fun number =>
          page size (number * size) (order.arrange size 0 rows)) := by
      refine List.Perm.flatMap_left _ fun number _ => ?_
      refine (order.arranged size (number * size) rows).page_perm first (whole number) ?_
      rw [← Nat.succ_mul]
      exact whole (number + 1)
    rw [pages_of_one, List.take_of_length_le (by rw [first.perm.length_eq]; exact enough)] at same
    exact same.trans first.perm

end Zradar

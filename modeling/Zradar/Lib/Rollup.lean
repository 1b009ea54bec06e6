import Mathlib.Data.Fintype.Basic
import Zradar.Lib.FixedWidth
import Zradar.Lib.Grouping
import Zradar.Lib.Saturating

/-! Amounts that are summed by key, one batch at a time, and added to the rows of a table. -/

namespace Zradar.Rollup

variable {η κ γ ι ε : Type}

/-- Change the value of a key, which starts with a given value where the key is new. -/
def changeEntry {α : Type} [DecidableEq κ] (k : κ) (fresh : α) (change : α → α) :
    List (κ × α) → List (κ × α)
  | [] => [(k, change fresh)]
  | (other, held) :: rest =>
    if k = other then (other, change held) :: rest
    else (other, held) :: changeEntry k fresh change rest

/-- What is to be summed under a key: an amount for each column, at some time. -/
structure Booking (η κ ι : Type) where
  hashKey : η
  identity : κ
  amounts : ι → Int64
  bookedAt : Int64

/-- The sums of a batch under one key, with what the key is stored as. -/
structure Aggregate (κ ι : Type) where
  identity : κ
  counts : ι → Int64
  updatedAt : Int64

namespace Aggregate

/-- The entry of a new key. -/
def fresh (booking : Booking η κ ι) : Aggregate κ ι :=
  ⟨booking.identity, fun _ => 0, booking.bookedAt⟩

def add (aggregate : Aggregate κ ι) (booking : Booking η κ ι) : Aggregate κ ι :=
  { aggregate with
    counts := fun column => Saturating.add (aggregate.counts column) (booking.amounts column)
    updatedAt := max aggregate.updatedAt booking.bookedAt }

end Aggregate

/-- The sums of a batch by key, in the order in which the keys are first seen. -/
def aggregate [DecidableEq η] (bookings : List (Booking η κ ι)) : List (η × Aggregate κ ι) :=
  bookings.foldl (fun entries booking =>
    changeEntry booking.hashKey (.fresh booking) (fun held => held.add booking) entries) []

/-- What the columns of a table can hold: zero, and no gaps. -/
structure Schema (ι : Type) where
  holds : ι → Int → Bool
  zero : ∀ column, holds column 0 = true
  between : ∀ column low mid high, low ≤ mid → mid ≤ high →
    holds column low = true → holds column high = true → holds column mid = true

/-- The sums under one key, with what else is stored there. -/
@[ext] structure Totals (ι ε : Type) where
  counts : ι → Int
  updatedAt : Int64
  extra : ε

/-- A row of a table, whose columns hold its sums. -/
structure TableRow (schema : Schema ι) (ε : Type) extends Totals ι ε where
  stored : ∀ column, schema.holds column (counts column) = true

/-- The rows of a table by key. -/
abbrev Table (γ : Type) (schema : Schema ι) (ε : Type) := γ → Option (TableRow schema ε)

/-- The sums that a table has under a key. -/
def sums {schema : Schema ι} (table : Table γ schema ε) (key : γ) : Option (Totals ι ε) :=
  (table key).map TableRow.toTotals

/-- The sums under a key with those of a batch added. -/
def Totals.plus (extra : ε) (old : Option (Totals ι ε)) (aggregate : Aggregate κ ι) : Totals ι ε :=
  match old with
  | none => ⟨fun column => (aggregate.counts column).toInt, aggregate.updatedAt, extra⟩
  | some totals =>
    ⟨fun column => totals.counts column + (aggregate.counts column).toInt,
      max totals.updatedAt aggregate.updatedAt, totals.extra⟩

/-- A list in any order. -/
structure Reordered {α : Type} (items : List α) where
  values : List α
  perm : values.Perm items

section

variable {schema : Schema ι} [Fintype ι] [DecidableEq γ]

/--
Insert a row, or add to the one that is there. The columns have to hold both what is proposed for
insertion and the sums.
-/
def upsertRow (extra : ε) (table : Table γ schema ε) (key : γ) (aggregate : Aggregate κ ι) :
    Option (Table γ schema ε) :=
  let totals := Totals.plus extra (sums table key) aggregate
  if ∀ column, schema.holds column (aggregate.counts column).toInt = true then
    if stored : ∀ column, schema.holds column (totals.counts column) = true then
      some (Function.update table key (some { totals with stored := stored }))
    else none
  else none

/-- Upsert some rows, none of them twice. -/
def upsertRows (extra : ε) (conflictKey : κ → Option γ) (table : Table γ schema ε)
    (aggregates : List (Aggregate κ ι)) : Option (Table γ schema ε) := do
  let located ← aggregates.mapM fun aggregate =>
    (conflictKey aggregate.identity).map fun key => (key, aggregate)
  if (located.map Prod.fst).Nodup then
    located.foldlM (fun table entry => upsertRow extra table entry.1 entry.2) table
  else none

end

/-- The sums under a key with one booking added. -/
def book (extra : ε) (old : Option (Totals ι ε)) (booking : Booking η κ ι) : Option (Totals ι ε) :=
  match old with
  | none => some ⟨fun column => (booking.amounts column).toInt, booking.bookedAt, extra⟩
  | some totals =>
    some ⟨fun column => totals.counts column + (booking.amounts column).toInt,
      max totals.updatedAt booking.bookedAt, totals.extra⟩

/-- The sums under a key with some bookings added, one after another. -/
def bookAll (extra : ε) (old : Option (Totals ι ε)) (bookings : List (Booking η κ ι)) :
    Option (Totals ι ε) :=
  bookings.foldl (book extra) old

/-- The sum of a column over some bookings. -/
def sumOf (bookings : List (Booking η κ ι)) (column : ι) : Int :=
  (bookings.map fun booking => (booking.amounts column).toInt).sum

/-- The sum that stands in a column. -/
def countOf (old : Option (Totals ι ε)) (column : ι) : Int :=
  old.elim 0 fun totals => totals.counts column

@[simp] theorem sumOf_nil (column : ι) : sumOf ([] : List (Booking η κ ι)) column = 0 := rfl

@[simp] theorem sumOf_append (first second : List (Booking η κ ι)) (column : ι) :
    sumOf (first ++ second) column = sumOf first column + sumOf second column := by
  simp [sumOf]

theorem sumOf_nonneg {bookings : List (Booking η κ ι)} {column : ι}
    (positive : ∀ booking ∈ bookings, 0 ≤ (booking.amounts column).toInt) :
    0 ≤ sumOf bookings column := by
  apply List.sum_nonneg
  rintro amount listed
  obtain ⟨booking, member, rfl⟩ := List.mem_map.mp listed
  exact positive booking member

theorem bookAll_append (extra : ε) (old : Option (Totals ι ε))
    (first second : List (Booking η κ ι)) :
    bookAll extra old (first ++ second) = bookAll extra (bookAll extra old first) second :=
  List.foldl_append

theorem bookAll_singleton (extra : ε) (old : Option (Totals ι ε)) (booking : Booking η κ ι) :
    bookAll extra old [booking] = book extra old booking := rfl

/-- A column grows by the amounts that are booked. -/
theorem countOf_bookAll (extra : ε) (old : Option (Totals ι ε)) (bookings : List (Booking η κ ι))
    (column : ι) :
    countOf (bookAll extra old bookings) column = countOf old column + sumOf bookings column := by
  induction bookings using List.reverseRecOn with
  | nil => simp [bookAll]
  | append_singleton bookings booking ih =>
    rw [bookAll_append, sumOf_append, ← add_assoc, ← ih, bookAll_singleton]
    cases bookAll extra old bookings <;> simp [book, countOf, sumOf]

/-- The order in which bookings are made does not matter. -/
theorem bookAll_perm (extra : ε) (old : Option (Totals ι ε))
    {first second : List (Booking η κ ι)} (perm : first.Perm second) :
    bookAll extra old first = bookAll extra old second := by
  refine perm.foldl_eq' (fun one _ other _ held => ?_) old
  -- Two bookings in a row give the same sums and the same greatest time in either order.
  cases held with
  | none =>
    simp only [book, Option.some.injEq, Totals.mk.injEq, and_true]
    refine ⟨funext fun column => add_comm _ _, ?_⟩
    rw [← Int64.toInt_inj, FixedWidth.toInt_max, FixedWidth.toInt_max, max_comm]
  | some totals =>
    simp only [book, Option.some.injEq, Totals.mk.injEq, and_true]
    refine ⟨funext fun column => add_right_comm _ _ _, ?_⟩
    simp only [← Int64.toInt_inj, FixedWidth.toInt_max]
    exact max_right_comm _ _ _

/-- What is booked on a row is booked on nothing, and then added to the row. -/
theorem bookAll_some (extra : ε) (totals : Totals ι ε) (bookings : List (Booking η κ ι)) :
    bookAll extra (some totals) bookings =
      some ((bookAll extra none bookings).elim totals fun sums =>
        ⟨fun column => totals.counts column + sums.counts column,
          max totals.updatedAt sums.updatedAt, totals.extra⟩) := by
  -- One more booking at the end is added on both sides.
  induction bookings using List.reverseRecOn with
  | nil => rfl
  | append_singleton bookings booking ih =>
    rw [bookAll_append, bookAll_append, ih, bookAll_singleton, bookAll_singleton]
    cases bookAll extra none bookings with
    | none => rfl
    | some sums =>
      simp only [book, Option.elim_some, Option.some.injEq, Totals.mk.injEq, and_true]
      refine ⟨funext fun column => add_assoc _ _ _, ?_⟩
      simp only [← Int64.toInt_inj, FixedWidth.toInt_max]
      exact max_assoc _ _ _

/-- The sums of a batch under one key. -/
def gather (bookings : List (Booking η κ ι)) : Option (Aggregate κ ι) :=
  bookings.foldl (fun held booking => some ((held.getD (.fresh booking)).add booking)) none

theorem gather_concat (bookings : List (Booking η κ ι)) (booking : Booking η κ ι) :
    gather (bookings ++ [booking]) =
      some (((gather bookings).getD (.fresh booking)).add booking) := by
  simp [gather]

theorem eq_nil_of_gather {bookings : List (Booking η κ ι)} (absent : gather bookings = none) :
    bookings = [] := by
  -- A last booking would have been gathered.
  induction bookings using List.reverseRecOn with
  | nil => rfl
  | append_singleton =>
    rw [gather_concat] at absent
    exact nomatch absent

/-- The sums of a batch are exact as long as none of them reaches the upper end. -/
theorem gather_totals (extra : ε) {bookings : List (Booking η κ ι)} {sums : Aggregate κ ι}
    (positive : ∀ booking ∈ bookings, ∀ column, 0 ≤ (booking.amounts column).toInt)
    (below : ∀ column, sumOf bookings column < 2 ^ 63) (gathered : gather bookings = some sums) :
    bookAll extra none bookings = some (Totals.plus extra none sums) := by
  -- A partial sum is not above the whole one, so no addition is cut off.
  induction bookings using List.reverseRecOn generalizing sums with
  | nil => exact nomatch gathered
  | append_singleton bookings booking ih =>
    have earlier := fun other member => positive other (List.mem_append_left _ member)
    have last := positive booking (by simp)
    have whole (column : ι) :
        sumOf bookings column + (booking.amounts column).toInt < 2 ^ 63 := by
      have both := below column
      rw [sumOf_append] at both
      simpa [sumOf] using both
    have nonneg (column : ι) : 0 ≤ sumOf bookings column :=
      sumOf_nonneg fun other member => earlier other member column
    rw [gather_concat, Option.some.injEq] at gathered
    subst gathered
    rw [bookAll_append, bookAll_singleton]
    cases held : gather bookings with
    | none =>
      -- The booking is the first one, and is added to an entry of zeros.
      have empty := eq_nil_of_gather held
      subst empty
      simp only [bookAll, List.foldl_nil, book, Totals.plus, Option.getD_none, Aggregate.add,
        Aggregate.fresh, Option.some.injEq, Totals.mk.injEq, and_true]
      refine ⟨funext fun column => ?_, ?_⟩
      · have zero : (0 : Int64).toInt = 0 := rfl
        have positive := last column
        have below := Int64.toInt_lt (booking.amounts column)
        rw [Saturating.add_toInt_of_lt] <;> omega
      · rw [← Int64.toInt_inj, FixedWidth.toInt_max, max_self]
    | some before =>
      -- The sums so far are exact by induction, and the next ones stay in range.
      have sums := ih earlier
        (fun column => lt_of_le_of_lt (le_add_of_nonneg_right (last column)) (whole column)) held
      have counts (column : ι) : (before.counts column).toInt = sumOf bookings column := by
        have count := countOf_bookAll extra none bookings column
        rw [sums] at count
        simpa [countOf, Totals.plus] using count
      rw [sums]
      simp only [book, Totals.plus, Option.getD_some, Aggregate.add, Option.some.injEq,
        Totals.mk.injEq, and_true]
      refine funext fun column => ?_
      rw [Saturating.add_toInt_of_lt]
      · rw [counts]
        exact add_nonneg (nonneg column) (last column)
      · rw [counts]
        exact whole column

/-- Adding the sums of a batch to a row books the batch on it. -/
theorem bookAll_eq_plus (extra : ε) (old : Option (Totals ι ε)) {bookings : List (Booking η κ ι)}
    {sums : Aggregate κ ι}
    (positive : ∀ booking ∈ bookings, ∀ column, 0 ≤ (booking.amounts column).toInt)
    (below : ∀ column, sumOf bookings column < 2 ^ 63) (gathered : gather bookings = some sums) :
    bookAll extra old bookings = some (Totals.plus extra old sums) := by
  have exact_sums := gather_totals extra positive below gathered
  -- A new row is the sums themselves, and an old one is added to.
  cases old with
  | none => exact exact_sums
  | some totals =>
    rw [bookAll_some, exact_sums]
    rfl

/-- The identity of sums is that of a booking that they are made of. -/
theorem gather_identity {bookings : List (Booking η κ ι)} {sums : Aggregate κ ι}
    (gathered : gather bookings = some sums) :
    ∃ booking ∈ bookings, sums.identity = booking.identity := by
  -- An entry keeps the identity that its first booking gave it.
  induction bookings using List.reverseRecOn generalizing sums with
  | nil => exact nomatch gathered
  | append_singleton bookings booking ih =>
    rw [gather_concat, Option.some.injEq] at gathered
    subst gathered
    cases held : gather bookings with
    | none => exact ⟨booking, by simp, rfl⟩
    | some before =>
      obtain ⟨first, member, same⟩ := ih held
      exact ⟨first, List.mem_append_left _ member, same⟩

section

variable [DecidableEq η]

/-- An entry is changed as the group of its key grows. -/
theorem changeEntry_groups (booking : Booking η κ ι) {entries : List (η × Aggregate κ ι)}
    {groups : List (η × List (Booking η κ ι))}
    (agree : entries.map (fun entry => (entry.1, some entry.2)) =
      groups.map fun group => (group.1, gather group.2)) :
    (changeEntry booking.hashKey (.fresh booking) (fun held => held.add booking) entries).map
        (fun entry => (entry.1, some entry.2)) =
      (addFirstSeen booking.hashKey booking groups).map fun group => (group.1, gather group.2) := by
  -- Both walk along the same keys until they find the one of the booking.
  induction groups generalizing entries with
  | nil =>
    rw [List.map_nil, List.map_eq_nil_iff] at agree
    subst agree
    rfl
  | cons group groups ih =>
    cases entries with
    | nil => exact nomatch agree
    | cons entry entries =>
      simp only [List.map_cons, List.cons.injEq, Prod.mk.injEq] at agree
      obtain ⟨⟨key, sums⟩, agree⟩ := agree
      obtain ⟨name, held⟩ := entry
      obtain ⟨name', members⟩ := group
      subst key
      by_cases same : booking.hashKey = name
      · simp only [changeEntry, addFirstSeen, if_pos same, List.map_cons, gather_concat, ← sums,
          agree, Option.getD_some]
      · simp only [changeEntry, addFirstSeen, if_neg same, List.map_cons, ih agree, sums]

/-- The sums of a batch are those of its groups. -/
theorem aggregate_groups (bookings : List (Booking η κ ι)) :
    (aggregate bookings).map (fun entry => (entry.1, some entry.2)) =
      (groupFirstSeen Booking.hashKey bookings).map fun group => (group.1, gather group.2) := by
  -- Both sides fold the bookings from the front, so the last one is what changes them.
  induction bookings using List.reverseRecOn with
  | nil => rfl
  | append_singleton bookings booking ih =>
    have step : aggregate (bookings ++ [booking]) = changeEntry booking.hashKey (.fresh booking)
        (fun held => held.add booking) (aggregate bookings) := by
      simp [aggregate]
    have grown : groupFirstSeen Booking.hashKey (bookings ++ [booking]) =
        addFirstSeen booking.hashKey booking (groupFirstSeen Booking.hashKey bookings) := by
      simp [groupFirstSeen]
    rw [step, grown]
    exact changeEntry_groups booking ih

variable (bookings : List (Booking η κ ι))

theorem aggregate_keys :
    (aggregate bookings).map Prod.fst = (groupFirstSeen Booking.hashKey bookings).map Prod.fst := by
  have keys := congrArg (List.map Prod.fst) (aggregate_groups bookings)
  simpa [Function.comp_def] using keys

/-- Each key has one entry. -/
theorem aggregate_distinct : ((aggregate bookings).map Prod.fst).Nodup := by
  rw [aggregate_keys]
  exact (groupFirstSeen_spec Booking.hashKey bookings).distinct

/-- Every booking has an entry. -/
theorem aggregate_complete {booking : Booking η κ ι} (member : booking ∈ bookings) :
    ∃ sums, (booking.hashKey, sums) ∈ aggregate bookings := by
  have key : booking.hashKey ∈ (aggregate bookings).map Prod.fst := by
    rw [aggregate_keys]
    exact (groupFirstSeen_spec Booking.hashKey bookings).complete booking member
  obtain ⟨⟨_, sums⟩, listed, rfl⟩ := List.mem_map.mp key
  exact ⟨sums, listed⟩

/-- An entry has the sums of the bookings of its key. -/
theorem gather_of_mem {entry : η × Aggregate κ ι} (listed : entry ∈ aggregate bookings) :
    gather (bookings.filter fun booking => booking.hashKey = entry.1) = some entry.2 := by
  have pair : (entry.1, some entry.2) ∈ (groupFirstSeen Booking.hashKey bookings).map
      fun group => (group.1, gather group.2) := by
    rw [← aggregate_groups]
    exact List.mem_map_of_mem listed
  obtain ⟨group, member, same⟩ := List.mem_map.mp pair
  obtain ⟨key, sums⟩ := Prod.mk.inj same
  rw [← sums, (groupFirstSeen_spec Booking.hashKey bookings).group group member, key]

end

/-- Each booking goes to a place of the table, and bookings of one key go to one place. -/
structure Placed (conflictKey : κ → Option γ) (place : Booking η κ ι → γ)
    (bookings : List (Booking η κ ι)) : Prop where
  located : ∀ booking ∈ bookings, conflictKey booking.identity = some (place booking)
  keyed : ∀ booking ∈ bookings, ∀ other ∈ bookings,
    booking.hashKey = other.hashKey ↔ place booking = place other

section

variable [DecidableEq η] {conflictKey : κ → Option γ} {place : Booking η κ ι → γ}
  {bookings : List (Booking η κ ι)}

/-- The entry of a place stands for the bookings of the place. -/
theorem Placed.entry (placed : Placed conflictKey place bookings) {entry : η × Aggregate κ ι}
    (listed : entry ∈ aggregate bookings) :
    ∃ booking ∈ bookings, booking.hashKey = entry.1 ∧
      conflictKey entry.2.identity = some (place booking) := by
  obtain ⟨booking, held, identity⟩ := gather_identity (gather_of_mem bookings listed)
  obtain ⟨member, key⟩ := List.mem_filter.mp held
  refine ⟨booking, member, of_decide_eq_true key, ?_⟩
  rw [identity, placed.located booking member]

/-- The bookings behind an entry are those of its place. -/
theorem Placed.group [DecidableEq γ] (placed : Placed conflictKey place bookings)
    {entry : η × Aggregate κ ι} (listed : entry ∈ aggregate bookings) {key : γ}
    (located : conflictKey entry.2.identity = some key) :
    (bookings.filter fun booking => booking.hashKey = entry.1) =
      bookings.filter fun booking => place booking = key := by
  obtain ⟨booking, inside, same, found⟩ := placed.entry listed
  -- One booking is behind the entry and at its place, and the others follow it.
  have here : place booking = key := Option.some.inj (found.symm.trans located)
  refine List.filter_congr fun other member => ?_
  rw [← here, ← same, decide_eq_decide]
  exact placed.keyed other member booking inside

/-- Every booking has an entry at its place. -/
theorem Placed.exists_entry (placed : Placed conflictKey place bookings)
    {booking : Booking η κ ι} (member : booking ∈ bookings) :
    ∃ entry ∈ aggregate bookings, conflictKey entry.2.identity = some (place booking) := by
  obtain ⟨sums, listed⟩ := aggregate_complete bookings member
  obtain ⟨other, inside, same, found⟩ := placed.entry listed
  refine ⟨_, listed, ?_⟩
  rw [found, (placed.keyed other inside booking member).mp same]

/-- No two entries of a batch have one key in the table. -/
theorem Placed.distinct (placed : Placed conflictKey place bookings) :
    ((aggregate bookings).map fun entry => conflictKey entry.2.identity).Nodup := by
  have distinct := aggregate_distinct bookings
  refine (List.Nodup.of_map _ distinct).map_on ?_
  intro one member other member' same
  obtain ⟨booking, inside, key, located⟩ := placed.entry member
  obtain ⟨booking', inside', key', located'⟩ := placed.entry member'
  -- One place has one key of the map, and that has one entry.
  rw [located, located', Option.some.injEq] at same
  have keys : one.1 = other.1 := by
    rw [← key, ← key']
    exact (placed.keyed booking inside booking' inside').mpr same
  exact List.inj_on_of_nodup_map distinct member member' keys

end

/-- Aggregates whose places are known stand beside them. -/
theorem mapM_located {conflictKey : κ → Option γ} {values : List (Aggregate κ ι)}
    (all : ∀ value ∈ values, ∃ key, conflictKey value.identity = some key) :
    ∃ located : List (γ × Aggregate κ ι), values.mapM (fun value =>
        (conflictKey value.identity).map fun key => (key, value)) = some located ∧
      located.map Prod.snd = values ∧
      ∀ entry ∈ located, conflictKey entry.2.identity = some entry.1 := by
  -- Every place is known, so that no step of the traversal stops it.
  induction values with
  | nil => exact ⟨[], rfl, rfl, by simp⟩
  | cons value values ih =>
    obtain ⟨⟨key, found⟩, later⟩ := List.forall_mem_cons.mp all
    obtain ⟨located, mapped, items, keys⟩ := ih later
    refine ⟨(key, value) :: located, ?_, ?_, List.forall_mem_cons.mpr ⟨found, keys⟩⟩
    · rw [List.mapM_cons, mapped, found]
      rfl
    · rw [List.map_cons, items]

section

variable {schema : Schema ι}

/-- Tables with the same sums are the same. -/
theorem sums_injective {first second : Table γ schema ε}
    (same : ∀ key, sums first key = sums second key) : first = second := by
  funext key
  refine Option.map_injective ?_ (same key)
  rintro ⟨_, _⟩ ⟨_, _⟩ equal
  cases equal
  rfl

/-- What stands in a column can stand there. -/
theorem holds_countOf (table : Table γ schema ε) (key : γ) (column : ι) :
    schema.holds column (countOf (sums table key) column) = true := by
  unfold sums
  cases table key with
  | none => exact schema.zero column
  | some row => exact row.stored column

variable [DecidableEq γ]

/-- A table is what bookings make of another one. -/
def Booked (extra : ε) (place : Booking η κ ι → γ) (before : Table γ schema ε)
    (bookings : List (Booking η κ ι)) (after : Table γ schema ε) : Prop :=
  ∀ key, sums after key =
    bookAll extra (sums before key) (bookings.filter fun booking => place booking = key)

namespace Booked

variable {extra : ε} {place : Booking η κ ι → γ} {before middle after : Table γ schema ε}
  {first second : List (Booking η κ ι)}

theorem nil : Booked extra place before [] before := fun _ => rfl

theorem append (front : Booked extra place before first middle)
    (back : Booked extra place middle second after) :
    Booked extra place before (first ++ second) after := by
  intro key
  rw [back key, front key, List.filter_append, bookAll_append]

/-- The same bookings in another order make the same table. -/
theorem unique {other : Table γ schema ε} (one : Booked extra place before first after)
    (two : Booked extra place before second other) (perm : first.Perm second) : after = other := by
  refine sums_injective fun key => ?_
  rw [one key, two key]
  exact bookAll_perm extra _ (perm.filter _)

end Booked

/-- The sums of bookings stay below the upper end, and the rows of a table can hold them. -/
def WithinLimits (place : Booking η κ ι → γ) (table : Table γ schema ε)
    (bookings : List (Booking η κ ι)) : Prop :=
  ∀ key column,
    sumOf (bookings.filter fun booking => place booking = key) column < 2 ^ 63 ∧
      schema.holds column (sumOf (bookings.filter fun booking => place booking = key) column) =
        true ∧
      schema.holds column (countOf (sums table key) column +
        sumOf (bookings.filter fun booking => place booking = key) column) = true

theorem sumOf_perm {first second : List (Booking η κ ι)} (perm : first.Perm second) (column : ι) :
    sumOf first column = sumOf second column :=
  (perm.map _).sum_eq

/-- Limits do not depend on the order of the bookings. -/
theorem WithinLimits.perm {place : Booking η κ ι → γ} {table : Table γ schema ε}
    {first second : List (Booking η κ ι)} (within : WithinLimits place table first)
    (perm : first.Perm second) : WithinLimits place table second := by
  intro key column
  rw [← sumOf_perm (perm.filter _)]
  exact within key column

/-- Bookings whose sums over all keys can be stored stay within the limits of an empty table. -/
theorem withinLimits_empty {place : Booking η κ ι → γ} {bookings : List (Booking η κ ι)}
    (positive : ∀ booking ∈ bookings, ∀ column, 0 ≤ (booking.amounts column).toInt)
    (total : ∀ column, sumOf bookings column < 2 ^ 63 ∧
      schema.holds column (sumOf bookings column) = true) :
    WithinLimits place (fun _ => none : Table γ schema ε) bookings := by
  intro key column
  -- The bookings of a key and the others make up the whole sum.
  have parts := sumOf_perm (List.filter_append_perm (fun booking => place booking = key) bookings)
    column
  have nonneg : 0 ≤ sumOf (bookings.filter fun booking => place booking = key) column :=
    sumOf_nonneg fun booking member => positive booking (List.mem_of_mem_filter member) column
  have others : 0 ≤ sumOf (bookings.filter fun booking => !decide (place booking = key)) column :=
    sumOf_nonneg fun booking member => positive booking (List.mem_of_mem_filter member) column
  obtain ⟨below, storable⟩ := total column
  rw [sumOf_append] at parts
  have part := schema.between column 0 _ _ nonneg (by omega) (schema.zero column) storable
  refine ⟨by omega, part, ?_⟩
  have none : countOf (sums (fun _ => none : Table γ schema ε) key) column = 0 := rfl
  rw [none, zero_add]
  exact part

/-- Bookings that have their places and stay within the limits of a table. -/
structure Bookable (conflictKey : κ → Option γ) (place : Booking η κ ι → γ)
    (table : Table γ schema ε) (bookings : List (Booking η κ ι)) : Prop
    extends Placed conflictKey place bookings where
  positive : ∀ booking ∈ bookings, ∀ column, 0 ≤ (booking.amounts column).toInt
  within : WithinLimits place table bookings

/-- Bookings can be made in two parts. -/
theorem Bookable.split (extra : ε) {conflictKey : κ → Option γ} {place : Booking η κ ι → γ}
    {before : Table γ schema ε} {first second : List (Booking η κ ι)}
    (bookable : Bookable conflictKey place before (first ++ second)) :
    Bookable conflictKey place before first ∧ ∀ middle, Booked extra place before first middle →
      Bookable conflictKey place middle second := by
  have left {booking : Booking η κ ι} (member : booking ∈ first) :=
    List.mem_append_left second member
  have right {booking : Booking η κ ι} (member : booking ∈ second) :=
    List.mem_append_right first member
  have parts (key : γ) (column : ι) :
      0 ≤ sumOf (first.filter fun booking => place booking = key) column ∧
      0 ≤ sumOf (second.filter fun booking => place booking = key) column ∧
      sumOf ((first ++ second).filter fun booking => place booking = key) column =
        sumOf (first.filter fun booking => place booking = key) column +
          sumOf (second.filter fun booking => place booking = key) column := by
    refine ⟨sumOf_nonneg fun booking member => ?_, sumOf_nonneg fun booking member => ?_, ?_⟩
    · exact bookable.positive booking (left (List.mem_of_mem_filter member)) column
    · exact bookable.positive booking (right (List.mem_of_mem_filter member)) column
    · rw [List.filter_append, sumOf_append]
  constructor
  · refine ⟨⟨fun booking member => bookable.located booking (left member),
      fun booking member other member' =>
        bookable.keyed booking (left member) other (left member')⟩,
      fun booking member => bookable.positive booking (left member), fun key column => ?_⟩
    obtain ⟨whole, proposed, storable⟩ := bookable.within key column
    obtain ⟨positive, positive', total⟩ := parts key column
    have part := schema.between column 0 _ _ positive (by omega) (schema.zero column) proposed
    refine ⟨by omega, part, ?_⟩
    -- The sum lies between what stands there and what will stand there.
    refine schema.between column _ _ _ (by omega) ?_ (holds_countOf before key column) storable
    omega
  · intro middle booked
    refine ⟨⟨fun booking member => bookable.located booking (right member),
      fun booking member other member' =>
        bookable.keyed booking (right member) other (right member')⟩,
      fun booking member => bookable.positive booking (right member), fun key column => ?_⟩
    obtain ⟨whole, proposed, storable⟩ := bookable.within key column
    obtain ⟨positive, positive', total⟩ := parts key column
    have part := schema.between column 0 _ _ positive' (by omega) (schema.zero column) proposed
    refine ⟨by omega, part, ?_⟩
    rw [booked key, countOf_bookAll, add_assoc, ← total]
    exact storable

variable [Fintype ι]

/-- An upsert whose sums can be stored changes the row of its key. -/
theorem upsertRow_sums (extra : ε) {table : Table γ schema ε} {key : γ} {added : Aggregate κ ι}
    (proposed : ∀ column, schema.holds column (added.counts column).toInt = true)
    (storable : ∀ column, schema.holds column
      ((Totals.plus extra (sums table key) added).counts column) = true) :
    ∃ after, upsertRow extra table key added = some after ∧
      sums after key = some (Totals.plus extra (sums table key) added) ∧
      ∀ other ≠ key, sums after other = sums table other := by
  unfold upsertRow
  dsimp only
  rw [if_pos proposed, dif_pos storable]
  refine ⟨_, rfl, ?_, fun other apart => ?_⟩
  · simp [sums]
  · simp [sums, apart]

/-- Upserts under different keys each change the row of their key. -/
theorem foldlM_upsertRow (extra : ε) {entries : List (γ × Aggregate κ ι)}
    {table : Table γ schema ε} (distinct : (entries.map Prod.fst).Nodup)
    (proposed : ∀ entry ∈ entries, ∀ column,
      schema.holds column (entry.2.counts column).toInt = true)
    (storable : ∀ entry ∈ entries, ∀ column, schema.holds column
      ((Totals.plus extra (sums table entry.1) entry.2).counts column) = true) :
    ∃ after, entries.foldlM (fun table entry => upsertRow extra table entry.1 entry.2) table =
        some after ∧
      (∀ entry ∈ entries,
        sums after entry.1 = some (Totals.plus extra (sums table entry.1) entry.2)) ∧
      ∀ key ∉ entries.map Prod.fst, sums after key = sums table key := by
  induction entries generalizing table with
  | nil => exact ⟨table, rfl, by simp, fun _ _ => rfl⟩
  | cons entry entries ih =>
    obtain ⟨new, distinct⟩ := List.nodup_cons.mp distinct
    obtain ⟨here, later⟩ := List.forall_mem_cons.mp proposed
    obtain ⟨middle, upserted, own, others⟩ :=
      upsertRow_sums extra here (storable entry (by simp))
    -- The later keys have other rows, which are as before.
    have apart : ∀ later ∈ entries, later.1 ≠ entry.1 := by
      intro later member same
      exact new (same ▸ List.mem_map_of_mem member)
    obtain ⟨after, run, changed, kept⟩ := ih distinct later fun later member column => by
      rw [others later.1 (apart later member)]
      exact storable later (List.mem_cons_of_mem _ member) column
    refine ⟨after, ?_, ?_, ?_⟩
    · rw [List.foldlM_cons, upserted]
      exact run
    · refine List.forall_mem_cons.mpr ⟨?_, fun later member => ?_⟩
      · rw [kept _ new, own]
      · rw [changed later member, others later.1 (apart later member)]
    · intro key absent
      rw [List.map_cons, List.mem_cons, not_or] at absent
      rw [kept key absent.2, others key absent.1]

variable [DecidableEq η]

/-- A batch is booked by upserting its sums, in any order. -/
theorem upsertRows_booked (extra : ε) {conflictKey : κ → Option γ} {place : Booking η κ ι → γ}
    {table : Table γ schema ε} {bookings : List (Booking η κ ι)}
    (bookable : Bookable conflictKey place table bookings)
    (values : Reordered ((aggregate bookings).map Prod.snd)) :
    ∃ after, upsertRows extra conflictKey table values.values = some after ∧
      Booked extra place table bookings after := by
  have entryOf : ∀ value ∈ values.values, ∃ key, (key, value) ∈ aggregate bookings := by
    intro value member
    obtain ⟨⟨key, _⟩, listed, rfl⟩ := List.mem_map.mp (values.perm.mem_iff.mp member)
    exact ⟨key, listed⟩
  obtain ⟨located, mapped, items, keys⟩ := mapM_located fun value member => by
    obtain ⟨key, listed⟩ := entryOf value member
    obtain ⟨booking, _, _, found⟩ := bookable.entry listed
    exact ⟨_, found⟩
  have distinct : (located.map Prod.fst).Nodup := by
    have all : (values.values.map fun value => conflictKey value.identity).Nodup := by
      refine (values.perm.map _).nodup_iff.mpr ?_
      rw [List.map_map]
      exact bookable.distinct
    rw [← items, List.map_map] at all
    have same : located.map ((fun value => conflictKey value.identity) ∘ Prod.snd) =
        (located.map Prod.fst).map some := by
      rw [List.map_map]
      exact List.map_congr_left keys
    rw [same] at all
    exact List.Nodup.of_map some all
  -- What is upserted under a key are the sums of the bookings that belong there.
  have spec : ∀ entry ∈ located, ∀ old : Option (Totals ι ε),
      bookAll extra old (bookings.filter fun booking => place booking = entry.1) =
        some (Totals.plus extra old entry.2) := by
    intro entry member old
    obtain ⟨key, listed⟩ := entryOf entry.2 (items ▸ List.mem_map_of_mem member)
    have gathered := gather_of_mem bookings listed
    rw [bookable.group listed (keys entry member)] at gathered
    refine bookAll_eq_plus extra old (fun other held => ?_)
      (fun column => (bookable.within entry.1 column).1) gathered
    exact bookable.positive other (List.mem_of_mem_filter held)
  have counts (old : Option (Totals ι ε)) (entry : γ × Aggregate κ ι) (member : entry ∈ located)
      (column : ι) : (Totals.plus extra old entry.2).counts column = countOf old column +
        sumOf (bookings.filter fun booking => place booking = entry.1) column := by
    rw [← countOf_bookAll extra, spec entry member]
    rfl
  have proposed : ∀ entry ∈ located, ∀ column,
      schema.holds column (entry.2.counts column).toInt = true := by
    intro entry member column
    have sum := counts none entry member column
    rw [show countOf (none : Option (Totals ι ε)) column = 0 from rfl, zero_add] at sum
    have holds := (bookable.within entry.1 column).2.1
    rw [← sum] at holds
    exact holds
  have storable : ∀ entry ∈ located, ∀ column, schema.holds column
      ((Totals.plus extra (sums table entry.1) entry.2).counts column) = true := by
    intro entry member column
    rw [counts _ entry member column]
    exact (bookable.within entry.1 column).2.2
  obtain ⟨after, run, changed, kept⟩ := foldlM_upsertRow extra distinct proposed storable
  refine ⟨after, ?_, fun key => ?_⟩
  · unfold upsertRows
    rw [mapped]
    show (if (located.map Prod.fst).Nodup then _ else none) = _
    rw [if_pos distinct]
    exact run
  · by_cases found : key ∈ located.map Prod.fst
    · obtain ⟨entry, member, rfl⟩ := List.mem_map.mp found
      rw [changed entry member, spec entry member]
    · -- Without an entry there are no bookings for the key.
      have none : (bookings.filter fun booking => place booking = key) = [] := by
        rw [List.filter_eq_nil_iff]
        intro booking inside here
        obtain ⟨held, listed, placed⟩ := bookable.exists_entry inside
        have value : held.2 ∈ located.map Prod.snd := by
          rw [items, values.perm.mem_iff]
          exact List.mem_map_of_mem listed
        obtain ⟨entry, member, same⟩ := List.mem_map.mp value
        have key' : entry.1 = key := by
          have known := keys entry member
          rw [same, placed, of_decide_eq_true here] at known
          exact (Option.some.inj known).symm
        exact found (key' ▸ List.mem_map_of_mem member)
      rw [kept key found, none]
      rfl

end

end Zradar.Rollup

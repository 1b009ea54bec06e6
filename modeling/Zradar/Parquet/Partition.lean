import Zradar.Parquet.TelemetryWriter

/-! Partitioning of a batch, by reference and by move, and what both of them keep. -/

namespace Zradar.Parquet

/-- Outcome of partitioning a batch by its storage key. -/
inductive Partitioned (α : Type) where
  /-- Every row maps to the same partition, so the batch is passed on as it is. -/
  | homogeneous (key : PartitionKey) (rows : List α)
  /-- Rows span multiple partitions. -/
  | grouped (groups : List (PartitionKey × List α))

/-- The groups that the caller goes through. -/
def Partitioned.groups {α : Type} : Partitioned α → List (PartitionKey × List α)
  | .homogeneous key rows => [(key, rows)]
  | .grouped groups => groups

section

variable (env : WriterEnv) {α : Type} [Row α]

/-- Whether every row shares the discriminator of the first one. -/
def isHomogeneous (first : α) (rows : List α) : Bool :=
  rows.all fun row => discriminator row = discriminator first

/-- Partition rows by their storage key, with a map from the keys to the positions of their groups. -/
def partitionByStorageKey (rows : List α) : Partitioned α :=
  match rows with
  -- The callers return early on an empty batch.
  | [] => .grouped []
  | first :: _ =>
    if isHomogeneous first rows then .homogeneous (partitionKeyOf env first) rows
    else .grouped (groupIndexed (partitionKeyOf env) rows)

/-- Both partitioners produce the same groups. -/
theorem partitionByStorageKey_groups (rows : List α) :
    (partitionByStorageKey env rows).groups = partitionOwned env rows := by
  -- A homogeneous batch is one group, and any other is grouped by its keys.
  cases rows with
  | nil => rfl
  | cons first rest =>
    unfold partitionByStorageKey partitionOwned isHomogeneous
    simp only
    split
    · rfl
    · exact groupIndexed_eq _ _

variable {env}

/-- The calendar tells the times of one hour apart by nothing. -/
def HourlyCalendar (env : WriterEnv) : Prop :=
  ∀ first second : Int, 0 ≤ first → 0 ≤ second → first / 3600 = second / 3600 →
    env.dateHour first = env.dateHour second

/-- Timestamps of one hour bucket are filed under one hour. -/
theorem tsNsToDatePath_eq_of_bucket (hourly : HourlyCalendar env) {first second : Int64}
    (early : 0 ≤ first.toInt) (late : 0 ≤ second.toInt)
    (bucket : first.toInt / nanosPerHour = second.toInt / nanosPerHour) :
    tsNsToDatePath env first = tsNsToDatePath env second := by
  unfold tsNsToDatePath
  -- Above zero, a division that truncates is one that rounds down.
  rw [Int.tdiv_eq_ediv_of_nonneg early, Int.tdiv_eq_ediv_of_nonneg late]
  unfold nanosPerHour at bucket
  apply hourly
  · omega
  · omega
  · -- An hour of nanoseconds is an hour of seconds of nanoseconds.
    omega

/-- Rows with the discriminator of another row belong to its partition. -/
theorem partitionKeyOf_eq_of_discriminator (hourly : HourlyCalendar env) {first second : α}
    (early : 0 ≤ (Row.timestamp first).toInt) (late : 0 ≤ (Row.timestamp second).toInt)
    (same : discriminator first = discriminator second) :
    partitionKeyOf env first = partitionKeyOf env second := by
  simp only [discriminator, Prod.mk.injEq] at same
  obtain ⟨workspace, stream, bucket⟩ := same
  unfold partitionKeyOf
  rw [workspace, stream, tsNsToDatePath_eq_of_bucket hourly early late bucket]

/-- With or without the fast path, a batch is grouped by the partitions of its rows. -/
theorem partitionOwned_eq_groupFirstSeen (hourly : HourlyCalendar env) {rows : List α}
    (times : ∀ row ∈ rows, 0 ≤ (Row.timestamp row).toInt) :
    partitionOwned env rows = groupFirstSeen (partitionKeyOf env) rows := by
  cases rows with
  | nil => rfl
  | cons first rest =>
    unfold partitionOwned
    simp only
    split
    case isTrue homogeneous =>
      -- One discriminator means one partition, and then there is one group.
      symm
      apply groupFirstSeen_of_const (List.cons_ne_nil first rest)
      intro row listed
      have same := of_decide_eq_true (List.all_eq_true.mp homogeneous row listed)
      exact partitionKeyOf_eq_of_discriminator hourly (times row listed)
        (times first List.mem_cons_self) same
    case isFalse => rfl

/--
Both partitioners produce the same groups: under distinct keys in first-seen order, with every row
of the batch once, in the group of its own partition and in the order of arrival.
-/
theorem partitioning_isolates_tenants (hourly : HourlyCalendar env) (rows : List α)
    (times : ∀ row ∈ rows, 0 ≤ Row.timestamp row) :
    let groups := (partitionByStorageKey env rows).groups
    groups = partitionOwned env rows ∧
      (groups.map Prod.fst).Nodup ∧
      groups.map Prod.fst = (rows.map (partitionKeyOf env)).eraseDups ∧
      (∀ row ∈ rows, ∃ group ∈ groups, group.1 = partitionKeyOf env row ∧ row ∈ group.2) ∧
      (∀ group ∈ groups, ∀ row ∈ group.2, partitionKeyOf env row = group.1) ∧
      (∀ group ∈ groups, group.2 = rows.filter fun row => partitionKeyOf env row = group.1) ∧
      (groups.flatMap Prod.snd).Perm rows := by
  have nonnegative : ∀ row ∈ rows, 0 ≤ (Row.timestamp row).toInt := by
    intro row listed
    exact Int64.le_iff_toInt_le.mp (times row listed)
  rw [partitionByStorageKey_groups, partitionOwned_eq_groupFirstSeen hourly nonnegative]
  have grouping := groupFirstSeen_spec (partitionKeyOf env) rows
  refine ⟨rfl, grouping.distinct, groupFirstSeen_keys _ _, ?_, fun group member row held =>
    grouping.key_of_mem member held, grouping.group, grouping.perm_flatten⟩
  intro row listed
  obtain ⟨group, member, named⟩ := List.mem_map.mp (grouping.complete row listed)
  refine ⟨group, member, named, ?_⟩
  -- A group holds all rows of its key, and so this one.
  rw [grouping.group group member]
  exact List.mem_filter.mpr ⟨listed, decide_eq_true named.symm⟩

end

/-- An environment for the first day of the epoch. -/
def firstDayEnv : WriterEnv where
  dataDir := "/data"
  dateHour := fun seconds =>
    if seconds / 3600 = 10 then "1970/01/01/10"
    else if seconds / 3600 = 11 then "1970/01/01/11" else "1970/01/01/00"
  fileId := fun _ => "00000000-0000-4000-8000-000000000000"
  sizes := fun _ => (1000, 500)
  nowUs := 0
  parseStr := fun _ => some Uuid.nil

/-- A log entry of a workspace and a service at an hour of the first day. -/
def logAt (workspaceId serviceName : String) (hour : Int64) : LogRecord :=
  ⟨"log", hour * 3600000000000, workspaceId, "", "", "INFO", serviceName, "started", "", "", "", "",
    "", 0⟩

/-- Two workspaces and two hours in one batch. -/
def mixedLogs : List LogRecord :=
  [logAt "a" "api" 10, logAt "b" "web" 10, logAt "a" "api" 11]

/-- The mixed batch goes to three partitions, and no row is lost. -/
theorem mixed_logs_partitioned :
    (partitionByStorageKey firstDayEnv mixedLogs).groups.map Prod.fst =
        [⟨"a", "api", "1970/01/01/10"⟩, ⟨"b", "web", "1970/01/01/10"⟩,
          ⟨"a", "api", "1970/01/01/11"⟩] ∧
      ((partitionByStorageKey firstDayEnv mixedLogs).groups.flatMap Prod.snd).Perm mixedLogs := by
  -- The calendar of the example tells the hours apart.
  have hourly : HourlyCalendar firstDayEnv := by
    intro first second _ _ same
    simp only [firstDayEnv, same]
  have times : ∀ row ∈ mixedLogs, 0 ≤ Row.timestamp row := by decide
  have spec := partitioning_isolates_tenants hourly mixedLogs times
  refine ⟨?_, spec.2.2.2.2.2.2⟩
  rw [spec.2.2.1]
  decide

end Zradar.Parquet

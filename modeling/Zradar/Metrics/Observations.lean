import Zradar.Lib.Positions
import Zradar.Lib.Run
import Zradar.Metrics.Encoding

/-! A histogram that is observed and rendered by many at the same time. -/

namespace Zradar.Metrics

/-- The bucket of a value: the first one whose bound it does not exceed, or the last one of all. -/
def Bounds.bucketOf (bounds : Bounds) (value : F64) : Nat :=
  bounds.values.findIdx fun bound => value.le bound

/-- The cells of a histogram. -/
structure Histogram (bounds : Bounds) where
  counts : List UInt64
  /-- The bits of the sum. -/
  sumBits : UInt64
  count : UInt64
  sized : counts.length = bounds.values.length + 1

namespace Histogram

variable {bounds : Bounds}

def new (bounds : Bounds) : Histogram bounds :=
  ⟨List.replicate (bounds.values.length + 1) 0, 0, 0, List.length_replicate⟩

/-- Count a value in its bucket. -/
def tally (cells : Histogram bounds) (value : F64) : Histogram bounds where
  counts := cells.counts.modify (bounds.bucketOf value) fun count => count + 1
  sumBits := cells.sumBits
  count := cells.count
  sized := by rw [List.length_modify, cells.sized]

/-- An observation that nothing comes in between of. -/
def observe (cells : Histogram bounds) (plus : UInt64 → F64 → UInt64) (value : F64) :
    Histogram bounds :=
  { cells.tally value with
    count := cells.count + 1
    sumBits := plus cells.sumBits value }

end Histogram

/-- Where a call of `observe` is. -/
inductive ObserveCall where
  | called (value : F64)
  | tallied (value : F64)
  | counted (value : F64)
  /-- The bits of the sum were loaded, or given back by an exchange that failed. -/
  | summing (value : F64) (bits : UInt64)

namespace ObserveCall

/-- The value of a call that has not counted it in its bucket. -/
def pending? : ObserveCall → Option F64
  | called value => some value
  | tallied _ | counted _ | summing _ _ => none

/-- The value of a call that has counted it in its bucket, and not added it to the sum. -/
def unsummed? : ObserveCall → Option F64
  | called _ => none
  | tallied value | counted value | summing value _ => some value

end ObserveCall

/-- What a rendering has read of the cells. -/
structure Scrape where
  counts : List UInt64
  sumBits : UInt64
  /-- The observations that the reader knew to be over when it began. -/
  known : List F64
  /-- The observations that had begun when it was done. -/
  begun : List F64

/-- A thread that renders the histogram from time to time. -/
structure Reader where
  /-- What it read of every bucket last, or was told otherwise. -/
  view : List UInt64
  /-- The observations that it was told to be over. -/
  known : List F64
  /-- The counts that a rendering under way has read. -/
  loaded : Option (List UInt64)
  /-- What its renderings have read, the last one first. -/
  scrapes : List Scrape

/-- A histogram, who observes it, and what has come of it. -/
structure ObserveState (bounds : Bounds) where
  cells : Histogram bounds
  calls : List ObserveCall
  reader : Reader
  /-- The values that calls began with, were counted and were added, each the last one first. -/
  begun : List F64
  tallied : List F64
  summed : List F64
  /-- What the bits of the sum have been. -/
  sums : List UInt64

/-- One operation of an observer or of the reader. -/
inductive ObserveLabel where
  | observe (value : F64)
  | tally (position : Nat)
  | count (position : Nat)
  | load (position : Nat) (bits : UInt64)
  | exchange (position : Nat) (spurious : Bool)
  /-- The reader synchronizes with the observers that are done. -/
  | synchronize
  | render
  | readCount (count : UInt64)
  | readSum (bits : UInt64)

section

variable {bounds : Bounds} (plus : UInt64 → F64 → UInt64)

/-- One operation on the cells of a histogram. -/
def observeStep (state : ObserveState bounds) : ObserveLabel → Option (ObserveState bounds)
  | .observe value =>
    some { state with calls := .called value :: state.calls, begun := value :: state.begun }
  | .tally position =>
    match state.calls[position]? with
    | some (.called value) =>
      some { state with
        cells := state.cells.tally value
        calls := state.calls.set position (.tallied value)
        tallied := value :: state.tallied }
    | _ => none
  | .count position =>
    match state.calls[position]? with
    | some (.tallied value) =>
      some { state with
        cells := { state.cells with count := state.cells.count + 1 }
        calls := state.calls.set position (.counted value) }
    | _ => none
  | .load position bits =>
    match state.calls[position]? with
    | some (.counted value) =>
      -- A relaxed load may give any value that the cell has had.
      if bits ∈ state.sums then
        some { state with calls := state.calls.set position (.summing value bits) }
      else none
    | _ => none
  | .exchange position spurious =>
    match state.calls[position]? with
    | some (.summing value bits) =>
      -- A weak exchange may fail even though the cell is as it was loaded.
      if state.cells.sumBits = bits ∧ spurious = false then
        some { state with
          cells := { state.cells with sumBits := plus bits value }
          calls := state.calls.eraseIdx position
          summed := value :: state.summed
          sums := plus bits value :: state.sums }
      else some { state with
        calls := state.calls.set position (.summing value state.cells.sumBits) }
    | _ => none
  | .synchronize =>
    match state.reader.loaded with
    | none => some { state with
        reader := { state.reader with view := state.cells.counts, known := state.summed } }
    | some _ => none
  | .render =>
    match state.reader.loaded with
    | none => some { state with reader := { state.reader with loaded := some [] } }
    | some _ => none
  | .readCount count =>
    match state.reader.loaded with
    | some loaded =>
      match state.reader.view[loaded.length]?, state.cells.counts[loaded.length]? with
      | some seen, some current =>
        -- A relaxed load gives nothing older than what the reader has seen.
        if seen ≤ count ∧ count ≤ current then
          some { state with
            reader := { state.reader with
              view := state.reader.view.set loaded.length count
              loaded := some (loaded ++ [count]) } }
        else none
      | _, _ => none
    | none => none
  | .readSum bits =>
    match state.reader.loaded with
    | some loaded =>
      if loaded.length = bounds.values.length + 1 ∧ bits ∈ state.sums then
        some { state with
          reader := { state.reader with
            loaded := none
            scrapes := ⟨loaded, bits, state.reader.known, state.begun⟩ :: state.reader.scrapes } }
      else none
    | none => none

end

/-- A histogram that nobody has observed. -/
def unobserved (bounds : Bounds) : ObserveState bounds where
  cells := .new bounds
  calls := []
  reader := ⟨List.replicate (bounds.values.length + 1) 0, [], none, []⟩
  begun := []
  tallied := []
  summed := []
  sums := [0]

/-- A call that runs on its own observes its value. -/
theorem run_observe {bounds : Bounds} (plus : UInt64 → F64 → UInt64) (state : ObserveState bounds)
    (value : F64) (current : state.cells.sumBits ∈ state.sums) :
    ∃ final, run (observeStep plus) state
        [.observe value, .tally 0, .count 0, .load 0 state.cells.sumBits, .exchange 0 false] =
          some final ∧
      final.cells = state.cells.observe plus value ∧ final.calls = state.calls := by
  let final : ObserveState bounds :=
    { state with
      cells := state.cells.observe plus value
      begun := value :: state.begun
      tallied := value :: state.tallied
      summed := value :: state.summed
      sums := plus state.cells.sumBits value :: state.sums }
  refine ⟨final, ?_, rfl, rfl⟩
  simp [run, observeStep, Histogram.tally, current, Histogram.observe, final]

/-- A rendering shows the observations that it may show. -/
structure Scrape.Sound (bounds : Bounds) (scrape : Scrape) : Prop where
  sized : scrape.counts.length = bounds.values.length + 1
  /-- A bucket counts what was known to be over, and nothing that had not begun. -/
  bucket : ∀ (position : Nat) (bound : F64) (total : UInt64), bounds.values[position]? = some bound →
    (cumulatives 0 scrape.counts)[position]? = some total →
    scrape.known.countP (fun value => value.le bound) ≤ total.toNat ∧
      total.toNat ≤ scrape.begun.countP fun value => value.le bound
  all : scrape.known.length ≤ (totalCount scrape.counts).toNat ∧
    (totalCount scrape.counts).toNat ≤ scrape.begun.length
  ascending : (cumulatives 0 scrape.counts).Pairwise fun lower upper => lower ≤ upper

/-- Every bucket holds at least as much in one list of counts as in another one. -/
def Grown (earlier later : List UInt64) : Prop :=
  ∀ (position : Nat) (old : UInt64), earlier[position]? = some old →
    ∃ new, later[position]? = some new ∧ old ≤ new

theorem Grown.trans {first second third : List UInt64} (one : Grown first second)
    (other : Grown second third) : Grown first third := by
  intro position old found
  obtain ⟨middle, located, low⟩ := one position old found
  obtain ⟨new, arrived, high⟩ := other position middle located
  exact ⟨new, arrived, UInt64.le_trans low high⟩

theorem Grown.refl (counts : List UInt64) : Grown counts counts :=
  fun _ old found => ⟨old, found, UInt64.le_refl old⟩

/-- A bucket that is counted up, or seen again, has grown. -/
theorem Grown.set {counts : List UInt64} {position : Nat} {old new : UInt64}
    (found : counts[position]? = some old) (low : old ≤ new) :
    Grown counts (counts.set position new) := by
  intro other value located
  by_cases same : position = other
  · subst same
    rw [found] at located
    cases located
    obtain ⟨inside, _⟩ := List.getElem?_eq_some_iff.mp found
    exact ⟨new, List.getElem?_set_self inside, low⟩
  · exact ⟨value, by rw [List.getElem?_set_ne same, located], UInt64.le_refl value⟩

/-- How many of some values are in a bucket. -/
def inBucket (bounds : Bounds) (values : List F64) (bucket : Nat) : Nat :=
  values.countP fun value => bounds.bucketOf value = bucket

/-- What holds of a histogram however it is observed. -/
structure Observed {bounds : Bounds} (plus : UInt64 → F64 → UInt64) (state : ObserveState bounds) :
    Prop where
  buckets : ∀ bucket count, state.cells.counts[bucket]? = some count →
    count.toNat = inBucket bounds state.tallied bucket
  begun : state.begun.Perm (state.calls.filterMap ObserveCall.pending? ++ state.tallied)
  tallied : state.tallied.Perm (state.calls.filterMap ObserveCall.unsummed? ++ state.summed)
  /-- The sum is that of the calls that are over, in the order in which they added their values. -/
  sum : state.cells.sumBits = state.summed.foldr (fun value bits => plus bits value) 0
  viewed : Grown state.reader.view state.cells.counts
  viewSized : state.reader.view.length = bounds.values.length + 1
  known : ∀ bucket seen, state.reader.view[bucket]? = some seen →
    inBucket bounds state.reader.known bucket ≤ seen.toNat
  loaded : ∀ loaded, state.reader.loaded = some loaded → loaded <+: state.reader.view
  sound : ∀ scrape ∈ state.reader.scrapes, scrape.Sound bounds
  scraped : ∀ scrape ∈ state.reader.scrapes, Grown scrape.counts state.reader.view
  monotone : state.reader.scrapes.Pairwise fun later earlier => Grown earlier.counts later.counts

/-- The buckets up to one hold the values up to its bound. -/
theorem bucketOf_le_iff {bounds : Bounds} {position : Nat} {bound : F64}
    (found : bounds.values[position]? = some bound) (value : F64) :
    bounds.bucketOf value < position + 1 ↔ value.le bound = true := by
  obtain ⟨inside, rfl⟩ := List.getElem?_eq_some_iff.mp found
  constructor
  · -- The first bound that the value does not exceed is no greater than this one.
    intro early
    have within : bounds.bucketOf value < bounds.values.length := by omega
    have fits : value.le bounds.values[bounds.bucketOf value] = true :=
      List.findIdx_getElem
    rcases Nat.lt_or_ge (bounds.bucketOf value) position with less | same
    · have ordered := List.pairwise_iff_getElem.mp bounds.ascending _ _ within inside less
      exact F64.le_trans fits ordered.1
    · have equal : bounds.bucketOf value = position := by omega
      simpa only [equal] using fits
  · -- No later bound is the first one.
    intro fits
    by_contra late
    have before : position < bounds.values.findIdx fun bound => value.le bound :=
      Nat.not_lt.mp late
    have exceeds := List.not_of_lt_findIdx before
    rw [fits] at exceeds
    cases exceeds

/-- Counts with bounds for every bucket have these bounds up to any bucket. -/
theorem sum_take_bounds {bounds : Bounds} {counts : List UInt64} {known begun : List F64}
    (each : ∀ bucket count, counts[bucket]? = some count →
      inBucket bounds known bucket ≤ count.toNat ∧ count.toNat ≤ inBucket bounds begun bucket) :
    ∀ taken ≤ counts.length,
      known.countP (fun value => bounds.bucketOf value < taken) ≤
          ((counts.take taken).map UInt64.toNat).sum ∧
        ((counts.take taken).map UInt64.toNat).sum ≤
          begun.countP fun value => bounds.bucketOf value < taken := by
  intro taken
  -- The values up to one more bucket are those up to the last one, and those in it.
  have split (values : List F64) (taken : Nat) :
      values.countP (fun value => bounds.bucketOf value < taken + 1) =
        values.countP (fun value => bounds.bucketOf value < taken) +
          inBucket bounds values taken := by
    unfold inBucket
    induction values with
    | nil => rfl
    | cons value values ih =>
      rw [List.countP_cons, List.countP_cons, List.countP_cons, ih]
      rcases Nat.lt_trichotomy (bounds.bucketOf value) taken with less | equal | greater
      · have apart : bounds.bucketOf value ≠ taken := by omega
        simp [less, Nat.lt_succ_of_lt less, apart]
        omega
      · simp [equal]
        omega
      · have not : ¬ bounds.bucketOf value < taken := by omega
        have notNext : ¬ bounds.bucketOf value < taken + 1 := by omega
        have apart : bounds.bucketOf value ≠ taken := by omega
        simp [not, notNext, apart]
  induction taken with
  | zero => simp
  | succ taken ih =>
    intro inside
    obtain ⟨low, high⟩ := ih (Nat.le_of_succ_le inside)
    have found := List.getElem?_eq_getElem (Nat.lt_of_succ_le inside)
    obtain ⟨least, most⟩ := each taken _ found
    rw [split, split, List.take_add_one, found, List.map_append, List.sum_append]
    simp only [Option.toList_some, List.map_cons, List.map_nil, List.sum_cons, List.sum_nil]
    omega

/-- The sums of counts are those of the numbers, as long as they all fit. -/
theorem cumulatives_toNat {counts : List UInt64} {total : UInt64}
    (fits : total.toNat + (counts.map UInt64.toNat).sum < 2 ^ 64) {position : Nat} {sum : UInt64}
    (found : (cumulatives total counts)[position]? = some sum) :
    sum.toNat = total.toNat + ((counts.take (position + 1)).map UInt64.toNat).sum := by
  induction counts generalizing total position with
  | nil => simp [cumulatives] at found
  | cons count counts ih =>
    simp only [List.map_cons, List.sum_cons] at fits
    have exact : (total + count).toNat = total.toNat + count.toNat := by
      rw [UInt64.toNat_add]
      exact Nat.mod_eq_of_lt (by omega)
    cases position with
    | zero =>
      simp only [cumulatives, List.getElem?_cons_zero, Option.some.injEq] at found
      subst found
      simp [exact]
    | succ position =>
      simp only [cumulatives, List.getElem?_cons_succ] at found
      have later := ih (by rw [exact]; omega) found
      rw [later, exact]
      simp only [List.take_succ_cons, List.map_cons, List.sum_cons]
      omega

theorem totalCount_toNat {counts : List UInt64} (fits : (counts.map UInt64.toNat).sum < 2 ^ 64) :
    (totalCount counts).toNat = (counts.map UInt64.toNat).sum := by
  have general (total : UInt64) (fits : total.toNat + (counts.map UInt64.toNat).sum < 2 ^ 64) :
      (counts.foldl (fun total count => total + count) total).toNat =
        total.toNat + (counts.map UInt64.toNat).sum := by
    induction counts generalizing total with
    | nil => rfl
    | cons count counts ih =>
      simp only [List.map_cons, List.sum_cons] at fits
      have exact : (total + count).toNat = total.toNat + count.toNat := by
        rw [UInt64.toNat_add]
        exact Nat.mod_eq_of_lt (by omega)
      rw [List.foldl_cons, ih (by omega) (total + count) (by omega), exact]
      simp only [List.map_cons, List.sum_cons]
      omega
  have sum := general 0 (by simpa using fits)
  rwa [UInt64.toNat_zero, Nat.zero_add] at sum

/-- The sums of counts ascend, as long as they all fit. -/
theorem cumulatives_ascending {counts : List UInt64} {total : UInt64}
    (fits : total.toNat + (counts.map UInt64.toNat).sum < 2 ^ 64) :
    (∀ sum ∈ cumulatives total counts, total ≤ sum) ∧
      (cumulatives total counts).Pairwise fun lower upper => lower ≤ upper := by
  induction counts generalizing total with
  | nil => simp [cumulatives]
  | cons count counts ih =>
    simp only [List.map_cons, List.sum_cons] at fits
    have exact : (total + count).toNat = total.toNat + count.toNat := by
      rw [UInt64.toNat_add]
      exact Nat.mod_eq_of_lt (by omega)
    have step : total ≤ total + count := UInt64.le_iff_toNat_le.mpr (by omega)
    have fitsNext : (total + count).toNat + (counts.map UInt64.toNat).sum < 2 ^ 64 := by omega
    obtain ⟨above, ascending⟩ := ih fitsNext
    refine ⟨List.forall_mem_cons.mpr ⟨step, fun sum listed => ?_⟩,
      List.pairwise_cons.mpr ⟨above, ascending⟩⟩
    exact UInt64.le_trans step (above sum listed)

/-- Every value is in some bucket. -/
theorem bucketOf_lt (bounds : Bounds) (value : F64) :
    bounds.bucketOf value < bounds.values.length + 1 :=
  Nat.lt_succ_of_le List.findIdx_le_length

/-- Counts that are bounded bucket by bucket are shown as they may be. -/
theorem Scrape.sound_of_each {bounds : Bounds} {scrape : Scrape}
    (sized : scrape.counts.length = bounds.values.length + 1)
    (few : scrape.begun.length < 2 ^ 64)
    (each : ∀ bucket count, scrape.counts[bucket]? = some count →
      inBucket bounds scrape.known bucket ≤ count.toNat ∧
        count.toNat ≤ inBucket bounds scrape.begun bucket) : scrape.Sound bounds := by
  have sums := sum_take_bounds each
  have whole (values : List F64) :
      values.countP (fun value => bounds.bucketOf value < scrape.counts.length) =
        values.length := by
    rw [List.countP_eq_length]
    intro value _
    rw [sized]
    exact decide_eq_true (bucketOf_lt bounds value)
  obtain ⟨least, most⟩ := sums scrape.counts.length (Nat.le_refl _)
  rw [whole, List.take_length] at least most
  -- No sum is greater than the number of observations, so all of them fit.
  have fits : (scrape.counts.map UInt64.toNat).sum < 2 ^ 64 := Nat.lt_of_le_of_lt most few
  have zero : (0 : UInt64).toNat + (scrape.counts.map UInt64.toNat).sum < 2 ^ 64 := by
    simpa using fits
  refine ⟨sized, ?_, ?_, (cumulatives_ascending zero).2⟩
  · intro position bound total bounded found
    have inside : position < bounds.values.length := (List.getElem?_eq_some_iff.mp bounded).1
    obtain ⟨low, high⟩ := sums (position + 1) (by omega)
    have up (values : List F64) :
        values.countP (fun value => bounds.bucketOf value < position + 1) =
          values.countP fun value => value.le bound := by
      apply List.countP_congr
      intro value _
      rw [decide_eq_true_iff]
      exact bucketOf_le_iff bounded value
    have sum := cumulatives_toNat zero found
    rw [UInt64.toNat_zero, Nat.zero_add] at sum
    rw [up] at low high
    rw [sum]
    exact ⟨low, high⟩
  · rw [totalCount_toNat fits]
    exact ⟨least, most⟩

namespace Observed

variable {bounds : Bounds} {plus : UInt64 → F64 → UInt64} {state : ObserveState bounds}

/-- Nothing is counted that has not begun. -/
theorem inBucket_le (kept : Observed plus state) (bucket : Nat) :
    inBucket bounds state.tallied bucket ≤ inBucket bounds state.begun bucket := by
  unfold inBucket
  rw [kept.begun.countP_eq, List.countP_append]
  omega

/-- Everything that is over is counted. -/
theorem inBucket_summed_le (kept : Observed plus state) (bucket : Nat) :
    inBucket bounds state.summed bucket ≤ inBucket bounds state.tallied bucket := by
  unfold inBucket
  rw [kept.tallied.countP_eq, List.countP_append]
  omega

/-- A count is one less than the number of all words, at most. -/
theorem count_lt (kept : Observed plus state) {value : F64} {others : List F64}
    (pending : (state.calls.filterMap ObserveCall.pending?).Perm (value :: others))
    (few : state.begun.length < 2 ^ 64) {bucket : Nat} {count : UInt64}
    (found : state.cells.counts[bucket]? = some count) : count.toNat + 1 < 2 ^ 64 := by
  have counted := kept.buckets bucket count found
  have bound : inBucket bounds state.tallied bucket ≤ state.tallied.length := List.countP_le_length
  have lengths := kept.begun.length_eq
  rw [List.length_append, pending.length_eq, List.length_cons] at lengths
  omega

/-- A value is counted in its bucket. -/
theorem tally (kept : Observed plus state) (few : state.begun.length < 2 ^ 64) {position : Nat}
    {value : F64} (found : state.calls[position]? = some (.called value)) :
    Observed plus { state with
      cells := state.cells.tally value
      calls := state.calls.set position (.tallied value)
      tallied := value :: state.tallied } := by
  have taken := filterMap_taken found ObserveCall.pending?
  have pendingNow := filterMap_replaced found (.tallied value) ObserveCall.pending?
  have unsummed := filterMap_taken found ObserveCall.unsummed?
  have unsummedNow := filterMap_replaced found (.tallied value) ObserveCall.unsummed?
  simp only [ObserveCall.pending?, ObserveCall.unsummed?, Option.toList_some, Option.toList_none,
    List.nil_append, List.singleton_append] at taken pendingNow unsummed unsummedNow
  have grown : Grown state.cells.counts (state.cells.tally value).counts := by
    intro bucket old located
    have small := kept.count_lt taken few located
    by_cases own : bounds.bucketOf value = bucket
    · subst own
      refine ⟨old + 1, by simp [Histogram.tally, located], UInt64.le_iff_toNat_le.mpr ?_⟩
      rw [UInt64.toNat_add]
      simp only [UInt64.toNat_one]
      omega
    · exact ⟨old, by simp [Histogram.tally, own, located], UInt64.le_refl old⟩
  exact {
    buckets := by
      intro bucket count located
      simp only [Histogram.tally, List.getElem?_modify] at located
      cases before : state.cells.counts[bucket]? with
      | none => simp [before] at located
      | some old =>
        have counted := kept.buckets bucket old before
        have small := kept.count_lt taken few before
        rw [before] at located
        simp only [Option.map_eq_map, Option.map_some, Option.some.injEq] at located
        unfold inBucket at counted ⊢
        rw [List.countP_cons]
        by_cases own : bounds.bucketOf value = bucket
        · rw [if_pos own] at located
          subst located
          rw [UInt64.toNat_add]
          simp only [own, decide_true, if_true, UInt64.toNat_one]
          omega
        · rw [if_neg own] at located
          subst located
          simp [own, counted]
    begun := by
      refine kept.begun.trans ?_
      exact ((taken.append_right _).trans (List.perm_middle.symm)).trans
        (pendingNow.symm.append_right _)
    tallied := by
      refine (kept.tallied.cons value).trans ?_
      exact ((unsummed.append_right state.summed).cons value).trans
        (unsummedNow.symm.append_right _)
    sum := kept.sum
    viewed := kept.viewed.trans grown
    viewSized := kept.viewSized
    known := kept.known
    loaded := kept.loaded
    sound := kept.sound
    scraped := kept.scraped
    monotone := kept.monotone }

/-- A call that goes on without an effect on the buckets or the sum leaves everything as it is. -/
theorem goOn (kept : Observed plus state) {position : Nat} {before : ObserveCall}
    (found : state.calls[position]? = some before) (after : ObserveCall)
    (pending : after.pending? = before.pending?) (unsummed : after.unsummed? = before.unsummed?)
    (count : UInt64) :
    Observed plus { state with
      cells := { state.cells with count := count }
      calls := state.calls.set position after } where
  buckets := kept.buckets
  begun := kept.begun.trans ((filterMap_set_same found pending).symm.append_right _)
  tallied := kept.tallied.trans ((filterMap_set_same found unsummed).symm.append_right _)
  sum := kept.sum
  viewed := kept.viewed
  viewSized := kept.viewSized
  known := kept.known
  loaded := kept.loaded
  sound := kept.sound
  scraped := kept.scraped
  monotone := kept.monotone

/-- An exchange that succeeds adds the value of its call. -/
theorem add (kept : Observed plus state) {position : Nat} {value : F64}
    (found : state.calls[position]? = some (.summing value state.cells.sumBits)) :
    Observed plus { state with
      cells := { state.cells with sumBits := plus state.cells.sumBits value }
      calls := state.calls.eraseIdx position
      summed := value :: state.summed
      sums := plus state.cells.sumBits value :: state.sums } where
  buckets := kept.buckets
  begun := kept.begun.trans ((filterMap_taken found ObserveCall.pending?).append_right _)
  tallied := by
    have unsummed := filterMap_taken found ObserveCall.unsummed?
    exact (kept.tallied.trans (unsummed.append_right _)).trans List.perm_middle.symm
  sum := by rw [List.foldr_cons, ← kept.sum]
  viewed := kept.viewed
  viewSized := kept.viewSized
  known := kept.known
  loaded := kept.loaded
  sound := kept.sound
  scraped := kept.scraped
  monotone := kept.monotone

/-- The reader knows what is over, and has seen no less of it. -/
theorem synchronize (kept : Observed plus state) (idle : state.reader.loaded = none) :
    Observed plus { state with
      reader := { state.reader with view := state.cells.counts, known := state.summed } } where
  buckets := kept.buckets
  begun := kept.begun
  tallied := kept.tallied
  sum := kept.sum
  viewed := Grown.refl _
  viewSized := state.cells.sized
  known := by
    intro bucket seen found
    rw [kept.buckets bucket seen found]
    exact kept.inBucket_summed_le bucket
  loaded := by
    intro loaded under
    rw [idle] at under
    cases under
  sound := kept.sound
  scraped := fun scrape listed => (kept.scraped scrape listed).trans kept.viewed
  monotone := kept.monotone

/-- A rendering reads the count of the next bucket. -/
theorem readCount (kept : Observed plus state) {loaded : List UInt64} {seen count current : UInt64}
    (under : state.reader.loaded = some loaded)
    (viewed : state.reader.view[loaded.length]? = some seen)
    (located : state.cells.counts[loaded.length]? = some current)
    (low : seen ≤ count) (high : count ≤ current) :
    Observed plus { state with
      reader := { state.reader with
        view := state.reader.view.set loaded.length count
        loaded := some (loaded ++ [count]) } } := by
  have grown : Grown state.reader.view (state.reader.view.set loaded.length count) :=
    Grown.set viewed low
  obtain ⟨inside, _⟩ := List.getElem?_eq_some_iff.mp viewed
  exact {
    buckets := kept.buckets
    begun := kept.begun
    tallied := kept.tallied
    sum := kept.sum
    viewed := by
      intro bucket old found
      by_cases same : loaded.length = bucket
      · subst same
        rw [List.getElem?_set_self inside] at found
        cases found
        exact ⟨current, located, high⟩
      · rw [List.getElem?_set_ne same] at found
        exact kept.viewed bucket old found
    viewSized := by rw [List.length_set, kept.viewSized]
    known := by
      intro bucket old found
      by_cases same : loaded.length = bucket
      · subst same
        rw [List.getElem?_set_self inside] at found
        cases found
        exact Nat.le_trans (kept.known _ _ viewed) (UInt64.le_iff_toNat_le.mp low)
      · rw [List.getElem?_set_ne same] at found
        exact kept.known bucket old found
    loaded := by
      rintro _ ⟨⟩
      -- What was read before stands in front of the bucket that is read now.
      have front := List.prefix_iff_eq_take.mp (kept.loaded loaded under)
      rw [List.prefix_iff_eq_take, List.length_append, List.length_singleton, List.take_add_one,
        List.take_set_of_le (Nat.le_refl _), ← front, List.getElem?_set_self inside]
      rfl
    sound := kept.sound
    scraped := fun scrape listed => (kept.scraped scrape listed).trans grown
    monotone := kept.monotone }

/-- A rendering is done when it has read every bucket and the sum. -/
theorem readSum (kept : Observed plus state) (few : state.begun.length < 2 ^ 64)
    {loaded : List UInt64} (under : state.reader.loaded = some loaded)
    (complete : loaded.length = bounds.values.length + 1) (bits : UInt64) :
    Observed plus { state with
      reader := { state.reader with
        loaded := none
        scrapes := ⟨loaded, bits, state.reader.known, state.begun⟩ :: state.reader.scrapes } } := by
  -- All that was read is what the reader has seen of every bucket.
  have whole : loaded = state.reader.view :=
    (kept.loaded loaded under).eq_of_length (by rw [complete, kept.viewSized])
  exact {
    buckets := kept.buckets
    begun := kept.begun
    tallied := kept.tallied
    sum := kept.sum
    viewed := kept.viewed
    viewSized := kept.viewSized
    known := kept.known
    loaded := nofun
    sound := by
      refine List.forall_mem_cons.mpr ⟨Scrape.sound_of_each complete few ?_, kept.sound⟩
      intro bucket count found
      have seen : state.reader.view[bucket]? = some count := by rwa [← whole]
      obtain ⟨current, located, bound⟩ := kept.viewed bucket count seen
      have counted := kept.buckets bucket current located
      have begun := kept.inBucket_le bucket
      have shown := UInt64.le_iff_toNat_le.mp bound
      have few : count.toNat ≤ inBucket bounds state.begun bucket := by omega
      exact ⟨kept.known bucket count seen, few⟩
    scraped := by
      refine List.forall_mem_cons.mpr ⟨?_, kept.scraped⟩
      rw [whole]
      exact Grown.refl _
    monotone := by
      refine List.pairwise_cons.mpr ⟨fun earlier listed => ?_, kept.monotone⟩
      rw [whole]
      exact kept.scraped earlier listed }

end Observed

/-- Observations only ever begin. -/
theorem begun_grows {bounds : Bounds} {plus : UInt64 → F64 → UInt64}
    {state next : ObserveState bounds} {label : ObserveLabel}
    (stepped : observeStep plus state label = some next) :
    state.begun.length ≤ next.begun.length := by
  cases label <;> simp only [observeStep] at stepped
  case observe value =>
    cases stepped
    simp
  all_goals
    repeat' split at stepped
    all_goals first | cases stepped; exact Nat.le_refl _ | cases stepped

/-- Every operation keeps what holds of a histogram. -/
theorem Observed.step {bounds : Bounds} {plus : UInt64 → F64 → UInt64}
    {state next : ObserveState bounds} {label : ObserveLabel} (kept : Observed plus state)
    (few : state.begun.length < 2 ^ 64) (stepped : observeStep plus state label = some next) :
    Observed plus next := by
  cases label with
  | observe value =>
    cases stepped
    exact { kept with begun := kept.begun.cons value }
  | tally position =>
    simp only [observeStep] at stepped
    split at stepped
    · rename_i value found
      cases stepped
      exact kept.tally few found
    · cases stepped
  | count position =>
    simp only [observeStep] at stepped
    split at stepped
    · rename_i value found
      cases stepped
      exact kept.goOn found (.counted value) rfl rfl _
    · cases stepped
  | load position bits =>
    simp only [observeStep] at stepped
    split at stepped
    · rename_i value found
      split at stepped
      · cases stepped
        exact kept.goOn found (.summing value bits) rfl rfl state.cells.count
      · cases stepped
    · cases stepped
  | exchange position spurious =>
    simp only [observeStep] at stepped
    split at stepped
    · rename_i value bits found
      split at stepped
      · rename_i succeeds
        obtain ⟨rfl, _⟩ := succeeds
        cases stepped
        exact kept.add found
      · cases stepped
        exact kept.goOn found (.summing value state.cells.sumBits) rfl rfl state.cells.count
    · cases stepped
  | synchronize =>
    simp only [observeStep] at stepped
    split at stepped
    · rename_i idle
      cases stepped
      exact kept.synchronize idle
    · cases stepped
  | render =>
    simp only [observeStep] at stepped
    split at stepped
    · cases stepped
      refine { kept with loaded := ?_ }
      rintro _ ⟨⟩
      exact List.nil_prefix
    · cases stepped
  | readCount count =>
    simp only [observeStep] at stepped
    split at stepped
    · rename_i loaded under
      split at stepped
      · rename_i seen current viewed located
        split at stepped
        · rename_i between
          cases stepped
          exact kept.readCount under viewed located between.1 between.2
        · cases stepped
      · cases stepped
    · cases stepped
  | readSum bits =>
    simp only [observeStep] at stepped
    split at stepped
    · rename_i loaded under
      split at stepped
      · rename_i complete
        cases stepped
        exact kept.readSum few under complete.1 bits
      · cases stepped
    · cases stepped

theorem unobserved_kept (bounds : Bounds) (plus : UInt64 → F64 → UInt64) :
    Observed plus (unobserved bounds) where
  buckets := by
    intro bucket count found
    have zero : count = 0 := by
      have listed := List.mem_of_getElem? found
      exact List.eq_of_mem_replicate listed
    rw [zero]
    rfl
  begun := List.Perm.refl _
  tallied := List.Perm.refl _
  sum := rfl
  viewed := Grown.refl _
  viewSized := List.length_replicate
  known := fun _ _ _ => Nat.zero_le _
  loaded := nofun
  sound := nofun
  scraped := nofun
  monotone := List.Pairwise.nil

/-- Whatever runs, a histogram is kept while fewer than all words have been observed. -/
theorem run_observed {bounds : Bounds} {plus : UInt64 → F64 → UInt64}
    {state final : ObserveState bounds} {labels : List ObserveLabel}
    (kept : Observed plus state) (reached : run (observeStep plus) state labels = some final)
    (few : final.begun.length < 2 ^ 64) : Observed plus final := by
  -- Observations only ever begin, so there are no more of them in front of any step.
  induction labels generalizing state with
  | nil =>
    cases reached
    exact kept
  | cons label labels ih =>
    obtain ⟨next, stepped, reached⟩ := run_cons_eq_some.mp reached
    have grows : next.begun.length ≤ final.begun.length :=
      run_keeps (fun _ _ _ bound stepped => Nat.le_trans bound (begun_grows stepped))
        (Nat.le_refl _) reached
    exact ih (kept.step (by have := begun_grows stepped; omega) stepped) reached

/--
No observation is lost, however observers and renderings interleave: every value that was begun
is under way or in the sum once, and each rendering shows at least what its reader knew to be over,
nothing that had not begun, and no less than an earlier one.
-/
theorem observations_kept {bounds : Bounds} (plus : UInt64 → F64 → UInt64)
    {labels : List ObserveLabel} {final : ObserveState bounds}
    (reached : run (observeStep plus) (unobserved bounds) labels = some final)
    (few : final.begun.length < 2 ^ 64) :
    (∃ underWay, final.begun.Perm (underWay ++ final.summed) ∧
      underWay.length = final.calls.length) ∧
    final.cells.sumBits = final.summed.foldr (fun value bits => plus bits value) 0 ∧
    (∀ scrape ∈ final.reader.scrapes, scrape.Sound bounds) ∧
    final.reader.scrapes.Pairwise fun later earlier => Grown earlier.counts later.counts := by
  have kept := run_observed (unobserved_kept bounds plus) reached few
  refine ⟨⟨final.calls.filterMap ObserveCall.pending? ++
    final.calls.filterMap ObserveCall.unsummed?, ?_, ?_⟩, kept.sum, kept.sound, kept.monotone⟩
  · rw [List.append_assoc]
    exact kept.begun.trans (kept.tallied.append_left _)
  · -- A call has either counted its value in its bucket or not.
    rw [List.length_append]
    induction final.calls with
    | nil => rfl
    | cons call calls ih =>
      cases call <;> simp only [List.filterMap_cons, ObserveCall.pending?, ObserveCall.unsummed?,
        List.length_cons] <;> omega

/-- Two observers of the same value, and a rendering that begins between the two. -/
def racing : List ObserveLabel :=
  [.observe F64.zero, .observe F64.zero, .tally 0, .count 0, .load 0 0, .exchange 0 false,
    .synchronize, .render, .readCount 1, .tally 0] ++ List.replicate 9 (.readCount 0) ++ [.readSum 0]

/-- The rendering shows the observation that was over. -/
theorem observations_kept_racing :
    ∃ final, run (observeStep fun bits _ => bits) (unobserved sizeBytes) racing = some final ∧
      final.cells.counts.head? = some 2 ∧ final.reader.scrapes.length = 1 ∧
      ∀ scrape ∈ final.reader.scrapes, scrape.Sound sizeBytes := by
  have facts : (run (observeStep fun bits _ => bits) (unobserved sizeBytes) racing).map
      (fun final => (final.begun.length, final.cells.counts.head?, final.reader.scrapes.length)) =
        some (2, some 2, 1) := by
    decide +kernel
  obtain ⟨final, reached, found⟩ := Option.map_eq_some_iff.mp facts
  obtain ⟨begun, rest⟩ := Prod.mk.inj found
  obtain ⟨head, scrapes⟩ := Prod.mk.inj rest
  have few : final.begun.length < 2 ^ 64 := by rw [begun]; decide
  have kept := observations_kept (fun bits _ => bits) reached few
  exact ⟨final, reached, head, scrapes, kept.2.2.1⟩

end Zradar.Metrics

import Zradar.Lib.Run
import Zradar.Otlp.IngestGuard

/-! The records that the rate limiter admits in a window of time, with callers in any order. -/

namespace Zradar.Otlp

/-- The operations on tokens that the rate limiter uses. -/
structure TokenOps (τ : Type) where
  ofNat : Nat → τ
  asSecs : Duration → τ
  add : τ → τ → τ
  sub : τ → τ → τ
  mul : τ → τ → τ
  min : τ → τ → τ
  lt : τ → τ → Bool

/-- A bucket with tokens of some type. -/
structure BucketOf (τ : Type) where
  tokens : τ
  lastRefill : Nat

/-- The tokens that a bucket holds at most. -/
def bucketCapacity (limitPerSecond : Nat) : Nat := min (limitPerSecond * 2) (2 ^ 64 - 1)

/-- Refill the bucket of a workspace, or make one, and take the tokens of a request. -/
def refillAndTake {τ : Type} (ops : TokenOps τ) (now limitPerSecond records : Nat)
    (bucket : Option (BucketOf τ)) : Bool × BucketOf τ :=
  let capacity := ops.ofNat (bucketCapacity limitPerSecond)
  let requested := ops.ofNat records
  let bucket := bucket.getD ⟨capacity, now⟩
  -- The duration since a later instant is zero.
  let refill := ops.mul (ops.asSecs (now - bucket.lastRefill)) (ops.ofNat limitPerSecond)
  let tokens := ops.min (ops.add bucket.tokens refill) capacity
  let enough := !ops.lt tokens requested
  -- The mark is set whether the request is admitted or not.
  (enough, ⟨if enough then ops.sub tokens requested else tokens, now⟩)

/-- Doubles as tokens. -/
def DoubleOps.tokenOps (ops : DoubleOps) : TokenOps F64 where
  ofNat := ops.ofNat
  asSecs := ops.asSecs
  add := ops.add
  sub := ops.sub
  mul := ops.mul
  min := ops.min
  lt := ops.lt

/-- The rate limiter is this algorithm on doubles. -/
theorem checkAndRecord_eq (limiter : ProjectRateLimiter) (ops : DoubleOps) (now : Nat)
    (workspaceId : WorkspaceId) {limitPerSecond : Nat} (positive : limitPerSecond ≠ 0)
    (records : Nat) :
    let taken := refillAndTake ops.tokenOps now limitPerSecond records
      ((limiter.buckets workspaceId).map fun bucket => ⟨bucket.tokens, bucket.lastRefill⟩)
    limiter.checkAndRecord ops now workspaceId limitPerSecond records =
      (taken.1, ⟨fun other => if other = workspaceId then some ⟨taken.2.tokens, taken.2.lastRefill⟩
        else limiter.buckets other⟩) := by
  unfold ProjectRateLimiter.checkAndRecord
  rw [if_neg positive]
  cases limiter.buckets workspaceId <;> rfl

/-- An instant in seconds. -/
def seconds (nanos : Nat) : ℚ := nanos / 1000000000

/-- Exact tokens. -/
def rationalOps : TokenOps ℚ where
  ofNat := fun count => count
  asSecs := seconds
  add := fun first second => first + second
  sub := fun first second => first - second
  mul := fun first second => first * second
  min := fun first second => min first second
  lt := fun first second => first < second

/-- A call of `check_and_record` that has read the clock and waits for the lock of its bucket. -/
structure RateCall where
  workspaceId : WorkspaceId
  limitPerSecond : Nat
  records : Nat
  now : Nat

/-- An update of a bucket: its call, the mark that was there before, and the answer. -/
structure RateUpdate where
  call : RateCall
  mark : Nat
  admitted : Bool

/-- The clock, the calls under way, and the buckets with the updates that were made of them. -/
structure RateState where
  clock : Nat
  calls : List RateCall
  buckets : WorkspaceId → Option (BucketOf ℚ)
  updates : List RateUpdate

/-- One step of the clock or of a caller. -/
inductive RateLabel where
  | tick (nanos : Nat)
  /-- A caller reads the clock. -/
  | call (workspaceId : WorkspaceId) (limitPerSecond records : Nat)
  /-- A caller updates the bucket of its workspace under the lock. -/
  | update (position : Nat)

/-- The updates of a bucket may come in another order than the readings of the clock. -/
def rateStep (state : RateState) : RateLabel → Option RateState
  | .tick nanos => some { state with clock := state.clock + nanos }
  | .call workspaceId limitPerSecond records =>
    -- A limit of zero is refused at once.
    if limitPerSecond = 0 then some state
    else some { state with
      calls := ⟨workspaceId, limitPerSecond, records, state.clock⟩ :: state.calls }
  | .update position =>
    state.calls[position]?.map fun call =>
      let bucket := state.buckets call.workspaceId
      let taken := refillAndTake rationalOps call.now call.limitPerSecond call.records bucket
      { state with
        calls := state.calls.eraseIdx position
        buckets := Function.update state.buckets call.workspaceId (some taken.2)
        updates :=
          ⟨call, (bucket.map BucketOf.lastRefill).getD call.now, taken.1⟩ :: state.updates }

/-- No caller and no bucket, at some instant. -/
def initialRates (clock : Nat) : RateState := ⟨clock, [], fun _ => none, []⟩

/-- Whether a step calls for a workspace with its limit, if it calls for it at all. -/
def RateLabel.UsesLimit (workspaceId : WorkspaceId) (limit : Nat) : RateLabel → Prop
  | .call other limitPerSecond _ => other = workspaceId → limitPerSecond = limit
  | .tick _ | .update _ => True

/-- The records of a workspace that an update admits, if its reading lies in a window. -/
def RateUpdate.admittedIn (workspaceId : WorkspaceId) (start stop : ℚ) (update : RateUpdate) : ℕ :=
  if update.call.workspaceId = workspaceId ∧ update.admitted = true ∧
      start ≤ seconds update.call.now ∧ seconds update.call.now ≤ stop then update.call.records
  else 0

/-- By how much an update sets back the mark of a workspace. -/
def RateUpdate.setBack (workspaceId : WorkspaceId) (update : RateUpdate) : ℚ :=
  if update.call.workspaceId = workspaceId then seconds (update.mark - update.call.now) else 0

/-- The records that some updates admit in a window. -/
def admittedIn (updates : List RateUpdate) (workspaceId : WorkspaceId) (start stop : ℚ) : ℕ :=
  (updates.map (RateUpdate.admittedIn workspaceId start stop)).sum

/-- By how much some updates set back the mark, all together. -/
def setBack (updates : List RateUpdate) (workspaceId : WorkspaceId) : ℚ :=
  (updates.map (RateUpdate.setBack workspaceId)).sum

section

theorem seconds_nonneg (nanos : Nat) : 0 ≤ seconds nanos := by
  unfold seconds
  positivity

/-- Going on from a mark to a reading is going on, or going back, by their distance. -/
theorem seconds_advance (mark now : Nat) :
    seconds mark + seconds (now - mark) = seconds now + seconds (mark - now) := by
  unfold seconds
  -- One of the two differences is zero.
  rcases le_total mark now with forward | backward
  · rw [Nat.cast_sub forward, Nat.sub_eq_zero_of_le forward]
    push_cast
    ring
  · rw [Nat.cast_sub backward, Nat.sub_eq_zero_of_le backward]
    push_cast
    ring

theorem bucketCapacity_le (limit : Nat) : (bucketCapacity limit : ℚ) ≤ 2 * limit := by
  have twice : bucketCapacity limit ≤ 2 * limit := by
    unfold bucketCapacity
    omega
  exact_mod_cast twice

/-- What is taken out of a bucket and what is left in it were there, or came by the refill. -/
theorem refillAndTake_spec (now limit records : Nat) {bucket : Option (BucketOf ℚ)}
    (nonneg : ∀ old, bucket = some old → 0 ≤ old.tokens) :
    let taken := refillAndTake rationalOps now limit records bucket
    let out : ℚ := if taken.1 then records else 0
    taken.2.lastRefill = now ∧ 0 ≤ taken.2.tokens ∧
      out + taken.2.tokens ≤ bucketCapacity limit ∧
      ∀ old, bucket = some old →
        out + taken.2.tokens ≤ old.tokens + seconds (now - old.lastRefill) * limit := by
  intro taken out
  -- The tokens behind the refill, before any are taken.
  generalize source : bucket.getD ⟨bucketCapacity limit, now⟩ = base
  have baseNonneg : 0 ≤ base.tokens := by
    cases bucket with
    | none =>
      rw [← source]
      exact Nat.cast_nonneg _
    | some old =>
      rw [← source]
      exact nonneg old rfl
  have added : 0 ≤ seconds (now - base.lastRefill) * limit :=
    mul_nonneg (seconds_nonneg _) (Nat.cast_nonneg _)
  generalize filled : min (base.tokens + seconds (now - base.lastRefill) * limit)
    (bucketCapacity limit : ℚ) = tokens
  have shape : taken = (!decide (tokens < records),
      ⟨if (!decide (tokens < records)) = true then tokens - records else tokens, now⟩) := by
    show refillAndTake rationalOps now limit records bucket = _
    unfold refillAndTake
    simp only [rationalOps, source, filled]
  have positive : 0 ≤ tokens := by
    rw [← filled]
    exact le_min (add_nonneg baseNonneg added) (Nat.cast_nonneg _)
  have whole : out + taken.2.tokens = tokens ∧ 0 ≤ taken.2.tokens := by
    show (if taken.1 then (records : ℚ) else 0) + taken.2.tokens = tokens ∧ _
    rw [shape]
    by_cases short : tokens < records
    · simp [short, positive]
    · simp [short, not_lt.mp short]
  refine ⟨by rw [shape], whole.2, ?_, ?_⟩
  · rw [whole.1, ← filled]
    exact min_le_right _ _
  · rintro old rfl
    rw [whole.1, ← filled]
    rw [Option.getD_some] at source
    rw [source]
    exact min_le_left _ _

theorem setBack_nonneg (workspaceId : WorkspaceId) (update : RateUpdate) :
    0 ≤ update.setBack workspaceId := by
  unfold RateUpdate.setBack
  split
  · exact seconds_nonneg _
  · exact le_refl 0

theorem setBack_sum_nonneg (updates : List RateUpdate) (workspaceId : WorkspaceId) :
    0 ≤ setBack updates workspaceId := by
  apply List.sum_nonneg
  intro back member
  obtain ⟨update, -, rfl⟩ := List.mem_map.mp member
  exact setBack_nonneg workspaceId update

theorem setBack_cons (update : RateUpdate) (updates : List RateUpdate) (workspaceId : WorkspaceId) :
    setBack (update :: updates) workspaceId =
      update.setBack workspaceId + setBack updates workspaceId := by
  simp [setBack]

theorem admittedIn_cons (update : RateUpdate) (updates : List RateUpdate)
    (workspaceId : WorkspaceId) (start stop : ℚ) :
    admittedIn (update :: updates) workspaceId start stop =
      update.admittedIn workspaceId start stop + admittedIn updates workspaceId start stop := by
  simp [admittedIn]

/--
What a window admits: no more than two seconds of the limit, the limit for its length, and the limit
for as long as the mark was set back.
-/
structure WithinRate (workspaceId : WorkspaceId) (limit : Nat) (start length : ℚ)
    (state : RateState) : Prop where
  calls : ∀ call ∈ state.calls, call.workspaceId = workspaceId → call.limitPerSecond = limit
  tokens : ∀ bucket, state.buckets workspaceId = some bucket → 0 ≤ bucket.tokens
  bound : (admittedIn state.updates workspaceId start (start + length) : ℚ) ≤
    bucketCapacity limit + limit * (length + setBack state.updates workspaceId)
  fresh : state.buckets workspaceId = none →
    admittedIn state.updates workspaceId start (start + length) = 0
  /-- What was admitted and what is left came from a full bucket since the start of the window. -/
  potential : ∀ bucket, state.buckets workspaceId = some bucket →
    admittedIn state.updates workspaceId start (start + length) = 0 ∨
      (admittedIn state.updates workspaceId start (start + length) : ℚ) + bucket.tokens ≤
        bucketCapacity limit +
          limit * (seconds bucket.lastRefill - start + setBack state.updates workspaceId)

variable {workspaceId : WorkspaceId} {limit : Nat} {start length : ℚ} {state next : RateState}

theorem WithinRate.update (within : WithinRate workspaceId limit start length state)
    {position : Nat} {call : RateCall} (found : state.calls[position]? = some call)
    (stepped : rateStep state (.update position) = some next) :
    WithinRate workspaceId limit start length next := by
  simp only [rateStep, found, Option.map_some, Option.some.injEq] at stepped
  have others : ∀ other ∈ state.calls.eraseIdx position, other.workspaceId = workspaceId →
      other.limitPerSecond = limit :=
    fun other member => within.calls other (List.mem_of_mem_eraseIdx member)
  by_cases own : call.workspaceId = workspaceId
  case neg =>
    -- The bucket of another workspace is updated, which no part of the invariant reads.
    have bucket : next.buckets workspaceId = state.buckets workspaceId := by
      rw [← stepped]
      exact Function.update_of_ne (Ne.symm own) _ _
    have admitted : admittedIn next.updates workspaceId start (start + length) =
        admittedIn state.updates workspaceId start (start + length) := by
      rw [← stepped, admittedIn_cons, RateUpdate.admittedIn, if_neg (fun both => own both.1),
        Nat.zero_add]
    have same : setBack next.updates workspaceId = setBack state.updates workspaceId := by
      rw [← stepped, setBack_cons, RateUpdate.setBack, if_neg own, zero_add]
    refine ⟨by rw [← stepped]; exact others, ?_, ?_, ?_, ?_⟩
    · rw [bucket]
      exact within.tokens
    · rw [admitted, same]
      exact within.bound
    · rw [bucket, admitted]
      exact within.fresh
    · rw [bucket, admitted, same]
      exact within.potential
  case pos =>
    subst own
    have limited : call.limitPerSecond = limit :=
      within.calls call (List.mem_of_getElem? found) rfl
    obtain ⟨marked, left, full, refilled⟩ :=
      refillAndTake_spec call.now call.limitPerSecond call.records within.tokens
    rw [limited] at marked left full refilled stepped
    generalize taken : refillAndTake rationalOps call.now limit call.records
      (state.buckets call.workspaceId) = answer at marked left full refilled stepped
    generalize before : ((state.buckets call.workspaceId).map BucketOf.lastRefill).getD call.now =
      mark at stepped
    have bucket : next.buckets call.workspaceId = some answer.2 := by
      rw [← stepped]
      exact Function.update_self _ _ _
    have back : setBack next.updates call.workspaceId =
        seconds (mark - call.now) + setBack state.updates call.workspaceId := by
      rw [← stepped, setBack_cons, RateUpdate.setBack, if_pos rfl]
    -- What the update adds to the window, which is no more than what it takes from the bucket.
    obtain ⟨more, added, small, inside⟩ : ∃ more : ℕ,
        admittedIn next.updates call.workspaceId start (start + length) =
          more + admittedIn state.updates call.workspaceId start (start + length) ∧
        (more : ℚ) ≤ (if answer.1 then (call.records : ℚ) else 0) ∧
        (0 < more → start ≤ seconds call.now ∧ seconds call.now ≤ start + length) := by
      refine ⟨_, by rw [← stepped, admittedIn_cons], ?_, ?_⟩
      · unfold RateUpdate.admittedIn
        split
        · rename_i all
          rw [if_pos all.2.1]
        · split
          · simp
          · simp
      · intro some
        unfold RateUpdate.admittedIn at some
        split at some
        · rename_i all
          exact all.2.2
        · exact absurd some (lt_irrefl 0)
    have forth := seconds_advance mark call.now
    have backNonneg := seconds_nonneg (mark - call.now)
    have limitNonneg : (0 : ℚ) ≤ limit := Nat.cast_nonneg limit
    have wider : (limit : ℚ) * (length + setBack state.updates call.workspaceId) ≤
        limit * (length + setBack next.updates call.workspaceId) := by
      rw [back]
      exact mul_le_mul_of_nonneg_left (by linarith) limitNonneg
    have nextNonneg : 0 ≤ setBack next.updates call.workspaceId := setBack_sum_nonneg _ _
    -- When nothing was admitted before, a full bucket suffices for what is.
    have first (none : admittedIn state.updates call.workspaceId start (start + length) = 0) :
        admittedIn next.updates call.workspaceId start (start + length) = 0 ∨
        (admittedIn next.updates call.workspaceId start (start + length) : ℚ) + answer.2.tokens ≤
          bucketCapacity limit +
            limit * (seconds call.now - start + setBack next.updates call.workspaceId) := by
      rw [added, none, Nat.add_zero]
      rcases Nat.eq_zero_or_pos more with nothing | something
      · exact Or.inl nothing
      · have since := (inside something).1
        have time : 0 ≤ (limit : ℚ) *
            (seconds call.now - start + setBack next.updates call.workspaceId) :=
          mul_nonneg limitNonneg (by linarith)
        exact Or.inr (by linarith)
    have potential : admittedIn next.updates call.workspaceId start (start + length) = 0 ∨
        (admittedIn next.updates call.workspaceId start (start + length) : ℚ) + answer.2.tokens ≤
          bucketCapacity limit +
            limit * (seconds call.now - start + setBack next.updates call.workspaceId) := by
      cases old : state.buckets call.workspaceId with
      | none => exact first (within.fresh old)
      | some oldBucket =>
        rcases within.potential oldBucket old with none | held
        · exact first none
        · -- The refill adds the time since the mark, and what the mark goes back is counted.
          right
          have refill := refilled oldBucket old
          have sameMark : mark = oldBucket.lastRefill := by
            rw [← before, old]
            rfl
          rw [← sameMark] at refill held
          have time : (limit : ℚ) * (seconds call.now - start +
                setBack next.updates call.workspaceId) =
              limit * (seconds mark - start + setBack state.updates call.workspaceId) +
                seconds (call.now - mark) * limit := by
            rw [back]
            linear_combination -(limit : ℚ) * forth
          rw [added, time]
          push_cast
          linarith
    refine ⟨by rw [← stepped]; exact others, ?_, ?_, ?_, ?_⟩
    · intro found' same
      rw [bucket, Option.some.injEq] at same
      rw [← same]
      exact left
    · rcases Nat.eq_zero_or_pos more with nothing | something
      · -- Nothing more is admitted, and the bound only grows.
        rw [added, nothing, Nat.zero_add]
        exact within.bound.trans (by linarith)
      · rcases potential with none | held
        · omega
        · -- The call lies in the window, so it came no later than the window's end.
          have until_ := (inside something).2
          have time : (limit : ℚ) *
              (seconds call.now - start + setBack next.updates call.workspaceId) ≤
                limit * (length + setBack next.updates call.workspaceId) :=
            mul_le_mul_of_nonneg_left (by linarith) limitNonneg
          linarith
    · intro missing
      rw [bucket] at missing
      contradiction
    · intro found' same
      rw [bucket, Option.some.injEq] at same
      rw [← same, marked]
      exact potential

/-- Every step that keeps the limit of the workspace keeps the bound. -/
theorem WithinRate.step (within : WithinRate workspaceId limit start length state)
    {label : RateLabel} (limited : label.UsesLimit workspaceId limit)
    (stepped : rateStep state label = some next) :
    WithinRate workspaceId limit start length next := by
  cases label with
  | tick nanos =>
    obtain rfl := Option.some.inj stepped
    exact ⟨within.calls, within.tokens, within.bound, within.fresh, within.potential⟩
  | call other limitPerSecond records =>
    rw [rateStep] at stepped
    split at stepped
    · -- A limit of zero leaves no call under way.
      obtain rfl := Option.some.inj stepped
      exact within
    · obtain rfl := Option.some.inj stepped
      refine ⟨?_, within.tokens, within.bound, within.fresh, within.potential⟩
      intro call member same
      rcases List.mem_cons.mp member with rfl | earlier
      · exact limited same
      · exact within.calls call earlier same
  | update position =>
    cases found : state.calls[position]? with
    | none => simp [rateStep, found] at stepped
    | some call => exact within.update found stepped

/-- With no bucket, nothing is admitted. -/
theorem WithinRate.initial (workspaceId : WorkspaceId) (limit : Nat) (start : ℚ) {length : ℚ}
    (proper : 0 ≤ length) (clock : Nat) :
    WithinRate workspaceId limit start length (initialRates clock) := by
  refine ⟨?_, ?_, ?_, fun _ => rfl, ?_⟩
  · intro call member
    exact absurd member List.not_mem_nil
  · intro bucket found
    cases found
  · -- An empty history admits nothing and sets nothing back.
    have capacity : (0 : ℚ) ≤ bucketCapacity limit := Nat.cast_nonneg _
    have time : (0 : ℚ) ≤ limit * length := mul_nonneg (Nat.cast_nonneg limit) proper
    simp only [initialRates, admittedIn, setBack, List.map_nil, List.sum_nil, Nat.cast_zero,
      add_zero]
    linarith
  · intro bucket found
    cases found

/-- In any order of the updates, setting back the mark admits no more than the limit meanwhile. -/
theorem admitted_with_set_back {labels : List RateLabel} {final : RateState} {clock : Nat}
    (limited : ∀ label ∈ labels, label.UsesLimit workspaceId limit)
    (reached : run rateStep (initialRates clock) labels = some final) (proper : 0 ≤ length) :
    (admittedIn final.updates workspaceId start (start + length) : ℚ) ≤
      2 * limit + limit * length + limit * setBack final.updates workspaceId := by
  have within : WithinRate workspaceId limit start length final :=
    run_invariant (fun _ _ _ within limited stepped => within.step limited stepped)
      (.initial workspaceId limit start proper clock) (Guarded.of_labels limited _) reached
  have capacity := bucketCapacity_le limit
  have bound := within.bound
  rw [mul_add] at bound
  linarith

end

/-- Whether a step updates the bucket of a workspace with no reading older than its mark. -/
def InOrder (workspaceId : WorkspaceId) (state : RateState) : RateLabel → Prop
  | .update position =>
    ∀ call ∈ state.calls[position]?, call.workspaceId = workspaceId →
      ∀ bucket ∈ state.buckets workspaceId, bucket.lastRefill ≤ call.now
  | .tick _ | .call _ _ _ => True

instance (workspaceId : WorkspaceId) (state : RateState) :
    ∀ label, Decidable (InOrder workspaceId state label)
  | .update position =>
    inferInstanceAs (Decidable (∀ call ∈ state.calls[position]?, call.workspaceId = workspaceId →
      ∀ bucket ∈ state.buckets workspaceId, bucket.lastRefill ≤ call.now))
  | .tick _ | .call _ _ _ => .isTrue trivial

/-- A step in order sets nothing back. -/
theorem setBack_inOrder {workspaceId : WorkspaceId} {state next : RateState} {label : RateLabel}
    (still : setBack state.updates workspaceId = 0) (inOrder : InOrder workspaceId state label)
    (stepped : rateStep state label = some next) : setBack next.updates workspaceId = 0 := by
  cases label with
  | tick nanos =>
    obtain rfl := Option.some.inj stepped
    exact still
  | call other limitPerSecond records =>
    rw [rateStep] at stepped
    split at stepped <;>
    · obtain rfl := Option.some.inj stepped
      exact still
  | update position =>
    obtain ⟨call, found, stepped⟩ := Option.map_eq_some_iff.mp stepped
    rw [← stepped, setBack_cons, still, add_zero, RateUpdate.setBack]
    split
    · -- The mark that was there is no later than the reading.
      rename_i own
      rw [show call.workspaceId = workspaceId from own]
      cases old : state.buckets workspaceId with
      | none => simp [seconds]
      | some bucket =>
        have earlier := inOrder call found own bucket old
        simp [seconds, Nat.sub_eq_zero_of_le earlier]
    · rfl

/--
A workspace whose updates come in the order of their readings is admitted no more than two seconds
of its limit and the limit for the length of the window.
-/
theorem window_within_rate (workspaceId : WorkspaceId) (limit clock : Nat)
    {labels : List RateLabel} {final : RateState}
    (limited : ∀ label ∈ labels, label.UsesLimit workspaceId limit)
    (inOrder : Guarded rateStep (InOrder workspaceId) (initialRates clock) labels)
    (reached : run rateStep (initialRates clock) labels = some final)
    (start : ℚ) {length : ℚ} (proper : 0 ≤ length) :
    (admittedIn final.updates workspaceId start (start + length) : ℚ) ≤
      2 * limit + limit * length := by
  have kept (state : RateState) (label : RateLabel) (next : RateState)
      (still : setBack state.updates workspaceId = 0) (inOrder : InOrder workspaceId state label)
      (stepped : rateStep state label = some next) : setBack next.updates workspaceId = 0 :=
    setBack_inOrder still inOrder stepped
  -- So the term for what was set back vanishes from the bound.
  have still : setBack final.updates workspaceId = 0 := run_invariant kept rfl inOrder reached
  have bound : (admittedIn final.updates workspaceId start (start + length) : ℚ) ≤
      2 * limit + limit * length + limit * setBack final.updates workspaceId :=
    admitted_with_set_back limited reached proper
  rw [still, mul_zero, add_zero] at bound
  exact bound

/-- Two callers in order, with the second a second later. -/
theorem two_callers_within_rate :
    ∃ final, run rateStep (initialRates 0) [.call Uuid.nil 1 2, .update 0, .tick 1000000000,
        .call Uuid.nil 1 1, .update 0] = some final ∧
      (admittedIn final.updates Uuid.nil 0 (0 + 1) : ℚ) ≤ 2 * (1 : ℕ) + (1 : ℕ) * 1 := by
  obtain ⟨final, reached⟩ : ∃ final, run rateStep (initialRates 0) [.call Uuid.nil 1 2, .update 0,
      .tick 1000000000, .call Uuid.nil 1 1, .update 0] = some final :=
    Option.isSome_iff_exists.mp (by decide +kernel)
  refine ⟨final, reached, window_within_rate Uuid.nil 1 0 ?_ ?_ reached 0 (by norm_num)⟩
  · simp [RateLabel.UsesLimit]
  · decide +kernel

/-- A late update with an early reading lets four records through at one instant, not two. -/
theorem late_update_exceeds_rate :
    ∃ final, run rateStep (initialRates 0) [.call Uuid.nil 1 1, .tick 2000000000,
        .call Uuid.nil 1 2, .update 0, .update 0, .call Uuid.nil 1 2, .update 0] = some final ∧
      (∀ label ∈ ([.call Uuid.nil 1 1, .tick 2000000000, .call Uuid.nil 1 2, .update 0, .update 0,
        .call Uuid.nil 1 2, .update 0] : List RateLabel), label.UsesLimit Uuid.nil 1) ∧
      ¬ (admittedIn final.updates Uuid.nil 2 (2 + 0) : ℚ) ≤ 2 * (1 : ℕ) + (1 : ℕ) * 0 := by
  have total : (run rateStep (initialRates 0) [.call Uuid.nil 1 1, .tick 2000000000,
      .call Uuid.nil 1 2, .update 0, .update 0, .call Uuid.nil 1 2, .update 0]).map
        (fun final => admittedIn final.updates Uuid.nil 2 (2 + 0)) = some 4 := by
    decide +kernel
  obtain ⟨final, reached, admits⟩ := Option.map_eq_some_iff.mp total
  refine ⟨final, reached, by simp [RateLabel.UsesLimit], ?_⟩
  rw [admits]
  norm_num

end Zradar.Otlp

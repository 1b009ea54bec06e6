import Zradar.Lib.Positions
import Zradar.Lib.Run
import Zradar.Lib.Saturating
import Zradar.Lib.Spaced

/-! The limiter of the warnings, asked by requests that run at the same time. -/

namespace Zradar.Otlp

open Saturating

/-- Allows one event per interval and counts the ones it suppresses. -/
structure LogLimiter where
  intervalMs : UInt64
  /-- The reading of the clock before which events are suppressed. -/
  nextAllowedMs : UInt64
  suppressed : UInt64

namespace LogLimiter

def new (intervalMs : UInt64) : LogLimiter := ⟨intervalMs, 0, 0⟩

/-- Where the next events are suppressed until, behind one that is allowed. -/
def nextAfter (limiter : LogLimiter) (nowMs : UInt64) : UInt64 := addU64 nowMs limiter.intervalMs

/-- A check that nothing comes in between of. -/
def checkAt (limiter : LogLimiter) (nowMs : UInt64) : LogLimiter × Option UInt64 :=
  if nowMs ≥ limiter.nextAllowedMs then
    ({ limiter with nextAllowedMs := limiter.nextAfter nowMs, suppressed := 0 },
      some limiter.suppressed)
  else ({ limiter with suppressed := limiter.suppressed + 1 }, none)

end LogLimiter

/-- Where a call of `check_at` is. -/
inductive CheckCall where
  | called (nowMs : UInt64)
  | loaded (nowMs next : UInt64)
  /-- The exchange succeeded, and the suppressed events are to be taken. -/
  | exchanged (nowMs next : UInt64)
  /-- The event is not due, or the exchange failed, and it is to be counted. -/
  | refused (nowMs next : UInt64)

/-- The answer to a call, with the readings that it was given by. -/
structure CheckAnswer where
  nowMs : UInt64
  /-- The threshold that the call had loaded. -/
  next : UInt64
  answer : Option UInt64

/-- The limiter, and what all of its callers are about. -/
structure LimiterState where
  limiter : LogLimiter
  calls : List CheckCall
  /-- The readings of the clock of the events that were allowed, the last one first. -/
  allowed : List UInt64
  answers : List CheckAnswer

/-- One operation of one of the callers. -/
inductive LimiterLabel where
  | call (nowMs : UInt64)
  | load (position : Nat) (next : UInt64)
  | exchange (position : Nat)
  /-- A call takes the suppressed events, or counts its own. -/
  | count (position : Nat)

namespace LimiterState

/-- What the threshold has been so far. -/
def written (state : LimiterState) : List UInt64 :=
  state.allowed.map state.limiter.nextAfter ++ [0]

/-- Whether a call whose load gave `next` may take the exchange, and it succeeds. -/
def wins (state : LimiterState) (nowMs next : UInt64) : Prop :=
  nowMs ≥ next ∧ state.limiter.nextAllowedMs = next

instance (state : LimiterState) (nowMs next : UInt64) : Decidable (state.wins nowMs next) :=
  inferInstanceAs (Decidable (_ ∧ _))

end LimiterState

/-- One operation on the cells of the limiter. -/
def limiterStep (state : LimiterState) : LimiterLabel → Option LimiterState
  | .call nowMs => some { state with calls := .called nowMs :: state.calls }
  | .load position next =>
    match state.calls[position]? with
    | some (.called nowMs) =>
      -- A relaxed load may give any value that the cell has had.
      if next ∈ state.written then
        some { state with calls := state.calls.set position (.loaded nowMs next) }
      else none
    | _ => none
  | .exchange position =>
    match state.calls[position]? with
    | some (.loaded nowMs next) =>
      if state.wins nowMs next then
        some { state with
          limiter := { state.limiter with nextAllowedMs := state.limiter.nextAfter nowMs }
          calls := state.calls.set position (.exchanged nowMs next)
          allowed := nowMs :: state.allowed }
      else some { state with calls := state.calls.set position (.refused nowMs next) }
    | _ => none
  | .count position =>
    match state.calls[position]? with
    | some (.exchanged nowMs next) =>
      some { state with
        limiter := { state.limiter with suppressed := 0 }
        calls := state.calls.eraseIdx position
        answers := ⟨nowMs, next, some state.limiter.suppressed⟩ :: state.answers }
    | some (.refused nowMs next) =>
      some { state with
        limiter := { state.limiter with suppressed := state.limiter.suppressed + 1 }
        calls := state.calls.eraseIdx position
        answers := ⟨nowMs, next, none⟩ :: state.answers }
    | _ => none

/-- A limiter that nobody has called. -/
def freshLimiter (intervalMs : UInt64) : LimiterState := ⟨.new intervalMs, [], [], []⟩

/-- Calls that run on their own get the answers of `check_at`. -/
theorem run_checkAt (state : LimiterState) (nowMs : UInt64)
    (current : state.limiter.nextAllowedMs ∈ state.written) :
    ∃ final, run limiterStep state
        [.call nowMs, .load 0 state.limiter.nextAllowedMs, .exchange 0, .count 0] = some final ∧
      final.limiter = (state.limiter.checkAt nowMs).1 ∧ final.calls = state.calls ∧
      final.answers.head?.map CheckAnswer.answer = some (state.limiter.checkAt nowMs).2 := by
  -- The load gives the current threshold, so the exchange succeeds if the event is due.
  have listed : state.limiter.nextAllowedMs ∈
      LimiterState.written { state with calls := .called nowMs :: state.calls } := current
  by_cases due : nowMs ≥ state.limiter.nextAllowedMs
  · simp [run, limiterStep, listed, LimiterState.wins, due, LogLimiter.checkAt,
      LogLimiter.nextAfter]
  · simp [run, limiterStep, listed, LimiterState.wins, due, LogLimiter.checkAt]

/-- Whether a call has taken the exchange and not yet the suppressed events. -/
def CheckCall.won : CheckCall → Bool
  | .exchanged _ _ => true
  | .called _ | .loaded _ _ | .refused _ _ => false

namespace LimiterState

/-- An allowed event whose interval has not ended, or that has moved a loaded threshold on. -/
def Passed (state : LimiterState) (nowMs next : UInt64) : Prop :=
  ∃ earlier ∈ state.allowed,
    nowMs < state.limiter.nextAfter earlier ∨ next < state.limiter.nextAfter earlier

/-- What the limiter promises about the events so far. -/
structure Limited (state : LimiterState) : Prop where
  /-- An event is allowed only behind the interval of every earlier one. -/
  apart : state.allowed.Pairwise fun later earlier => state.limiter.nextAfter earlier ≤ later
  /-- An event is suppressed only because of an allowed one. -/
  covered : ∀ answer ∈ state.answers, answer.answer = none → state.Passed answer.nowMs answer.next
  /-- Each allowed event is answered so once, or is about to be. -/
  logged : state.answers.countP (fun answer => answer.answer.isSome) +
    state.calls.countP CheckCall.won = state.allowed.length
  /-- Each suppressed event has been reported once, or is in the counter. -/
  reported : ((state.answers.filterMap CheckAnswer.answer).map UInt64.toNat).sum +
    state.limiter.suppressed.toNat ≡
      state.answers.countP (fun answer => answer.answer.isNone) [MOD 2 ^ 64]

/-- What a call under way has seen of the threshold. -/
def Sees (state : LimiterState) : CheckCall → Prop
  | .called _ | .exchanged _ _ => True
  | .loaded _ next => next ∈ state.written
  | .refused nowMs next => state.Passed nowMs next

/-- The threshold is the end of the last interval, and each call has seen an end of one. -/
structure Threshold (state : LimiterState) : Prop where
  current : state.limiter.nextAllowedMs ∈ state.written
  above : ∀ earlier ∈ state.allowed,
    state.limiter.nextAfter earlier ≤ state.limiter.nextAllowedMs
  seen : ∀ call ∈ state.calls, state.Sees call

variable {state next : LimiterState} {position : Nat} {nowMs loaded : UInt64}

/-- A threshold above a reading is the end of the interval of an allowed event. -/
theorem passed_of_written (written : loaded ∈ state.written) (early : nowMs < loaded) :
    ∃ earlier ∈ state.allowed, loaded = state.limiter.nextAfter earlier := by
  obtain listed | first := List.mem_append.mp written
  · obtain ⟨earlier, member, rfl⟩ := List.mem_map.mp listed
    exact ⟨earlier, member, rfl⟩
  · -- No reading is below the first threshold.
    rw [List.mem_singleton.mp first] at early
    exact absurd early (by simp)

/-- A call that does not win is behind an allowed event. -/
theorem Threshold.passed (threshold : state.Threshold) (written : loaded ∈ state.written)
    (lost : ¬ state.wins nowMs loaded) : state.Passed nowMs loaded := by
  -- Either the event is not due, or the threshold has gone up behind the load.
  by_cases due : loaded ≤ nowMs
  · have moved : state.limiter.nextAllowedMs ≠ loaded := fun same => lost ⟨due, same⟩
    have below : loaded < state.limiter.nextAllowedMs := by
      refine UInt64.lt_of_le_of_ne ?_ (Ne.symm moved)
      obtain listed | first := List.mem_append.mp written
      · obtain ⟨earlier, member, rfl⟩ := List.mem_map.mp listed
        exact threshold.above earlier member
      · rw [List.mem_singleton.mp first]
        exact UInt64.zero_le
    obtain ⟨earlier, member, same⟩ := passed_of_written threshold.current below
    exact ⟨earlier, member, .inr (same ▸ below)⟩
  · have early : nowMs < loaded := UInt64.not_le.mp due
    obtain ⟨earlier, member, same⟩ := passed_of_written written early
    exact ⟨earlier, member, .inl (same ▸ early)⟩

/-- What a call has seen stays seen when more events are allowed. -/
theorem Sees.mono {call : CheckCall} (sees : state.Sees call)
    (same : next.limiter.intervalMs = state.limiter.intervalMs)
    (more : state.allowed ⊆ next.allowed) : next.Sees call := by
  have after (nowMs : UInt64) : next.limiter.nextAfter nowMs = state.limiter.nextAfter nowMs := by
    rw [LogLimiter.nextAfter, LogLimiter.nextAfter, same]
  cases call with
  | called | exchanged => trivial
  | loaded nowMs loaded =>
    -- The values that the cell has had are still among them.
    obtain listed | first := List.mem_append.mp sees
    · obtain ⟨earlier, member, rfl⟩ := List.mem_map.mp listed
      exact List.mem_append_left _ (List.mem_map.mpr ⟨earlier, more member, after earlier⟩)
    · exact List.mem_append_right _ first
  | refused nowMs loaded =>
    obtain ⟨earlier, member, passed⟩ := sees
    exact ⟨earlier, more member, by rwa [after]⟩

/-- The threshold stays where it is when only the calls and the counter change. -/
theorem Threshold.of_calls (threshold : state.Threshold) {suppressed : UInt64}
    {calls : List CheckCall} {answers : List CheckAnswer}
    (seen : ∀ call ∈ calls, state.Sees call) :
    Threshold { state with limiter := { state.limiter with suppressed }, calls, answers } where
  current := threshold.current
  above := threshold.above
  seen := fun call member => (seen call member).mono rfl (List.Subset.refl _)

/-- The calls behind a replacement are the new one and old ones. -/
theorem Threshold.seen_set (threshold : state.Threshold) {call : CheckCall}
    (sees : state.Sees call) : ∀ other ∈ state.calls.set position call, state.Sees other := by
  intro other member
  obtain old | rfl := List.mem_or_eq_of_mem_set member
  · exact threshold.seen other old
  · exact sees

theorem Threshold.seen_erase (threshold : state.Threshold) :
    ∀ other ∈ state.calls.eraseIdx position, state.Sees other :=
  fun other member => threshold.seen other (List.mem_of_mem_eraseIdx member)

/-- The end of an interval is not before its event. -/
theorem le_nextAfter (limiter : LogLimiter) (nowMs : UInt64) : nowMs ≤ limiter.nextAfter nowMs := by
  have small := nowMs.toNat_lt
  rw [UInt64.le_iff_toNat_le, LogLimiter.nextAfter, addU64_toNat]
  omega

/-- An allowed event takes the threshold to the end of its own interval. -/
theorem Threshold.exchange (threshold : state.Threshold) (won : state.wins nowMs loaded) :
    Threshold { state with
      limiter := { state.limiter with nextAllowedMs := state.limiter.nextAfter nowMs }
      calls := state.calls.set position (.exchanged nowMs loaded)
      allowed := nowMs :: state.allowed } where
  current := List.mem_append_left _ (List.mem_map.mpr ⟨nowMs, List.mem_cons_self, rfl⟩)
  above := by
    intro earlier member
    obtain rfl | old := List.mem_cons.mp member
    · exact UInt64.le_refl _
    · -- The event was due behind all of the earlier intervals.
      have due : state.limiter.nextAllowedMs ≤ nowMs := won.2 ▸ won.1
      exact UInt64.le_trans (threshold.above earlier old)
        (UInt64.le_trans due (le_nextAfter state.limiter nowMs))
  seen := by
    intro call member
    have sees : state.Sees (.exchanged nowMs loaded) := trivial
    exact (threshold.seen_set sees call member).mono rfl (List.subset_cons_self _ _)

end LimiterState

/-- What one operation does to the limiter. -/
inductive LimiterMove (state : LimiterState) : LimiterState → Prop where
  | call (nowMs : UInt64) : LimiterMove state { state with calls := .called nowMs :: state.calls }
  | load {position : Nat} {nowMs next : UInt64}
      (found : state.calls[position]? = some (.called nowMs)) (written : next ∈ state.written) :
      LimiterMove state { state with calls := state.calls.set position (.loaded nowMs next) }
  | win {position : Nat} {nowMs next : UInt64}
      (found : state.calls[position]? = some (.loaded nowMs next)) (won : state.wins nowMs next) :
      LimiterMove state { state with
        limiter := { state.limiter with nextAllowedMs := state.limiter.nextAfter nowMs }
        calls := state.calls.set position (.exchanged nowMs next)
        allowed := nowMs :: state.allowed }
  | lose {position : Nat} {nowMs next : UInt64}
      (found : state.calls[position]? = some (.loaded nowMs next))
      (lost : ¬ state.wins nowMs next) :
      LimiterMove state { state with calls := state.calls.set position (.refused nowMs next) }
  | report {position : Nat} {nowMs next : UInt64}
      (found : state.calls[position]? = some (.exchanged nowMs next)) :
      LimiterMove state { state with
        limiter := { state.limiter with suppressed := 0 }
        calls := state.calls.eraseIdx position
        answers := ⟨nowMs, next, some state.limiter.suppressed⟩ :: state.answers }
  | suppress {position : Nat} {nowMs next : UInt64}
      (found : state.calls[position]? = some (.refused nowMs next)) :
      LimiterMove state { state with
        limiter := { state.limiter with suppressed := state.limiter.suppressed + 1 }
        calls := state.calls.eraseIdx position
        answers := ⟨nowMs, next, none⟩ :: state.answers }

theorem limiterStep_move {state next : LimiterState} {label : LimiterLabel}
    (stepped : limiterStep state label = some next) : LimiterMove state next := by
  -- A label other than a new call says what the call at its position is about to do.
  cases label with
  | call nowMs =>
    cases stepped
    exact .call nowMs
  | load position loaded =>
    simp only [limiterStep] at stepped
    split at stepped
    · rename_i found
      split at stepped
      · rename_i written
        cases stepped
        exact .load found written
      · cases stepped
    · cases stepped
  | exchange position =>
    simp only [limiterStep] at stepped
    split at stepped
    · rename_i found
      split at stepped
      · rename_i won
        cases stepped
        exact .win found won
      · rename_i lost
        cases stepped
        exact .lose found lost
    · cases stepped
  | count position =>
    simp only [limiterStep] at stepped
    split at stepped
    · rename_i found
      cases stepped
      exact .report found
    · rename_i found
      cases stepped
      exact .suppress found
    · cases stepped

namespace LimiterState

variable {state next : LimiterState}

/-- Every operation keeps the threshold at the end of the last interval. -/
theorem Threshold.move (threshold : state.Threshold) (moved : LimiterMove state next) :
    next.Threshold := by
  cases moved with
  | call nowMs =>
    have seen : ∀ call ∈ .called nowMs :: state.calls, state.Sees call := by
      intro call member
      obtain rfl | old := List.mem_cons.mp member
      · trivial
      · exact threshold.seen call old
    exact threshold.of_calls seen
  | load found written => exact threshold.of_calls (threshold.seen_set written)
  | win found won => exact threshold.exchange won
  | lose found lost =>
    have written : _ ∈ state.written := threshold.seen _ (List.mem_of_getElem? found)
    exact threshold.of_calls (threshold.seen_set (threshold.passed written lost))
  | report found => exact threshold.of_calls threshold.seen_erase
  | suppress found => exact threshold.of_calls threshold.seen_erase

/-- What was behind an allowed event stays so when more events are allowed. -/
theorem Passed.mono {nowMs loaded : UInt64} (passed : state.Passed nowMs loaded)
    (same : next.limiter.intervalMs = state.limiter.intervalMs)
    (more : state.allowed ⊆ next.allowed) : next.Passed nowMs loaded := by
  have sees : state.Sees (.refused nowMs loaded) := passed
  exact sees.mono same more

/-- The promises stay when only calls move that have not won. -/
theorem Limited.of_calls (limited : state.Limited) {calls : List CheckCall}
    (same : calls.countP CheckCall.won = state.calls.countP CheckCall.won) :
    Limited { state with calls } where
  apart := limited.apart
  covered := fun answer member none => (limited.covered answer member none).mono rfl
    (List.Subset.refl _)
  logged := by
    show _ + calls.countP CheckCall.won = _
    rw [same]
    exact limited.logged
  reported := limited.reported

/-- Every operation keeps the promises of the limiter. -/
theorem Limited.move (limited : state.Limited) (threshold : state.Threshold)
    (moved : LimiterMove state next) : next.Limited := by
  cases moved with
  | call nowMs => exact limited.of_calls (by simp [CheckCall.won])
  | load found written =>
    refine limited.of_calls ?_
    rw [countP_replaced found, countP_taken found]
    rfl
  | lose found lost =>
    refine limited.of_calls ?_
    rw [countP_replaced found, countP_taken found]
    rfl
  | win found won =>
    -- The event is due behind every interval, and is answered next.
    refine ⟨List.pairwise_cons.mpr ⟨fun earlier member => ?_, limited.apart⟩, ?_, ?_,
      limited.reported⟩
    · exact UInt64.le_trans (threshold.above earlier member) (won.2 ▸ won.1)
    · exact fun answer member none => (limited.covered answer member none).mono rfl
        (List.subset_cons_self _ _)
    · have before := limited.logged
      rw [countP_taken found] at before
      simp only [countP_replaced found, List.length_cons, CheckCall.won] at before ⊢
      simp at before ⊢
      omega
  | report found =>
    refine ⟨limited.apart, ?_, ?_, ?_⟩
    · intro answer member none
      obtain rfl | old := List.mem_cons.mp member
      · cases none
      · exact (limited.covered answer old none).mono rfl (List.Subset.refl _)
    · have before := limited.logged
      rw [countP_taken found] at before
      simp [CheckCall.won] at before ⊢
      omega
    · -- What was in the counter is in the answer now.
      have before := limited.reported
      simpa [add_comm] using before
  | suppress found =>
    refine ⟨limited.apart, ?_, ?_, ?_⟩
    · intro answer member none
      obtain rfl | old := List.mem_cons.mp member
      · exact threshold.seen _ (List.mem_of_getElem? found)
      · exact (limited.covered answer old none).mono rfl (List.Subset.refl _)
    · have before := limited.logged
      rw [countP_taken found] at before
      simp [CheckCall.won] at before ⊢
      omega
    · -- The counter wraps, as both sides of the congruence do.
      have before := limited.reported
      have counted : (state.limiter.suppressed + 1).toNat ≡ state.limiter.suppressed.toNat + 1
          [MOD 2 ^ 64] := by
        rw [UInt64.toNat_add]
        exact Nat.mod_modEq _ _
      simp only [List.filterMap_cons, List.countP_cons, Option.isNone_none, if_true]
      exact (counted.add_left _).trans (by simpa [add_assoc] using before.add_right 1)

/-- A window of the clock has one allowed event for each interval in it, and one more. -/
theorem Limited.window (limited : state.Limited) {start span : Nat}
    (spaced : 0 < state.limiter.intervalMs)
    (small : start + span + state.limiter.intervalMs.toNat < 2 ^ 64) :
    state.allowed.countP (fun nowMs => start ≤ nowMs.toNat ∧ nowMs.toNat ≤ start + span) ≤
      span / state.limiter.intervalMs.toNat + 1 := by
  rw [List.countP_eq_length_filter]
  generalize inside : state.allowed.filter _ = events
  have within : ∀ reading ∈ events.map UInt64.toNat, start ≤ reading ∧ reading ≤ start + span := by
    intro reading listed
    obtain ⟨nowMs, member, rfl⟩ := List.mem_map.mp listed
    rw [← inside] at member
    simpa using (List.mem_filter.mp member).2
  -- Below the end of the range, an interval ends where it should.
  have apart : Spaced state.limiter.intervalMs.toNat (events.map UInt64.toNat) := by
    refine List.pairwise_map.mpr ?_
    have sorted : events.Pairwise fun later earlier =>
        state.limiter.nextAfter earlier ≤ later :=
      inside ▸ limited.apart.sublist List.filter_sublist
    refine sorted.imp_of_mem fun {later earlier} _ member ended => ?_
    have bounds := within _ (List.mem_map_of_mem member)
    rw [UInt64.le_iff_toNat_le, LogLimiter.nextAfter, addU64_toNat] at ended
    omega
  simpa using apart.length_le (UInt64.lt_iff_toNat_lt.mp spaced) within

end LimiterState

/-- Both invariants hold in every state that the calls lead to. -/
theorem limiter_invariant {intervalMs : UInt64} {labels : List LimiterLabel} {final : LimiterState}
    (reached : run limiterStep (freshLimiter intervalMs) labels = some final) :
    final.limiter.intervalMs = intervalMs ∧ final.Threshold ∧ final.Limited := by
  have started : (freshLimiter intervalMs).Threshold ∧ (freshLimiter intervalMs).Limited := by
    refine ⟨⟨?_, ?_, ?_⟩, ⟨.nil, ?_, rfl, rfl⟩⟩
    · simp [freshLimiter, LimiterState.written, LogLimiter.new]
    all_goals simp [freshLimiter]
  have kept : ∀ state label next,
      (state.limiter.intervalMs = intervalMs ∧ state.Threshold ∧ state.Limited) →
      limiterStep state label = some next →
      next.limiter.intervalMs = intervalMs ∧ next.Threshold ∧ next.Limited := by
    intro state label next ⟨same, threshold, limited⟩ stepped
    have moved := limiterStep_move stepped
    refine ⟨?_, threshold.move moved, limited.move threshold moved⟩
    cases moved <;> exact same
  exact run_keeps kept ⟨rfl, started⟩ reached

/--
Whatever order the requests ask in, the warnings keep their distance and lose no event.

A window of the clock has one warning for each interval in it, and one more.
An event is suppressed only behind a warning, and is counted in one of them or in the counter.
-/
theorem warnings_limited {intervalMs : UInt64} {labels : List LimiterLabel} {final : LimiterState}
    (reached : run limiterStep (freshLimiter intervalMs) labels = some final) :
    final.Limited ∧ ∀ start span : Nat, 0 < intervalMs →
      start + span + intervalMs.toNat < 2 ^ 64 →
      final.allowed.countP (fun nowMs => start ≤ nowMs.toNat ∧ nowMs.toNat ≤ start + span) ≤
        span / intervalMs.toNat + 1 := by
  obtain ⟨rfl, threshold, limited⟩ := limiter_invariant reached
  exact ⟨limited, fun start span spaced small => limited.window spaced small⟩

/-- Two calls that race for one warning, and a third one within its interval. -/
def racingCalls : List LimiterLabel :=
  [.call 20, .load 0 0, .call 21, .load 0 0, .exchange 1, .exchange 0, .count 0, .call 25,
    .load 0 30, .exchange 0, .count 0, .count 0, .call 40, .load 0 30, .exchange 0, .count 0]

theorem warnings_limited_racing :
    ∃ final, run limiterStep (freshLimiter 10) racingCalls = some final ∧
      final.allowed = [40, 20] ∧
      final.answers.map CheckAnswer.answer = [some 0, some 2, none, none] ∧
      final.Limited ∧
      final.allowed.countP (fun nowMs => 15 ≤ nowMs.toNat ∧ nowMs.toNat ≤ 15 + 30) ≤ 30 / 10 + 1 := by
  have answered : (run limiterStep (freshLimiter 10) racingCalls).map (fun final =>
      (final.allowed, final.answers.map CheckAnswer.answer)) =
        some ([40, 20], [some 0, some 2, none, none]) := by
    decide
  obtain ⟨final, reached, fields⟩ := Option.map_eq_some_iff.mp answered
  have promised := warnings_limited reached
  exact ⟨final, reached, congrArg Prod.fst fields, congrArg Prod.snd fields, promised.1,
    promised.2 15 30 (by decide) (by decide)⟩

end Zradar.Otlp

import Zradar.Otlp.Transports

/-! A logs export that fails and is sent again: what its attempts store, and how often. -/

namespace Zradar.Otlp

open Auth

/-- The name of what a call writes. -/
def WriterCall.what : WriterCall → String
  | .insertSpans _ => "spans"
  | .insertMetrics _ => "metrics"
  | .insertScores _ => "scores"
  | .insertLogs _ => "logs"

section

variable (rows : RowEnv) (workspaceId : WorkspaceId) (request : ExportLogsServiceRequest)

/-- The calls of the writer that an attempt makes, one after the other: scores, then logs. -/
def logsCalls (draws : Draws) : List WriterCall :=
  let scores := extractScores rows workspaceId draws request
  let logs := convertLogs rows workspaceId draws request
  (if scores.isEmpty then [] else [.insertScores scores]) ++
    (if logs.isEmpty then [] else [.insertLogs logs])

/-- An attempt that fails, or is dropped, at one of its calls. -/
structure FailedAttempt where
  draws : Draws
  /-- The calls that were done. -/
  completed : Nat
  /-- Whether the next call has stored its rows all the same. -/
  stored : Bool

/-- An attempt ends at one of its calls, or is refused before the first of them. -/
def FailedAttempt.Fails (attempt : FailedAttempt) : Prop :=
  attempt.completed < (logsCalls rows workspaceId request attempt.draws).length ∨
    attempt.completed = 0 ∧ attempt.stored = false

/-- The calls whose rows a failed attempt leaves behind. -/
def FailedAttempt.storedCalls (attempt : FailedAttempt) : List WriterCall :=
  (logsCalls rows workspaceId request attempt.draws).take
    (attempt.completed + if attempt.stored then 1 else 0)

/-- All calls whose rows are stored once an attempt succeeds behind some that failed. -/
def storedByAll (failed : List FailedAttempt) (last : Draws) : List WriterCall :=
  failed.flatMap (FailedAttempt.storedCalls rows workspaceId request) ++
    logsCalls rows workspaceId request last

end

/-- How often the log record at a position of its request is stored. -/
def logCopies (index : Nat) (calls : List WriterCall) : Nat :=
  calls.countP fun call => match call with
    | .insertLogs logs => index < logs.length
    | _ => false

/-- The trace, the name and the value of a score. -/
def scoreKey (score : EvaluationScore) : String × String × F64 :=
  (score.traceId, score.name, score.value)

/-- The scores that a call writes. -/
def WriterCall.scores : WriterCall → List EvaluationScore
  | .insertScores scores => scores
  | _ => []

/-- How often a score with some trace, name and value is stored. -/
def scoreCopies (key : String × String × F64) (calls : List WriterCall) : Nat :=
  ((calls.flatMap WriterCall.scores).map scoreKey).count key

/-- Every log record and every score of a request is stored exactly once. -/
structure StoredOnce (rows : RowEnv) (workspaceId : WorkspaceId) (request : ExportLogsServiceRequest)
    (calls : List WriterCall) : Prop where
  logs : ∀ index < request.records.length, logCopies index calls = 1
  scores : ∀ draws key, scoreCopies key calls =
    ((extractScores rows workspaceId draws request).map scoreKey).count key

/-- Make calls of the writer until one fails. -/
def makeCalls {ε : Type} (env : IngestEnv) (failed : WriterCall → WriterError → ε) :
    List WriterCall → EStateM ε IngestState Unit
  | [] => pure ()
  | call :: calls => do
    callWriter env call (failed call)
    makeCalls env failed calls

section Handlers

variable {env : IngestEnv} {headers : Headers} {request : ExportLogsServiceRequest}

/-- Behind its checks, the gRPC service makes the calls of an attempt. -/
theorem exportLogsGrpc_calls (layered : Bool) :
    exportLogsGrpc env headers layered request =
      (admitGrpc env headers layered (validateLogsRequest request) .logs
        (fun _ => request.rawLogCount) >>= fun admitted =>
          makeCalls env (fun call => writeErrorStatus call.what)
            (logsCalls env.rows admitted.1.workspaceId request env.draws)) := by
  -- Scores are written first, if there are any, and then the logs.
  unfold exportLogsGrpc writeRows logsCalls
  congr 1
  funext admitted
  obtain ⟨context, settings⟩ := admitted
  simp only
  split_ifs <;> simp [makeCalls, WriterCall.what]

/-- So does the HTTP handler. -/
theorem exportLogsHttp_calls :
    exportLogsHttp env headers request =
      (admitHttp env headers (validateLogsRequest request) .logs
        (fun _ => request.rawLogCount) >>= fun admitted =>
          makeCalls env (fun _ => writeErrorResponse)
            (logsCalls env.rows admitted.1.workspaceId request env.draws)) := by
  -- The handler makes the same calls as the service and differs in its answers only.
  unfold exportLogsHttp writeRows logsCalls
  congr 1
  funext admitted
  obtain ⟨context, settings⟩ := admitted
  simp only
  split_ifs <;> simp [makeCalls]

end Handlers

section Keys

variable {rows : RowEnv} {workspaceId : WorkspaceId}

/-- What decides whether a draft is a score, and under which key. -/
def ScoreDraft.gist (draft : ScoreDraft) : (String × String × F64) × Bool × Bool :=
  (scoreKey draft.score, draft.hasScoreAttrs, draft.hasRequiredFields)

/-- A field is set alike in drafts that differ only in other things. -/
theorem gist_setField {first second : ScoreDraft} (same : first.gist = second.gist)
    (field : String) (value : Value) :
    (first.setField rows field value).gist = (second.setField rows field value).gist := by
  simp only [ScoreDraft.gist, scoreKey, Prod.mk.injEq] at same ⊢
  obtain ⟨⟨trace, name, value⟩, attrs, required⟩ := same
  unfold ScoreDraft.setField
  split <;> simp [trace, name, value, attrs, required]

theorem gist_read {first second : ScoreDraft} (same : first.gist = second.gist) (pair : KeyValue) :
    (first.read rows pair).gist = (second.read rows pair).gist := by
  -- Only the pairs of a score change the draft, and they set what is not drawn at random.
  unfold ScoreDraft.read
  by_cases scored : startsWith pair.key "score." = true
  · have marked : ({ first with hasScoreAttrs := true } : ScoreDraft).gist =
        ({ second with hasScoreAttrs := true } : ScoreDraft).gist := by
      simp only [ScoreDraft.gist, Prod.mk.injEq] at same ⊢
      exact ⟨same.1, trivial, same.2.2⟩
    simp only [scored, if_true]
    cases pair.value.bind AnyValue.value with
    | none => exact marked
    | some value => exact gist_setField marked _ value
  · rw [if_neg scored, if_neg scored]
    exact same

/-- The gist of a draft does not depend on the clock and on random ids. -/
theorem gist_draftOf (log : OtlpLogRecord) (now later : Int64) (id other : Uuid) :
    (draftOf rows workspaceId log now id).gist = (draftOf rows workspaceId log later other).gist := by
  unfold draftOf
  -- The pairs are read in their order, from two drafts that share their gist.
  have fold : ∀ (pairs : List KeyValue) (first second : ScoreDraft), first.gist = second.gist →
      (pairs.foldl (ScoreDraft.read rows) first).gist =
        (pairs.foldl (ScoreDraft.read rows) second).gist := by
    intro pairs
    induction pairs with
    | nil => exact fun _ _ same => same
    | cons pair pairs ih => exact fun _ _ same => ih _ _ (gist_read same pair)
  exact fold _ _ _ rfl

/-- The key of a parsed score, by the gist of its draft. -/
theorem map_scoreKey_parseScore (log : OtlpLogRecord) (now : Int64) (id evalId : Uuid) :
    (parseScore rows workspaceId log now id evalId).map scoreKey =
      let gist := (draftOf rows workspaceId log now id).gist
      if gist.2.1 && gist.2.2 && gist.1.2.1 ≠ "" then some gist.1 else none := by
  unfold parseScore
  rw [apply_ite (Option.map scoreKey)]
  rfl

/-- The same request carries the same scores at every attempt. -/
theorem map_scoreKey_extractScores (request : ExportLogsServiceRequest) (first second : Draws) :
    (extractScores rows workspaceId first request).map scoreKey =
      (extractScores rows workspaceId second request).map scoreKey := by
  -- The key of a score does not depend on the clock or on the random ids.
  unfold extractScores
  rw [List.map_filterMap, List.map_filterMap]
  apply List.filterMap_congr
  rintro ⟨⟨resource, record⟩, index⟩ _
  simp only [map_scoreKey_parseScore]
  rw [gist_draftOf record (first.scoreNow index) (second.scoreNow index)]

end Keys

section Copies

variable {rows : RowEnv} {workspaceId : WorkspaceId} {request : ExportLogsServiceRequest}

theorem logCopies_append (index : Nat) (first second : List WriterCall) :
    logCopies index (first ++ second) = logCopies index first + logCopies index second :=
  List.countP_append

theorem scoreCopies_append (key : String × String × F64) (first second : List WriterCall) :
    scoreCopies key (first ++ second) = scoreCopies key first + scoreCopies key second := by
  unfold scoreCopies
  rw [List.flatMap_append, List.map_append, List.count_append]

/-- A request without log records has nothing to store. -/
theorem logsCalls_of_empty (empty : request.records = []) (draws : Draws) :
    logsCalls rows workspaceId request draws = [] := by
  simp [logsCalls, extractScores, convertLogs, empty]

/-- The calls of one attempt hold each log record once. -/
theorem logCopies_logsCalls (draws : Draws) {index : Nat} (within : index < request.records.length) :
    logCopies index (logsCalls rows workspaceId request draws) = 1 := by
  -- Each record becomes one row, and all rows are written by one call.
  have length : (convertLogs rows workspaceId draws request).length = request.records.length := by
    simp [convertLogs]
  have filled : (convertLogs rows workspaceId draws request).isEmpty = false := by
    rw [List.isEmpty_eq_false_iff, ← List.length_pos_iff]
    omega
  unfold logsCalls
  simp only [filled]
  rw [logCopies_append]
  split_ifs <;> simp_all [logCopies]

/-- The calls of one attempt hold the scores of the request. -/
theorem scoreCopies_logsCalls (draws : Draws) (key : String × String × F64) :
    scoreCopies key (logsCalls rows workspaceId request draws) =
      ((extractScores rows workspaceId draws request).map scoreKey).count key := by
  -- The call for the logs writes no score.
  unfold logsCalls
  rw [scoreCopies_append]
  have logs : scoreCopies key (if (convertLogs rows workspaceId draws request).isEmpty then []
      else [.insertLogs (convertLogs rows workspaceId draws request)]) = 0 := by
    split_ifs <;> rfl
  rw [logs, Nat.add_zero]
  split_ifs with none
  · simp [scoreCopies, List.isEmpty_iff.mp none]
  · simp [scoreCopies, WriterCall.scores]

variable (rows workspaceId)

/-- An attempt that ends behind its first call leaves a score or a log record behind. -/
theorem copies_of_partial {attempt : FailedAttempt} (nonempty : request.records ≠ [])
    (part : ¬ (attempt.completed = 0 ∧ attempt.stored = false)) :
    (∃ key, 0 < scoreCopies key (attempt.storedCalls rows workspaceId request)) ∨
      0 < logCopies 0 (attempt.storedCalls rows workspaceId request) := by
  have positive : ∃ more, attempt.completed + (if attempt.stored then 1 else 0) = more + 1 := by
    refine Nat.exists_eq_add_one.mpr ?_
    cases stored : attempt.stored with
    | true => simp
    | false =>
      have some : attempt.completed ≠ 0 := fun zero => part ⟨zero, stored⟩
      simpa using Nat.pos_of_ne_zero some
  obtain ⟨more, count⟩ := positive
  have logs : (convertLogs rows workspaceId attempt.draws request).isEmpty = false := by
    rw [List.isEmpty_eq_false_iff]
    simpa [convertLogs] using nonempty
  unfold FailedAttempt.storedCalls
  rw [count]
  -- The first call is that of the scores, or there are none and it is that of the logs.
  cases scores : extractScores rows workspaceId attempt.draws request with
  | nil =>
    refine .inr ?_
    have single : 0 < (convertLogs rows workspaceId attempt.draws request).length :=
      List.length_pos_iff.mpr (List.isEmpty_eq_false_iff.mp logs)
    simp [logsCalls, scores, logs, logCopies, single]
  | cons score others =>
    refine .inl ⟨scoreKey score, ?_⟩
    simp only [logsCalls, scores, List.isEmpty_cons, Bool.false_eq_true, if_false,
      List.singleton_append, List.take_succ_cons]
    simp [scoreCopies, WriterCall.scores]

/-- What one attempt leaves behind is among what all of them do. -/
theorem storedByAll_of_mem {failed : List FailedAttempt} {attempt : FailedAttempt}
    (member : attempt ∈ failed) (last : Draws) : ∃ before after,
      storedByAll rows workspaceId request failed last =
        before ++ attempt.storedCalls rows workspaceId request ++ after ++
          logsCalls rows workspaceId request last := by
  obtain ⟨before, after, rfl⟩ := List.append_of_mem member
  refine ⟨before.flatMap (FailedAttempt.storedCalls rows workspaceId request),
    after.flatMap (FailedAttempt.storedCalls rows workspaceId request), ?_⟩
  simp [storedByAll, List.append_assoc]

end Copies

/--
Every log record and every score of a request that is sent until it succeeds is stored exactly
once if and only if there is none, or no attempt that failed has stored anything.
-/
theorem stored_once_iff (rows : RowEnv) (workspaceId : WorkspaceId)
    (request : ExportLogsServiceRequest) (failed : List FailedAttempt) (last : Draws) :
    StoredOnce rows workspaceId request (storedByAll rows workspaceId request failed last) ↔
      request.records = [] ∨ ∀ attempt ∈ failed, attempt.completed = 0 ∧ attempt.stored = false := by
  constructor
  · intro once
    by_contra neither
    obtain ⟨nonempty, unclean⟩ := not_or.mp neither
    simp only [not_forall] at unclean
    obtain ⟨attempt, member, part⟩ := unclean
    obtain ⟨before, after, all⟩ := storedByAll_of_mem rows workspaceId member last
    rw [all] at once
    obtain ⟨key, scored⟩ | logged := copies_of_partial rows workspaceId nonempty part
    · -- The scores of the last attempt are a second copy.
      have copies := once.scores last key
      simp only [scoreCopies_append, scoreCopies_logsCalls] at copies
      omega
    · have copies := once.logs 0 (List.length_pos_iff.mpr nonempty)
      rw [logCopies_append, logCopies_append, logCopies_append,
        logCopies_logsCalls last (List.length_pos_iff.mpr nonempty)] at copies
      omega
  · intro clean
    -- The failed attempts leave nothing, so that the last one alone counts.
    have alone : failed.flatMap (FailedAttempt.storedCalls rows workspaceId request) = [] := by
      refine List.flatMap_eq_nil_iff.mpr fun attempt member => ?_
      obtain empty | none := clean
      · rw [FailedAttempt.storedCalls, logsCalls_of_empty empty, List.take_nil]
      · obtain ⟨completed, stored⟩ := none attempt member
        simp [FailedAttempt.storedCalls, completed, stored]
    rw [storedByAll, alone, List.nil_append]
    refine ⟨fun index within => logCopies_logsCalls last within, fun draws key => ?_⟩
    rw [scoreCopies_logsCalls, map_scoreKey_extractScores request last draws]

/-- An attribute with a text. -/
def textAttribute (key text : String) : KeyValue := .mk key (some (.mk (some (.stringValue text))))

/-- A request of one log record, which is a score. -/
def scoredLog : ExportLogsServiceRequest :=
  ⟨[⟨none, [⟨[{
    timeUnixNano := 0
    severityNumber := 9
    severityText := ""
    body := none
    attributes := [textAttribute "score.trace_id" "4f1c", textAttribute "score.name" "accuracy"]
    traceId := []
    spanId := [] }]⟩]⟩]⟩

/-- A request whose logs cannot be written at first has its score stored twice. -/
theorem score_is_stored_twice :
    ¬ ∀ rows workspaceId request failed last,
      (∀ attempt ∈ failed, FailedAttempt.Fails rows workspaceId request attempt) →
        StoredOnce rows workspaceId request
          (storedByAll rows workspaceId request failed last) := by
  intro always
  have once := always plainRowEnv Uuid.nil scoredLog [⟨plainDraws, 1, false⟩] plainDraws
    (List.forall_mem_singleton.mpr (.inl (by decide +kernel)))
  exact absurd (once.scores plainDraws ("4f1c", "accuracy", F64.zero)) (by decide +kernel)

end Zradar.Otlp

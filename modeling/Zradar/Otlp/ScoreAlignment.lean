import Zradar.Otlp.RowCaps

/-! The scores of a request beside its log records: the fields they need, and their times. -/

namespace Zradar.Otlp

section

variable (env : RowEnv)

/-- The text that an attribute has for a field of a score. -/
def fieldText (field : String) (pair : KeyValue) : Option String :=
  if pair.key = "score." ++ field then (pair.value.bind AnyValue.value).map (getStringValue env)
  else none

/-- The texts that a log record has for a field of a score. -/
def fieldTexts (field : String) (log : OtlpLogRecord) : List String :=
  log.attributes.filterMap (fieldText env field)

/-- A record that is taken for a score: it has an id of a trace somewhere, and a name at the end. -/
def IsScore (log : OtlpLogRecord) : Prop :=
  (∃ text ∈ fieldTexts env "trace_id" log, text ≠ "") ∧ (fieldTexts env "name" log).getLastD "" ≠ ""

variable (workspaceId : WorkspaceId) (draws : Draws) (request : ExportLogsServiceRequest)

/-- What is extracted from each log record of a request. -/
def scoresByRecord : List (Option EvaluationScore) :=
  request.records.zipIdx.map fun ((_, record), index) =>
    parseScore env workspaceId record (draws.scoreNow index) (draws.scoreId index)
      (draws.evalId index)

/-- The scores have their fields, come at most one for each record, and share the times of the
records. -/
structure ScoresAligned : Prop where
  named : ∀ score ∈ extractScores env workspaceId draws request, score.traceId ≠ "" ∧ score.name ≠ ""
  order : extractScores env workspaceId draws request =
    (scoresByRecord env workspaceId draws request).reduceOption
  times : List.Forall₂ (fun log score => ∀ found ∈ score, found.timestamp = log.timestamp)
    (convertLogs env workspaceId draws request) (scoresByRecord env workspaceId draws request)

/-- Each record that is taken for a score has an id of a trace at the end, and a time of its own. -/
def ScoresComplete : Prop :=
  ∀ record ∈ request.records.zipIdx, IsScore env record.1.2 →
    (fieldTexts env "trace_id" record.1.2).getLastD "" ≠ "" ∧
      (record.1.2.timeUnixNano ≠ 0 ∨ draws.logNow record.2 = 0)

end

section

variable {env : RowEnv}

/-- A field is set by an attribute of its name only. -/
theorem setField_eq (draft : ScoreDraft) (field : String) (value : Value) :
    (draft.setField env field value).score.traceId =
        (if field = "trace_id" then getStringValue env value else draft.score.traceId) ∧
      (draft.setField env field value).score.name =
        (if field = "name" then getStringValue env value else draft.score.name) ∧
      (draft.setField env field value).hasRequiredFields =
        (draft.hasRequiredFields || (field = "trace_id" && getStringValue env value ≠ "")) ∧
      (draft.setField env field value).hasScoreAttrs = draft.hasScoreAttrs := by
  unfold ScoreDraft.setField
  split <;> simp_all

/-- An attribute of a score has its text for the field that its key ends with. -/
theorem fieldText_of_startsWith {pair : KeyValue} (starts : startsWith pair.key "score." = true)
    (field : String) : fieldText env field pair =
      if String.ofList (pair.key.toList.drop 6) = field then
        (pair.value.bind AnyValue.value).map (getStringValue env)
      else none := by
  -- Behind the prefix, one key is another exactly if the rests are the same.
  have key : pair.key = "score." ++ String.ofList (pair.key.toList.drop 6) :=
    eq_append_of_startsWith starts
  have same : pair.key = "score." ++ field ↔ String.ofList (pair.key.toList.drop 6) = field := by
    constructor
    · intro named
      have texts := congrArg String.toList (key.symm.trans named)
      rw [String.toList_append, String.toList_append] at texts
      exact String.toList_injective (List.append_cancel_left texts)
    · intro rest
      rw [← rest]
      exact key
  unfold fieldText
  simp only [same]

/-- What reading an attribute does to the fields that decide about a score. -/
theorem read_eq (draft : ScoreDraft) (pair : KeyValue) :
    (draft.read env pair).score.traceId =
        (fieldText env "trace_id" pair).getD draft.score.traceId ∧
      (draft.read env pair).score.name = (fieldText env "name" pair).getD draft.score.name ∧
      (draft.read env pair).hasRequiredFields = (draft.hasRequiredFields ||
        (fieldText env "trace_id" pair).any fun text => text ≠ "") ∧
      (draft.read env pair).hasScoreAttrs =
        (draft.hasScoreAttrs || startsWith pair.key "score.") := by
  unfold ScoreDraft.read
  by_cases starts : startsWith pair.key "score." = true
  · rw [if_pos starts, fieldText_of_startsWith starts, fieldText_of_startsWith starts, starts,
      Bool.or_true]
    cases pair.value.bind AnyValue.value with
    | none => simp
    | some value =>
      obtain ⟨trace, name, required, attrs⟩ := @setField_eq env
        { draft with hasScoreAttrs := true } (.ofList (pair.key.toList.drop 6)) value
      refine ⟨trace.trans ?_, name.trans ?_, required.trans ?_, attrs⟩
      · split <;> rfl
      · split <;> rfl
      · split <;> simp_all
  · -- An attribute of something else is passed by.
    have other (field : String) : fieldText env field pair = none := by
      refine if_neg fun key => starts ?_
      rw [key]
      exact startsWith_append _ _
    simp [starts, other]

/-- The last of some texts, where a text counts only if nothing comes after it. -/
theorem getLastD_filterMap_cons {α β : Type} (find : α → Option β) (item : α) (items : List α)
    (start : β) : ((item :: items).filterMap find).getLastD start =
      (items.filterMap find).getLastD ((find item).getD start) := by
  rw [List.filterMap_cons]
  cases find item with
  | none => rfl
  | some found => exact List.getLastD_cons ..

/-- The fields of a draft are the last texts for them, and its flag remembers any text. -/
theorem foldl_read_eq (pairs : List KeyValue) (draft : ScoreDraft) :
    (pairs.foldl (ScoreDraft.read env) draft).score.traceId =
        (pairs.filterMap (fieldText env "trace_id")).getLastD draft.score.traceId ∧
      (pairs.foldl (ScoreDraft.read env) draft).score.name =
        (pairs.filterMap (fieldText env "name")).getLastD draft.score.name ∧
      (pairs.foldl (ScoreDraft.read env) draft).hasRequiredFields = (draft.hasRequiredFields ||
        (pairs.filterMap (fieldText env "trace_id")).any fun text => text ≠ "") ∧
      (pairs.foldl (ScoreDraft.read env) draft).hasScoreAttrs =
        (draft.hasScoreAttrs || pairs.any fun pair => startsWith pair.key "score.") := by
  -- Each attribute is read into the draft that those before it have left.
  induction pairs generalizing draft with
  | nil => simp
  | cons pair pairs ih =>
    obtain ⟨trace, name, required, attrs⟩ := ih (draft.read env pair)
    obtain ⟨headTrace, headName, headRequired, headAttrs⟩ := @read_eq env draft pair
    rw [List.foldl_cons, trace, name, required, attrs, headTrace, headName, headRequired, headAttrs,
      List.any_cons, Bool.or_assoc, Bool.or_assoc]
    refine ⟨(getLastD_filterMap_cons _ _ _ _).symm, (getLastD_filterMap_cons _ _ _ _).symm, ?_, rfl⟩
    cases found : fieldText env "trace_id" pair <;> simp [found]

/-- A text for a field comes from an attribute of a score. -/
theorem startsWith_of_fieldText {field text : String} {pair : KeyValue}
    (found : fieldText env field pair = some text) : startsWith pair.key "score." = true := by
  unfold fieldText at found
  split_ifs at found with key
  rw [key]
  exact startsWith_append _ _

variable {workspaceId : WorkspaceId} (log : OtlpLogRecord) (now : Int64) (id evalId : Uuid)

/-- A draft starts without any text. -/
theorem draftOf_eq :
    (draftOf env workspaceId log now id).score.traceId =
        (fieldTexts env "trace_id" log).getLastD "" ∧
      (draftOf env workspaceId log now id).score.name = (fieldTexts env "name" log).getLastD "" ∧
      (draftOf env workspaceId log now id).hasRequiredFields =
        ((fieldTexts env "trace_id" log).any fun text => text ≠ "") ∧
      (draftOf env workspaceId log now id).hasScoreAttrs =
        log.attributes.any fun pair => startsWith pair.key "score." := by
  exact foldl_read_eq log.attributes _

/-- The checks on a draft are those that make a record a score. -/
theorem isScore_iff : IsScore env log ↔
    ((draftOf env workspaceId log now id).hasScoreAttrs &&
      (draftOf env workspaceId log now id).hasRequiredFields &&
      (draftOf env workspaceId log now id).score.name ≠ "") = true := by
  obtain ⟨_, name, required, attrs⟩ := @draftOf_eq env workspaceId log now id
  rw [name, required, attrs, IsScore]
  simp only [Bool.and_eq_true, List.any_eq_true, decide_eq_true_eq]
  constructor
  · intro ⟨⟨text, member, filled⟩, named⟩
    -- The attribute with the text is one of a score.
    obtain ⟨pair, inside, found⟩ := List.mem_filterMap.mp member
    exact ⟨⟨⟨pair, inside, startsWith_of_fieldText found⟩, text, member, filled⟩, named⟩
  · intro ⟨⟨_, filled⟩, named⟩
    exact ⟨filled, named⟩

/-- A score is what a record gives that is taken for one, with its last texts and its time. -/
theorem mem_parseScore {score : EvaluationScore}
    (found : score ∈ parseScore env workspaceId log now id evalId) :
    IsScore env log ∧ score.traceId = (fieldTexts env "trace_id" log).getLastD "" ∧
      score.name = (fieldTexts env "name" log).getLastD "" ∧
      score.timestamp = log.timeUnixNano.toInt64 := by
  obtain ⟨trace, name, _, _⟩ := @draftOf_eq env workspaceId log now id
  have decides := @isScore_iff env workspaceId log now id
  obtain ⟨complete, same⟩ := Option.ite_none_right_eq_some.mp found
  rw [← Option.some.inj same]
  exact ⟨decides.mpr complete, trace, name, rfl⟩

theorem parseScore_isSome (isScore : IsScore env log) :
    ∃ score, score ∈ parseScore env workspaceId log now id evalId := by
  have complete := (@isScore_iff env workspaceId log now id).mp isScore
  exact ⟨_, if_pos complete⟩

/-- The time of a log record is the clock's if it has none of its own. -/
theorem timestamp_eq_iff (serviceName agentName resourceJson : String) :
    log.timeUnixNano.toInt64 =
        (convertLogRecord env workspaceId log serviceName agentName resourceJson now id).timestamp ↔
      log.timeUnixNano ≠ 0 ∨ now = 0 := by
  change log.timeUnixNano.toInt64 = (if log.timeUnixNano > 0 then log.timeUnixNano.toInt64 else now) ↔ _
  by_cases missing : log.timeUnixNano = 0
  · rw [missing, if_neg (by decide)]
    simp [eq_comm]
  · have positive : log.timeUnixNano > 0 := UInt64.pos_iff_ne_zero.mpr missing
    rw [if_pos positive]
    exact iff_of_true rfl (.inl missing)

end

section

variable (env : RowEnv) (workspaceId : WorkspaceId) (draws : Draws)
  (request : ExportLogsServiceRequest)

/-- The times of scores and records are compared record by record. -/
theorem times_iff :
    List.Forall₂ (fun log score => ∀ found ∈ score, found.timestamp = log.timestamp)
        (convertLogs env workspaceId draws request) (scoresByRecord env workspaceId draws request) ↔
      ∀ record ∈ request.records.zipIdx, IsScore env record.1.2 →
        record.1.2.timeUnixNano ≠ 0 ∨ draws.logNow record.2 = 0 := by
  unfold convertLogs scoresByRecord
  rw [List.forall₂_map_left_iff, List.forall₂_map_right_iff, List.forall₂_same]
  apply forall₂_congr
  intro record _
  constructor
  · intro same isScore
    -- The score of the record has the time that the record brings along.
    obtain ⟨score, found⟩ := @parseScore_isSome env workspaceId record.1.2
      (draws.scoreNow record.2) (draws.scoreId record.2) (draws.evalId record.2) isScore
    obtain ⟨_, _, _, time⟩ := mem_parseScore _ _ _ _ found
    exact (timestamp_eq_iff _ _ _ _ _ _).mp (time.symm.trans (same score found))
  · intro timed score found
    obtain ⟨isScore, _, _, time⟩ := mem_parseScore _ _ _ _ found
    exact time.trans ((timestamp_eq_iff _ _ _ _ _ _).mpr (timed isScore))

/-- Every score has its fields exactly if the last id of a trace is not empty. -/
theorem named_iff :
    (∀ score ∈ extractScores env workspaceId draws request, score.traceId ≠ "" ∧ score.name ≠ "") ↔
      ∀ record ∈ request.records.zipIdx, IsScore env record.1.2 →
        (fieldTexts env "trace_id" record.1.2).getLastD "" ≠ "" := by
  -- The name is never empty, since a record without one is not taken for a score.
  unfold extractScores
  constructor
  · intro named record member isScore
    obtain ⟨score, found⟩ := @parseScore_isSome env workspaceId record.1.2
      (draws.scoreNow record.2) (draws.scoreId record.2) (draws.evalId record.2) isScore
    obtain ⟨_, trace, _, _⟩ := mem_parseScore _ _ _ _ found
    rw [← trace]
    exact (named score (List.mem_filterMap.mpr ⟨record, member, found⟩)).1
  · intro filled score extracted
    obtain ⟨record, member, found⟩ := List.mem_filterMap.mp extracted
    obtain ⟨isScore, trace, name, _⟩ := mem_parseScore _ _ _ _ found
    rw [trace, name]
    exact ⟨filled record member isScore, isScore.2⟩

/-- Scores are well formed and aligned with their records exactly if each record that is taken for a
score is complete. -/
theorem scores_aligned_iff :
    ScoresAligned env workspaceId draws request ↔ ScoresComplete env draws request := by
  -- Names and times are the two conditions; the order of the records is kept in any case.
  constructor
  · intro aligned record member isScore
    exact ⟨(named_iff env workspaceId draws request).mp aligned.named record member isScore,
      (times_iff env workspaceId draws request).mp aligned.times record member isScore⟩
  · intro complete
    refine ⟨(named_iff env workspaceId draws request).mpr ?_, ?_,
      (times_iff env workspaceId draws request).mpr ?_⟩
    · exact fun record member isScore => (complete record member isScore).1
    · change _ = (scoresByRecord env workspaceId draws request).filterMap id
      rw [extractScores, scoresByRecord, List.filterMap_map]
      rfl
    · exact fun record member isScore => (complete record member isScore).2

end

/-- A request of one log record with some texts. -/
def scoreRequest (timeUnixNano : UInt64) (texts : List (String × String)) :
    ExportLogsServiceRequest :=
  ⟨[⟨none, [⟨[⟨timeUnixNano, 0, "", none,
    texts.map fun text => ⟨text.1, some (.mk (some (.stringValue text.2)))⟩, [], []⟩]⟩]⟩]⟩

/-- A score without a time is not stored beside its record, and one whose id of a trace is emptied
again is stored without it. -/
theorem scores_misaligned :
    ¬ ScoresAligned plainRowEnv Uuid.nil
        { plainDraws with logNow := fun _ => 5, scoreNow := fun _ => 5 }
        (scoreRequest 0 [("score.trace_id", "t"), ("score.name", "n")]) ∧
      ¬ ScoresAligned plainRowEnv Uuid.nil plainDraws
        (scoreRequest 1 [("score.trace_id", "t"), ("score.name", "n"), ("score.trace_id", "")]) := by
  -- The first record lacks a time, and the second has its trace emptied by a later attribute.
  constructor
  · intro aligned
    have timed := (times_iff _ _ _ _).mp aligned.times _ (List.mem_singleton.mpr rfl)
      ⟨⟨"t", by decide, by decide⟩, by decide⟩
    exact absurd timed (by decide)
  · intro aligned
    have filled := (named_iff _ _ _ _).mp aligned.named _ (List.mem_singleton.mpr rfl)
      ⟨⟨"t", by decide, by decide⟩, by decide⟩
    exact absurd filled (by decide)

end Zradar.Otlp

import Mathlib.Data.List.Forall2
import Zradar.Lib.SqlLexer
import Zradar.Query.Reader

/-! The texts of WHERE clauses, which are read back as the conditions that they are made from. -/

namespace Zradar.Query

/-- The condition that a column has a text. -/
def equalsText (name text : String) : String := name ++ " = '" ++ escapeSqlStr text ++ "'"

/-- The condition that a column has a text somewhere. -/
def likeText (name text : String) : String := name ++ " LIKE '%" ++ escapeSqlStr text ++ "%'"

/-- The condition on the workspace, whose name is not escaped. -/
def workspaceText (workspaceId : Uuid) : String := "workspace_id = '" ++ workspaceId.toText ++ "'"

/-- The condition that a column has one of some texts. -/
def oneOfText (name : String) (texts : List String) : String :=
  let list := texts.map fun text => "'" ++ escapeSqlStr text ++ "'"
  name ++ " IN (" ++ ", ".intercalate list ++ ")"

def equalsTextGiven (name : String) (text : Option String) : List String :=
  (text.map (equalsText name)).toList

def withinTextGiven (timeRange : Option TimeRange) : List String :=
  match timeRange with
  | some range =>
    ["timestamp >= " ++ range.start.toInt.repr, "timestamp <= " ++ range.ending.toInt.repr]
  | none => []

/-- The texts of the conditions of a span query. -/
def StorageSpanFilters.conditionTexts (filters : StorageSpanFilters) (workspaceId : Uuid) :
    List String :=
  [workspaceText workspaceId] ++
  equalsTextGiven "trace_id" filters.traceId ++
  equalsTextGiven "service_name" filters.serviceName ++
  (filters.spanName.map (likeText "span_name")).toList ++
  ((filters.spanTypes.filter fun types => !types.isEmpty).map (oneOfText "span_type")).toList ++
  equalsTextGiven "status_code" filters.status ++
  withinTextGiven filters.timeRange ++
  equalsTextGiven "llm_model" filters.llmModel ++
  equalsTextGiven "llm_provider" filters.llmProvider ++
  equalsTextGiven "llm_response_model" filters.llmResponseModel ++
  equalsTextGiven "agent_name" filters.agentName ++
  equalsTextGiven "session_id" filters.sessionId ++
  equalsTextGiven "rail_type" filters.railType ++
  equalsTextGiven "action_name" filters.actionName ++
  equalsTextGiven "workflow_run_id" filters.workflowRunId ++
  equalsTextGiven "framework" filters.framework ++
  equalsTextGiven "tool_name" filters.toolName ++
  equalsTextGiven "invocation_id" filters.invocationId ++
  equalsTextGiven "environment" filters.environment

/-- The WHERE clause of a span query. -/
def StorageSpanFilters.whereClause (filters : StorageSpanFilters) (workspaceId : Uuid) : String :=
  " AND ".intercalate (filters.conditionTexts workspaceId)

/-- The condition that a trace has a span with a text in its name. -/
def namedText (workspaceId : Uuid) (name : String) : String :=
  "trace_id IN (SELECT DISTINCT trace_id FROM spans WHERE workspace_id = '" ++
    workspaceId.toText ++ "' AND span_name LIKE '%" ++ escapeSqlStr name ++ "%')"

/-- The texts of the conditions of a trace query after the one on the workspace. -/
def StorageTraceFilters.pushedTexts (filters : StorageTraceFilters) (workspaceId : Uuid) :
    List String :=
  equalsTextGiven "service_name" filters.serviceName ++
  (filters.spanName.map (namedText workspaceId)).toList ++
  withinTextGiven filters.timeRange ++
  equalsTextGiven "llm_model" filters.llmModel ++
  equalsTextGiven "llm_provider" filters.llmProvider ++
  equalsTextGiven "llm_response_model" filters.llmResponseModel ++
  equalsTextGiven "agent_name" filters.agentName ++
  equalsTextGiven "session_id" filters.sessionId ++
  equalsTextGiven "rail_type" filters.railType ++
  equalsTextGiven "action_name" filters.actionName ++
  equalsTextGiven "workflow_run_id" filters.workflowRunId ++
  equalsTextGiven "framework" filters.framework ++
  equalsTextGiven "tool_name" filters.toolName ++
  equalsTextGiven "invocation_id" filters.invocationId ++
  equalsTextGiven "environment" filters.environment

/-- The inner WHERE clause of a trace query, onto which its conditions are pushed. -/
def StorageTraceFilters.innerWhere (filters : StorageTraceFilters) (workspaceId : Uuid) : String :=
  (filters.pushedTexts workspaceId).foldl (fun text condition => text ++ " AND " ++ condition)
    (workspaceText workspaceId)

/-- The tokens of a bound. -/
def boundTokens (bound : Int64) : List SqlToken :=
  if 0 ≤ bound.toInt then [.number bound.toInt.natAbs.repr]
  else [.symbol "-", .number bound.toInt.natAbs.repr]

/-- The tokens of a list of literals. -/
def literalsTokens : List String → List SqlToken
  | [] => []
  | [text] => [.literal text]
  | text :: texts => .literal text :: .symbol "," :: literalsTokens texts

/-- The tokens of a condition, with a literal for each of its texts. -/
def Condition.tokens : Condition → List SqlToken
  | .equals name text => [.word name, .symbol "=", .literal text]
  | .oneOf name texts => .word name :: .word "IN" :: .symbol "(" :: (literalsTokens texts ++ [.symbol ")"])
  | .like name pattern => [.word name, .word "LIKE", .literal pattern]
  | .since bound => .word "timestamp" :: .symbol ">=" :: boundTokens bound
  | .upTo bound => .word "timestamp" :: .symbol "<=" :: boundTokens bound

/-- The tokens of a condition and of those that are joined to it. -/
def conjunction (first : List SqlToken) (others : List (List SqlToken)) : List SqlToken :=
  first ++ others.flatMap fun tokens => .word "AND" :: tokens

/-- The tokens of the condition on the workspace. -/
def workspaceTokens (workspaceId : Uuid) : List SqlToken :=
  (Condition.equals "workspace_id" workspaceId.toText).tokens

/-- The tokens of the condition that a trace has a span with a text in its name. -/
def namedTokens (workspaceId : Uuid) (name : String) : List SqlToken :=
  [.word "trace_id", .word "IN", .symbol "(", .word "SELECT", .word "DISTINCT", .word "trace_id",
    .word "FROM", .word "spans", .word "WHERE"] ++
  conjunction (workspaceTokens workspaceId)
    [(Condition.like "span_name" ("%" ++ name ++ "%")).tokens] ++
  [.symbol ")"]

/-- The tokens of the conditions of a trace query after the one on the workspace. -/
def StorageTraceFilters.pushedTokens (filters : StorageTraceFilters) (workspaceId : Uuid) :
    List (List SqlToken) :=
  let equals (name : String) (text : Option String) : List (List SqlToken) :=
    (equalsGiven name text).map Condition.tokens
  equals "service_name" filters.serviceName ++
  (filters.spanName.map (namedTokens workspaceId)).toList ++
  (withinGiven filters.timeRange).map Condition.tokens ++
  equals "llm_model" filters.llmModel ++
  equals "llm_provider" filters.llmProvider ++
  equals "llm_response_model" filters.llmResponseModel ++
  equals "agent_name" filters.agentName ++
  equals "session_id" filters.sessionId ++
  equals "rail_type" filters.railType ++
  equals "action_name" filters.actionName ++
  equals "workflow_run_id" filters.workflowRunId ++
  equals "framework" filters.framework ++
  equals "tool_name" filters.toolName ++
  equals "invocation_id" filters.invocationId ++
  equals "environment" filters.environment

/-- The words that the clauses are made of, besides the texts that are given. -/
def clauseWords : List String :=
  ["workspace_id", "trace_id", "service_name", "span_name", "span_type", "status_code", "timestamp",
    "llm_model", "llm_provider", "llm_response_model", "agent_name", "session_id", "rail_type",
    "action_name", "workflow_run_id", "framework", "tool_name", "invocation_id", "environment",
    "AND", "IN", "LIKE", "SELECT", "DISTINCT", "FROM", "spans", "WHERE"]

/-- Each of the words is read as itself. -/
theorem sqlLex_clauseWord : ∀ word ∈ clauseWords, sqlLex word = some [.word word] := by
  decide +kernel

/-- So are the signs. -/
theorem sqlLex_clauseSymbol : ∀ symbol ∈ ["=", ">=", "<="], sqlLex symbol = some [.symbol symbol] := by
  decide +kernel

section

variable {name : String} (named : name ∈ clauseWords)
include named

theorem sqlLex_equalsText (text : String) :
    sqlLex (equalsText name text) = some (Condition.equals name text).tokens := by
  have equals := sqlLex_clauseSymbol "=" (by decide)
  have parts : equalsText name text = name ++ " " ++ ("=" ++ " " ++ literalText text) := by
    simp only [equalsText, literalText, String.append_assoc]
    rfl
  rw [parts]
  exact sqlLex_space (sqlLex_clauseWord name named) (sqlLex_space equals (sqlLex_literalText text))

theorem sqlLex_likeText (text : String) :
    sqlLex (likeText name text) = some (Condition.like name ("%" ++ text ++ "%")).tokens := by
  have like := sqlLex_clauseWord "LIKE" (by decide)
  have parts : likeText name text = name ++ " " ++ ("LIKE" ++ " " ++ literalText ("%" ++ text ++ "%")) := by
    have percent : escapeSqlStr "%" = "%" := escapeSqlStr_of_unquoted (by decide)
    simp only [likeText, literalText, escapeSqlStr_append, percent, String.append_assoc]
    rfl
  rw [parts]
  exact sqlLex_space (sqlLex_clauseWord name named) (sqlLex_space like (sqlLex_literalText _))

end

/-- Literals with commas between them are read one by one. -/
theorem sqlLex_literals {texts : List String} (nonempty : texts ≠ []) :
    sqlLex (", ".intercalate (texts.map literalText)) = some (literalsTokens texts) := by
  -- The last literal has no comma behind it, so the cases are one literal and more.
  induction texts with
  | nil => exact absurd rfl nonempty
  | cons text texts ih =>
    cases texts with
    | nil =>
      rw [List.map_singleton, String.intercalate_singleton]
      exact sqlLex_literalText text
    | cons next texts =>
      have rest := ih (List.cons_ne_nil next texts)
      rw [List.map_cons] at rest
      rw [List.map_cons, List.map_cons, String.intercalate_cons_cons]
      exact sqlLex_comma (sqlLex_literalText text) rest

theorem sqlLex_oneOfText {name : String} (named : name ∈ clauseWords)
    {texts : List String} (nonempty : texts ≠ []) :
    sqlLex (oneOfText name texts) = some (Condition.oneOf name texts).tokens := by
  have within := sqlLex_clauseWord "IN" (by decide)
  have parts : oneOfText name texts =
      name ++ " " ++ ("IN" ++ " " ++ ("(" ++ ", ".intercalate (texts.map literalText) ++ ")")) := by
    simp only [oneOfText, String.append_assoc]
    rfl
  rw [parts]
  exact sqlLex_space (sqlLex_clauseWord name named) (sqlLex_space within (sqlLex_parentheses (sqlLex_literals nonempty)))

/-- The name of a workspace has no quotes. -/
theorem quote_notMem_toText (workspaceId : Uuid) : quote ∉ workspaceId.toText.toList := by
  have digit : ∀ number < 16, Nat.digitChar number ≠ quote := by decide
  have digits : quote ∉ workspaceId.digits := by
    intro member
    obtain ⟨byte, _, inside⟩ := List.mem_flatMap.mp member
    have small := byte.toNat_lt
    simp only [List.mem_cons, List.not_mem_nil, or_false] at inside
    rcases inside with high | low
    · exact digit _ (by omega) high.symm
    · exact digit _ (by omega) low.symm
  have minus : quote ≠ '-' := by decide
  -- Each group of digits is a part of all of them.
  rw [Uuid.toText, String.toList_ofList]
  have part (count length : Nat) : quote ∉ (workspaceId.digits.drop count).take length :=
    fun member => digits (List.mem_of_mem_drop (List.mem_of_mem_take member))
  simp only [List.mem_append, List.mem_cons, minus, false_or, not_or]
  exact ⟨part 0 8, part 8 4, part 12 4, part 16 4, fun member => digits (List.mem_of_mem_drop member)⟩

theorem workspaceText_eq (workspaceId : Uuid) :
    workspaceText workspaceId = equalsText "workspace_id" workspaceId.toText := by
  rw [equalsText, escapeSqlStr_of_unquoted (quote_notMem_toText workspaceId)]
  rfl

theorem sqlLex_workspaceText (workspaceId : Uuid) :
    sqlLex (workspaceText workspaceId) = some (workspaceTokens workspaceId) := by
  rw [workspaceText_eq]
  exact sqlLex_equalsText (by decide) workspaceId.toText

/-- A bound is read as a number, with its sign as a symbol. -/
theorem sqlLex_bound {symbol : String} (compares : sqlLex symbol = some [.symbol symbol])
    (bound : Int64) :
    sqlLex ("timestamp" ++ " " ++ (symbol ++ " " ++ bound.toInt.repr)) =
      some (.word "timestamp" :: .symbol symbol :: boundTokens bound) := by
  have timestamp := sqlLex_clauseWord "timestamp" (by decide)
  exact sqlLex_space timestamp (sqlLex_space compares (sqlLex_repr bound.toInt))

/-- Conditions that are joined are read one after the other. -/
theorem sqlLex_conjunction {first : String} {firstTokens : List SqlToken}
    (read : sqlLex first = some firstTokens) {texts : List String} {tokens : List (List SqlToken)}
    (others : List.Forall₂ (fun text tokens => sqlLex text = some tokens) texts tokens) :
    sqlLex (texts.foldl (fun text condition => text ++ " AND " ++ condition) first) =
      some (conjunction firstTokens tokens) := by
  -- The conditions so far are one text, behind which each next one begins with its own word.
  have word := sqlLex_clauseWord "AND" (by decide)
  induction others generalizing first firstTokens with
  | nil => simp [conjunction, read]
  | cons head tail ih =>
    rename_i text token texts tokens
    have step := sqlLex_space (sqlLex_space read word) head
    have joined : first ++ " " ++ "AND" ++ " " ++ text = first ++ " AND " ++ text := by
      simp only [String.append_assoc]
      rfl
    rw [joined] at step
    rw [List.foldl_cons, ih step]
    simp [conjunction, List.append_assoc]

/-- Texts of conditions, and the tokens that they are read as. -/
def ReadAs (texts : List String) (tokens : List (List SqlToken)) : Prop :=
  List.Forall₂ (fun text tokens => sqlLex text = some tokens) texts tokens

theorem ReadAs.append {texts others : List String} {tokens more : List (List SqlToken)}
    (first : ReadAs texts tokens) (second : ReadAs others more) :
    ReadAs (texts ++ others) (tokens ++ more) :=
  List.rel_append first second

/-- So are conditions one after the other. -/
theorem ReadAs.append_map {texts others : List String} {conditions more : List Condition}
    (first : ReadAs texts (conditions.map Condition.tokens))
    (second : ReadAs others (more.map Condition.tokens)) :
    ReadAs (texts ++ others) ((conditions ++ more).map Condition.tokens) := by
  rw [List.map_append]
  exact first.append second

theorem readAs_equals {name : String} (named : name ∈ clauseWords)
    (text : Option String) :
    ReadAs (equalsTextGiven name text) ((equalsGiven name text).map Condition.tokens) := by
  cases text with
  | none => exact .nil
  | some text => exact .cons (sqlLex_equalsText named text) .nil

theorem readAs_within (timeRange : Option TimeRange) :
    ReadAs (withinTextGiven timeRange) ((withinGiven timeRange).map Condition.tokens) := by
  cases timeRange with
  | none => exact .nil
  | some range =>
    have least := sqlLex_clauseSymbol ">=" (by decide)
    have most := sqlLex_clauseSymbol "<=" (by decide)
    refine .cons ?_ (.cons ?_ .nil)
    · exact sqlLex_bound least range.start
    · exact sqlLex_bound most range.ending

theorem readAs_workspace (workspaceId : Uuid) :
    ReadAs [workspaceText workspaceId]
      ([Condition.equals "workspace_id" workspaceId.toText].map Condition.tokens) :=
  .cons (sqlLex_workspaceText workspaceId) .nil

theorem readAs_like (text : Option String) :
    ReadAs (text.map (likeText "span_name")).toList
      ((likeGiven "span_name" text).map Condition.tokens) := by
  cases text with
  | none => exact .nil
  | some text => exact .cons (sqlLex_likeText (by decide) text) .nil

theorem readAs_types (spanTypes : Option (List String)) :
    ReadAs ((spanTypes.filter fun types => !types.isEmpty).map (oneOfText "span_type")).toList
      ((typesGiven spanTypes).map Condition.tokens) := by
  cases spanTypes with
  | none => exact .nil
  | some types =>
    cases types with
    | nil => exact .nil
    | cons first types =>
      exact .cons (sqlLex_oneOfText (by decide) (List.cons_ne_nil first types)) .nil

/-- The condition on the name of a span stands in a subquery, beside one on the workspace. -/
theorem namedText_eq (workspaceId : Uuid) (text : String) :
    namedText workspaceId text = "trace_id" ++ " " ++ ("IN" ++ " " ++ ("(" ++
      ("SELECT DISTINCT trace_id FROM spans WHERE" ++ " " ++ ([likeText "span_name" text].foldl
        (fun text condition => text ++ " AND " ++ condition) (workspaceText workspaceId))) ++
      ")")) := by
  -- The fixed texts of the source are cut where the reader starts new tokens.
  have front : "trace_id IN (SELECT DISTINCT trace_id FROM spans WHERE workspace_id = '" =
      "trace_id" ++ (" " ++ ("IN" ++ (" " ++ ("(" ++
        ("SELECT DISTINCT trace_id FROM spans WHERE" ++ (" " ++ "workspace_id = '")))))) := by
    decide +kernel
  have middle : "' AND span_name LIKE '%" = "'" ++ (" AND " ++ ("span_name" ++ " LIKE '%")) := by
    decide +kernel
  have back : "%')" = "%'" ++ ")" := rfl
  unfold namedText workspaceText likeText
  rw [front, middle, back]
  simp only [List.foldl_cons, List.foldl_nil, String.append_assoc]

theorem readAs_named (workspaceId : Uuid) (text : Option String) :
    ReadAs (text.map (namedText workspaceId)).toList (text.map (namedTokens workspaceId)).toList := by
  cases text with
  | none => exact .nil
  | some text =>
    refine .cons ?_ .nil
    have trace := sqlLex_clauseWord "trace_id" (by decide)
    have within := sqlLex_clauseWord "IN" (by decide)
    have select : sqlLex "SELECT DISTINCT trace_id FROM spans WHERE" = some [.word "SELECT",
        .word "DISTINCT", .word "trace_id", .word "FROM", .word "spans", .word "WHERE"] := by
      decide +kernel
    -- The subquery is a text in parentheses, with two conditions at its end.
    have conditions : sqlLex ([likeText "span_name" text].foldl
        (fun text condition => text ++ " AND " ++ condition) (workspaceText workspaceId)) = _ :=
      sqlLex_conjunction (sqlLex_workspaceText workspaceId)
        (.cons (sqlLex_likeText (by decide) text) .nil)
    have whole := sqlLex_space trace (sqlLex_space within
      (sqlLex_parentheses (sqlLex_space select conditions)))
    rw [namedText_eq, whole]
    simp [namedTokens, workspaceTokens]

/-- Each condition of a span query is read as itself. -/
theorem readAs_conditions (filters : StorageSpanFilters) (workspaceId : Uuid) :
    ReadAs (filters.conditionTexts workspaceId)
      ((filters.conditions workspaceId).map Condition.tokens) :=
  readAs_workspace workspaceId
    |>.append_map (readAs_equals (by decide) filters.traceId)
    |>.append_map (readAs_equals (by decide) filters.serviceName)
    |>.append_map (readAs_like filters.spanName)
    |>.append_map (readAs_types filters.spanTypes)
    |>.append_map (readAs_equals (by decide) filters.status)
    |>.append_map (readAs_within filters.timeRange)
    |>.append_map (readAs_equals (by decide) filters.llmModel)
    |>.append_map (readAs_equals (by decide) filters.llmProvider)
    |>.append_map (readAs_equals (by decide) filters.llmResponseModel)
    |>.append_map (readAs_equals (by decide) filters.agentName)
    |>.append_map (readAs_equals (by decide) filters.sessionId)
    |>.append_map (readAs_equals (by decide) filters.railType)
    |>.append_map (readAs_equals (by decide) filters.actionName)
    |>.append_map (readAs_equals (by decide) filters.workflowRunId)
    |>.append_map (readAs_equals (by decide) filters.framework)
    |>.append_map (readAs_equals (by decide) filters.toolName)
    |>.append_map (readAs_equals (by decide) filters.invocationId)
    |>.append_map (readAs_equals (by decide) filters.environment)

/-- Each condition of a trace query is read as itself. -/
theorem readAs_pushed (filters : StorageTraceFilters) (workspaceId : Uuid) :
    ReadAs (filters.pushedTexts workspaceId) (filters.pushedTokens workspaceId) :=
  readAs_equals (by decide) filters.serviceName
    |>.append (readAs_named workspaceId filters.spanName)
    |>.append (readAs_within filters.timeRange)
    |>.append (readAs_equals (by decide) filters.llmModel)
    |>.append (readAs_equals (by decide) filters.llmProvider)
    |>.append (readAs_equals (by decide) filters.llmResponseModel)
    |>.append (readAs_equals (by decide) filters.agentName)
    |>.append (readAs_equals (by decide) filters.sessionId)
    |>.append (readAs_equals (by decide) filters.railType)
    |>.append (readAs_equals (by decide) filters.actionName)
    |>.append (readAs_equals (by decide) filters.workflowRunId)
    |>.append (readAs_equals (by decide) filters.framework)
    |>.append (readAs_equals (by decide) filters.toolName)
    |>.append (readAs_equals (by decide) filters.invocationId)
    |>.append (readAs_equals (by decide) filters.environment)

/-- Joining texts is pushing them onto the first. -/
theorem intercalate_eq_foldl (first : String) (texts : List String) :
    " AND ".intercalate (first :: texts) =
      texts.foldl (fun text condition => text ++ " AND " ++ condition) first := by
  induction texts generalizing first with
  | nil => exact String.intercalate_singleton
  | cons text texts ih =>
    rw [List.foldl_cons, ← ih, String.intercalate_cons_cons, String.append_assoc,
      String.append_assoc, String.intercalate_cons_append, String.intercalate_cons_append]

/-- The condition on the workspace is the first one. -/
theorem head?_conditions (filters : StorageSpanFilters) (workspaceId : Uuid) :
    (filters.conditionTexts workspaceId).head? = some (workspaceText workspaceId) ∧
      (filters.conditions workspaceId).head? =
        some (.equals "workspace_id" workspaceId.toText) := by
  unfold StorageSpanFilters.conditionTexts StorageSpanFilters.conditions
  simp only [List.head?_append, List.head?_cons, Option.some_or, and_self]

/-- A clause is read as the conditions it is made from, joined to the one on the workspace. -/
theorem where_clauses_read_back (workspaceId : Uuid) (spanFilters : StorageSpanFilters)
    (traceFilters : StorageTraceFilters) :
    (∃ others,
      spanFilters.conditions workspaceId = .equals "workspace_id" workspaceId.toText :: others ∧
      sqlLex (spanFilters.whereClause workspaceId) =
        some (conjunction (workspaceTokens workspaceId) (others.map Condition.tokens))) ∧
    sqlLex (traceFilters.innerWhere workspaceId) =
      some (conjunction (workspaceTokens workspaceId) (traceFilters.pushedTokens workspaceId)) := by
  -- The condition on the workspace comes first in both, and the others are read behind it.
  have workspace := sqlLex_workspaceText workspaceId
  constructor
  · obtain ⟨firstText, firstCondition⟩ := head?_conditions spanFilters workspaceId
    obtain ⟨texts, written⟩ := List.head?_eq_some_iff.mp firstText
    obtain ⟨others, joined⟩ := List.head?_eq_some_iff.mp firstCondition
    have read := readAs_conditions spanFilters workspaceId
    rw [written, joined, List.map_cons] at read
    refine ⟨others, joined, ?_⟩
    rw [StorageSpanFilters.whereClause, written, intercalate_eq_foldl]
    exact sqlLex_conjunction workspace (List.forall₂_cons.mp read).2
  · exact sqlLex_conjunction workspace (readAs_pushed traceFilters workspaceId)

end Zradar.Query

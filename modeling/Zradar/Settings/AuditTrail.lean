import Zradar.Lib.Positions
import Zradar.Lib.Run
import Zradar.Settings.AuditSpec

/-! What updates leave in the audit log, and what a reader sees of it while others write. -/

namespace Zradar.Settings

open Auth Retention Awaiting

structure AdminTables where
  settings : SettingsTable
  auditLogs : AuditLogTable

/-- What goes wrong with a statement. -/
inductive AdminFault where
  | none
  | lost (message : String)
  | unacknowledged (message : String)
  deriving DecidableEq

/-- What becomes of a statement that would store a value. -/
def AdminFault.stored {α : Type} (fault : AdminFault) (value : α) : Stored α :=
  match fault with
  | .none => .done value
  | .lost message => .lost message
  | .unacknowledged message => .unacknowledged message value

/-- The tables behind a statement, which are as before if it is lost. -/
def AdminFault.behind (fault : AdminFault) (before after : AdminTables) : AdminTables :=
  match fault with
  | .lost _ => before
  | _ => after

/-- What becomes of a query. -/
def AdminFault.read {α : Type} (fault : AdminFault) (value : α) : Except String α :=
  match fault with
  | .none => .ok value
  | .lost message => .error message
  | .unacknowledged message => .error message

/-- What one exchange takes from outside: the clock, what the settings cache gives, and a fault. -/
structure AdminEnv where
  now : Int64
  cached : Except String (Option WorkspaceSettings)
  fault : AdminFault

/-- The answer to a question, and the tables behind it. -/
def AdminTables.answer (tables : AdminTables) (env : AdminEnv) :
    (question : AdminQuestion) → question.Answer × AdminTables
  | .getSettings _ => (env.cached, tables)
  | .upsertSettings settings =>
    let (next, saved) := tables.settings.upsertSettings settings env.now
    (env.fault.stored saved, env.fault.behind tables { tables with settings := next })
  | .createAuditLog log =>
    let (next, row) := tables.auditLogs.createAuditLog log env.now
    (env.fault.stored row, env.fault.behind tables { tables with auditLogs := next })
  | .auditItems filters => (env.fault.read (auditItems filters tables.auditLogs.rows), tables)
  | .auditTotal filters => (env.fault.read (auditTotal filters tables.auditLogs.rows), tables)

/-- What callers do: read or update settings, list a page of the audit log, or read all of it. -/
inductive AdminWork where
  | settings (request : SettingsRequest)
  | list (request : AuditRequest)
  | walk (request : AuditRequest) (pages : Nat)

inductive AdminResult where
  | settings (answer : Except ApiError WorkspaceSettings)
  | page (answer : Except ApiError AuditLogPage)
  | rows (answer : Except ApiError (List AuditLog))

def AdminWork.handle (audited : Bool) : AdminWork → Admin AdminResult
  | .settings request => do return .settings (← request.handle audited)
  | .list request => do return .page (← request.handle)
  | .walk request pages => do return .rows (← request.walk pages 0)

/-- A call with the log that it found, what it was answered, and what is left of it. -/
structure AdminCall (audited : Bool) where
  work : AdminWork
  opened : List AuditLog
  exchanges : List AdminExchange
  rest : Admin AdminResult
  underWay : (work.handle audited).Leads exchanges rest

/-- The tables, and all calls that have been made. -/
structure AdminState (audited : Bool) where
  tables : AdminTables
  calls : List (AdminCall audited)

/-- The rows of the audit log. -/
abbrev AdminState.rows {audited : Bool} (state : AdminState audited) : List AuditLog :=
  state.tables.auditLogs.rows

def AdminCall.begin (audited : Bool) (work : AdminWork) (opened : List AuditLog) :
    AdminCall audited :=
  ⟨work, opened, [], work.handle audited, .here _⟩

/-- The tables and the call behind the next exchange of a call that is not over. -/
def AdminCall.resume {audited : Bool} (tables : AdminTables) (env : AdminEnv) :
    AdminCall audited → Option (AdminTables × AdminCall audited)
  | ⟨_, _, _, .done _, _⟩ => none
  | ⟨work, opened, exchanges, .ask question resume, underWay⟩ =>
    let (answer, next) := tables.answer env question
    some (next, ⟨work, opened, exchanges ++ [⟨question, answer⟩], resume answer,
      underWay.snoc answer⟩)

/-- One step: a call begins or gets its next answer, or other handlers save settings. -/
inductive AdminStep where
  | begin (work : AdminWork)
  | resume (position : Nat) (env : AdminEnv)
  | retention (settings : NewWorkspaceSettings) (now : Int64)

def auditStep (audited : Bool) (state : AdminState audited) :
    AdminStep → Option (AdminState audited)
  | .begin work => some { state with calls := state.calls ++ [.begin audited work state.rows] }
  | .resume position env => do
    let call ← state.calls[position]?
    let (tables, next) ← call.resume state.tables env
    return { tables, calls := state.calls.set position next }
  | .retention settings now =>
    some { state with tables := { state.tables with
      settings := (state.tables.settings.upsertSettings settings now).1 } }

/-- An exchange is answered from the log, and adds to it what it stores. -/
theorem AdminTables.answer_grows (tables : AdminTables) (env : AdminEnv)
    (question : AdminQuestion) :
    AnsweredFrom tables.auditLogs.rows ⟨question, (tables.answer env question).1⟩ ∧
      (tables.answer env question).2.auditLogs.rows = tables.auditLogs.rows ++
        storedLogs [⟨question, (tables.answer env question).1⟩] := by
  obtain ⟨now, cached, fault⟩ := env
  cases question with
  | getSettings workspaceId => exact ⟨trivial, (List.append_nil _).symm⟩
  | upsertSettings settings =>
    refine ⟨?_, ?_⟩
    · intro row kept
      cases fault with
      | none =>
        obtain rfl := Option.some.inj kept
        exact SettingsTable.upsertSettings_saved _ _ _
      | lost message => cases kept
      | unacknowledged message =>
        obtain rfl := Option.some.inj kept
        exact SettingsTable.upsertSettings_saved _ _ _
    · cases fault <;> exact (List.append_nil _).symm
  | createAuditLog log =>
    refine ⟨?_, ?_⟩
    · intro row kept
      cases fault with
      | none =>
        obtain rfl := Option.some.inj kept
        rfl
      | lost message => cases kept
      | unacknowledged message =>
        obtain rfl := Option.some.inj kept
        rfl
    · cases fault with
      | none => rfl
      | lost message => exact (List.append_nil _).symm
      | unacknowledged message => rfl
  | auditItems filters =>
    refine ⟨?_, (List.append_nil _).symm⟩
    intro items read
    cases fault with
    | none => exact (Except.ok.inj read).symm
    | lost message => cases read
    | unacknowledged message => cases read
  | auditTotal filters =>
    refine ⟨?_, (List.append_nil _).symm⟩
    intro total read
    cases fault with
    | none => exact (Except.ok.inj read).symm
    | lost message => cases read
    | unacknowledged message => cases read

/-- A call goes on by one exchange, which is answered from the log and adds to it. -/
theorem AdminCall.resume_grows {audited : Bool} {tables next : AdminTables} {env : AdminEnv}
    {call further : AdminCall audited} (resumed : call.resume tables env = some (next, further)) :
    ∃ exchange, further.exchanges = call.exchanges ++ [exchange] ∧
      further.opened = call.opened ∧
      AnsweredFrom tables.auditLogs.rows exchange ∧
      next.auditLogs.rows = tables.auditLogs.rows ++ storedLogs [exchange] := by
  obtain ⟨work, opened, exchanges, rest, underWay⟩ := call
  cases rest with
  | done result => cases resumed
  | ask question resume =>
    cases resumed
    exact ⟨⟨question, _⟩, rfl, rfl, tables.answer_grows env question⟩

/-- The rows of the log are the old ones and what the calls have stored, each of them once. -/
structure LogKept {audited : Bool} (start state : AdminState audited) : Prop where
  grown : start.rows <+: state.rows
  stored : state.rows.Perm
    (start.rows ++ state.calls.flatMap fun call => storedLogs call.exchanges)
  calls : ∀ call ∈ state.calls,
    start.rows <+: call.opened ∧ Grown call.opened call.exchanges state.rows

/-- What a step does: a call begins, a call goes on by an exchange, or the log stays as it is. -/
theorem auditStep_cases {audited : Bool} {state next : AdminState audited} {step : AdminStep}
    (stepped : auditStep audited state step = some next) :
    (∃ work, next = { state with calls := state.calls ++ [.begin audited work state.rows] }) ∨
    (∃ position call further exchange, state.calls[position]? = some call ∧
      further.exchanges = call.exchanges ++ [exchange] ∧ further.opened = call.opened ∧
      AnsweredFrom state.rows exchange ∧ next.calls = state.calls.set position further ∧
      next.rows = state.rows ++ storedLogs [exchange]) ∨
    (next.calls = state.calls ∧ next.rows = state.rows) := by
  cases step with
  | begin work => exact .inl ⟨work, (Option.some.inj stepped).symm⟩
  | retention settings now =>
    obtain rfl := Option.some.inj stepped
    exact .inr (.inr ⟨rfl, rfl⟩)
  | resume position env =>
    rw [auditStep] at stepped
    cases found : state.calls[position]? with
    | none => simp [found] at stepped
    | some call =>
      cases resumed : call.resume state.tables env with
      | none => simp [found, resumed] at stepped
      | some both =>
        obtain ⟨tables, further⟩ := both
        simp only [found, resumed, Option.bind_eq_bind, Option.bind_some, Option.pure_def,
          Option.some.injEq] at stepped
        obtain ⟨exchange, went, opened, answered, grown⟩ := AdminCall.resume_grows resumed
        subst stepped
        exact .inr (.inl ⟨position, call, further, exchange, found, went, opened, answered, rfl,
          grown⟩)

/-- The log at the beginning, when there are no calls yet. -/
theorem logKept_start {audited : Bool} {start : AdminState audited} (fresh : start.calls = []) :
    LogKept start start where
  grown := List.prefix_refl _
  stored := by rw [fresh, List.flatMap_nil, List.append_nil]
  calls call member := by
    rw [fresh] at member
    cases member

section

variable {audited : Bool} {start state next : AdminState audited}

/-- A call that has only begun finds the log as it is by then. -/
theorem LogKept.begin (kept : LogKept start state) (work : AdminWork) :
    LogKept start { state with calls := state.calls ++ [.begin audited work state.rows] } where
  grown := kept.grown
  stored := by
    rw [List.flatMap_append]
    exact kept.stored.trans (by simp [AdminCall.begin, storedLogs])
  calls call member := by
    obtain running | started := List.mem_append.mp member
    · exact kept.calls call running
    · obtain rfl := List.mem_singleton.mp started
      exact ⟨kept.grown, List.prefix_refl _⟩

/-- The rows of the calls grow by those that the exchange of one of them stores. -/
theorem logs_goOn {position : Nat} {call further : AdminCall audited} {exchange : AdminExchange}
    (found : state.calls[position]? = some call)
    (went : further.exchanges = call.exchanges ++ [exchange]) :
    ((state.calls.flatMap fun call => storedLogs call.exchanges) ++ storedLogs [exchange]).Perm
      ((state.calls.set position further).flatMap fun call => storedLogs call.exchanges) := by
  have before := flatMap_taken found fun call => storedLogs call.exchanges
  have behind := flatMap_replaced found further fun call => storedLogs call.exchanges
  rw [went, storedLogs_append] at behind
  -- The new rows are those of the call that goes on, behind its old ones.
  refine (before.append_right _).trans (.trans ?_ behind.symm)
  rw [List.append_assoc, List.append_assoc]
  exact List.Perm.append_left _ List.perm_append_comm

/-- What a call has found and stored stays in the log when one of the calls goes on. -/
theorem LogKept.goOn (kept : LogKept start state) {position : Nat}
    {call further : AdminCall audited} {exchange : AdminExchange}
    (found : state.calls[position]? = some call)
    (went : further.exchanges = call.exchanges ++ [exchange])
    (opened : further.opened = call.opened) (answered : AnsweredFrom state.rows exchange)
    (replaced : next.calls = state.calls.set position further)
    (rows : next.rows = state.rows ++ storedLogs [exchange]) : LogKept start next := by
  have more : state.rows <+: next.rows := rows ▸ List.prefix_append _ _
  exact {
    grown := kept.grown.trans more
    stored := by
      rw [rows, replaced]
      refine (kept.stored.append_right _).trans ?_
      rw [List.append_assoc]
      exact List.Perm.append_left _ (logs_goOn found went)
    calls := by
      intro other member
      rw [replaced] at member
      obtain rfl | old := List.mem_cons.mp ((replaced_perm found further).mem_iff.mp member)
      · -- The call that goes on is answered from the rows that were there before.
        obtain ⟨earlier, grown⟩ := kept.calls call (List.mem_of_getElem? found)
        rw [opened, went]
        exact ⟨earlier, grown.snoc answered more⟩
      · obtain ⟨earlier, grown⟩ := kept.calls other (List.mem_of_mem_eraseIdx old)
        exact ⟨earlier, grown.later more⟩ }

/-- Every step keeps the log in line with the calls. -/
theorem LogKept.step (kept : LogKept start state) {step : AdminStep}
    (stepped : auditStep audited state step = some next) : LogKept start next := by
  obtain ⟨work, rfl⟩ | ⟨position, call, further, exchange, found, went, opened, answered, replaced,
    rows⟩ | ⟨calls, rows⟩ := auditStep_cases stepped
  · exact kept.begin work
  · exact kept.goOn found went opened answered replaced rows
  · exact {
      grown := rows ▸ kept.grown
      stored := by
        rw [rows, calls]
        exact kept.stored
      calls := by
        rw [rows, calls]
        exact kept.calls }

/-- No step changes a row of the log or takes it away. -/
theorem rows_grow {step : AdminStep} (stepped : auditStep audited state step = some next) :
    state.rows <+: next.rows := by
  obtain ⟨work, rfl⟩ | ⟨_, _, _, _, _, _, _, _, _, rows⟩ | ⟨_, rows⟩ := auditStep_cases stepped
  · exact List.prefix_refl _
  · exact rows ▸ List.prefix_append _ _
  · exact rows ▸ List.prefix_refl _

end

/-- A question that stores nothing in the log. -/
def AdminQuestion.Unlogged : AdminQuestion → Prop
  | .createAuditLog _ => False
  | _ => True

theorem storedLogs_unlogged {exchanges : List AdminExchange}
    (unlogged : ∀ exchange ∈ exchanges, exchange.1.Unlogged) : storedLogs exchanges = [] := by
  refine List.filterMap_eq_nil_iff.mpr fun exchange member => ?_
  obtain ⟨question, answer⟩ := exchange
  have reads := unlogged _ member
  cases question with
  | createAuditLog log => exact reads.elim
  | _ => rfl

theorem asks_listAuditLogs (filters : AuditLogFilters) :
    (listAuditLogs filters).Asks AdminQuestion.Unlogged := by
  refine (asks_await trivial).bind fun items => ?_
  match items with
  | .error message => trivial
  | .ok items =>
    refine (asks_await trivial).bind fun total => ?_
    match total with
    | .error message => trivial
    | .ok total => trivial

theorem AuditRequest.asks_handle (request : AuditRequest) :
    request.handle.Asks AdminQuestion.Unlogged := by
  rw [handle]
  cases request.target with
  | error error => trivial
  | ok filters => exact (asks_listAuditLogs filters).bind fun _ => trivial

/-- A reader of the log adds nothing to it. -/
theorem AuditRequest.asks_walk (request : AuditRequest) (pages : Nat) (offset : UInt32) :
    (request.walk pages offset).Asks AdminQuestion.Unlogged := by
  induction pages generalizing offset with
  | zero => trivial
  | succ pages further =>
    rw [walk]
    refine (request.at offset).asks_handle.bind fun answer => ?_
    cases answer with
    | error error => trivial
    | ok listed =>
      dsimp only
      split_ifs
      · trivial
      · exact (further _).bind fun _ => trivial
      · trivial

/-- Only requests to read or update settings add to the log. -/
theorem AdminWork.asks_handle (audited : Bool) {work : AdminWork}
    (reads : ∀ request, work ≠ .settings request) :
    (work.handle audited).Asks AdminQuestion.Unlogged := by
  cases work with
  | settings request => exact absurd rfl (reads request)
  | list request => exact request.asks_handle.bind fun _ => trivial
  | walk request pages => exact (request.asks_walk pages 0).bind fun _ => trivial

/-- A caller with a workspace of its own is shown rows about that workspace only. -/
def AuditRequest.Owned (request : AuditRequest) (shown : List AuditLog) : Prop :=
  ∀ own, request.own? = some own → ∀ row ∈ shown, row.resourceWorkspaceId = some own

theorem AuditRequest.owned {request : AuditRequest} {filters : AuditLogFilters}
    (target : request.target = .ok filters) {shown : List AuditLog}
    (keeps : ∀ row ∈ shown, filters.keeps row = true) : request.Owned shown := by
  intro own owned row member
  have workspace := target_own target owned
  have meets := keeps row member
  simp only [AuditLogFilters.keeps, workspace, Option.all_some, Bool.and_eq_true,
    decide_eq_true_eq] at meets
  tauto

/-- What a call has told its caller, by the log that it found and the log by now. -/
def AdminWork.Told (audited : Bool) (opened rows : List AuditLog)
    (exchanges : List AdminExchange) : AdminWork → AdminResult → Prop
  | .settings request, .settings answer => SettingsEnded audited request exchanges answer
  | .list request, .page answer => ∀ listed, answer = .ok listed →
    ∃ filters, request.target = .ok filters ∧ PageKept filters opened rows listed ∧
      request.Owned listed.items
  | .walk request _, .rows answer => ∀ shown, answer = .ok shown →
    ∃ filters, request.target = .ok filters ∧
      (∀ row ∈ opened, filters.keeps row = true → row ∈ shown) ∧
      (∀ row ∈ shown, row ∈ rows ∧ filters.keeps row = true) ∧ request.Owned shown
  | _, _ => False

/-- A listing that is refused is answered with why. -/
theorem AuditRequest.handle_refused {request : AuditRequest} {error : ApiError}
    (refused : request.target = .error error) : request.handle = .done (.error error) := by
  rw [handle, refused]
  rfl

/-- A walk that is refused shows nothing. -/
theorem AuditRequest.walk_refused {request : AuditRequest} {error : ApiError}
    (refused : request.target = .error error) (pages : Nat) :
    (request.walk pages 0).Meets fun _ answer => ∀ rows, answer ≠ .ok rows := by
  cases pages with
  | zero => exact fun rows same => by cases same
  | succ pages =>
    have there := request.target_at 0
    rw [refused] at there
    rw [walk, handle_refused there]
    exact fun rows same => by cases same

/-- However a call is answered, it tells its caller what it should. -/
theorem AdminWork.handle_meets (audited : Bool) (work : AdminWork) :
    (work.handle audited).Meets fun exchanges result => ∀ opened rows,
      Grown opened exchanges rows → (rows.map AuditLog.id).Nodup →
        work.Told audited opened rows exchanges result := by
  cases work with
  | settings request =>
    refine (request.handle_meets audited).bind fun exchanges answer told => ?_
    intro opened rows grown _
    rw [List.append_nil] at grown ⊢
    exact told grown.honest
  | list request =>
    cases target : request.target with
    | error error =>
      rw [AdminWork.handle, AuditRequest.handle_refused target]
      exact fun _ _ _ _ listed answered => by cases answered
    | ok filters =>
      refine (AuditRequest.handle_meets target).bind fun exchanges answer told => ?_
      intro opened rows grown distinct listed answered
      rw [List.append_nil] at grown
      have page := told opened rows grown distinct listed answered
      refine ⟨filters, target, page, AuditRequest.owned target fun row member => ?_⟩
      obtain ⟨there, _, _, items⟩ := page.items
      exact (mem_of_mem_auditItems (items ▸ member)).2
  | walk request pages =>
    cases target : request.target with
    | error error =>
      refine (AuditRequest.walk_refused target pages).bind fun exchanges answer nothing => ?_
      exact fun _ _ _ _ shown answered => absurd answered (nothing shown)
    | ok filters =>
      refine (AuditRequest.walk_meets target pages 0).bind fun exchanges answer told => ?_
      intro opened rows grown distinct shown answered
      rw [List.append_nil] at grown
      have walked := told opened rows grown distinct shown answered
      -- The first page begins at the first rank, so no row is in front of it.
      exact ⟨filters, target,
        fun row there keeps => walked.shown row there keeps (Nat.zero_le _), walked.there,
        AuditRequest.owned target fun row member => (walked.there row member).2⟩

/-- What a call has done to the log, and what it has told its caller. -/
structure AdminCall.Kept {audited : Bool} (call : AdminCall audited) (rows : List AuditLog) :
    Prop where
  stored : ∀ request, call.work = .settings request → SettingsUnderWay request call.exchanges
  unlogged : (∀ request, call.work ≠ .settings request) → storedLogs call.exchanges = []
  told : ∀ result, call.rest = .done result →
    call.work.Told audited call.opened rows call.exchanges result

/-- A call whose answers come from the log is one that is kept. -/
theorem AdminCall.kept {audited : Bool} (call : AdminCall audited) {rows : List AuditLog}
    (grown : Grown call.opened call.exchanges rows) (distinct : (rows.map AuditLog.id).Nodup) :
    call.Kept rows where
  stored request updates := by
    have underWay := call.underWay
    rw [updates] at underWay
    exact underWay.always ((request.handle_always audited).done _) grown.honest
  unlogged reads := storedLogs_unlogged (call.underWay.asks (AdminWork.asks_handle audited reads))
  told result ended := by
    have whole := ended ▸ call.underWay
    exact whole.meets (call.work.handle_meets audited) _ _ grown distinct

/-- However updates, listings and failing statements interleave, each update that is answered is
saved and audited once, and a reader of all pages misses no row that was there when it began. -/
theorem audit_trail_kept {audited : Bool} {start middle final : AdminState audited}
    {steps later : List AdminStep} (fresh : start.calls = [])
    (ran : run (auditStep audited) start steps = some middle)
    (went : run (auditStep audited) middle later = some final) :
    LogKept start final ∧ middle.rows <+: final.rows ∧
      ∀ call ∈ final.calls, call.Kept final.rows := by
  have whole : run (auditStep audited) start (steps ++ later) = some final := by
    rw [run_append _ ran, went]
  have kept : LogKept start final :=
    run_keeps (fun _ _ _ holds stepped => LogKept.step holds stepped) (logKept_start fresh) whole
  refine ⟨kept, ?_, fun call member => ?_⟩
  · exact run_keeps (fun _ _ _ before stepped => List.IsPrefix.trans before (rows_grow stepped))
      (List.prefix_refl _) went
  · obtain ⟨_, grown⟩ := kept.calls call member
    exact call.kept grown final.tables.auditLogs.distinct

/-- A caller that may read and update everything. -/
def adminAuth : HttpAuthContext := ⟨⟨Uuid.nil⟩, .standalone, []⟩

def adminBody : UpdateWorkspaceSettingsRequest where
  tracesRetentionDays := 7
  metricsRetentionDays := 7
  logsRetentionDays := 7
  maxIngestionRate := none
  filePushIntervalSecs := 60
  blocked := false
  captureLlmContentEnabled := false

def adminStart : AdminState true where
  tables := ⟨⟨[], 0, List.nodup_nil⟩, ⟨[], 0, by simp, List.nodup_nil⟩⟩
  calls := []

/-- One exchange of a call at a time, with a fault. -/
def AdminStep.next (position : Nat) (now : Int64) (fault : AdminFault) : AdminStep :=
  .resume position ⟨now, .ok none, fault⟩

/-- Two updates, of which one is not told that its audit is there. -/
def updatingSteps : List AdminStep :=
  [.begin (.settings (.updateHttp adminAuth Uuid.nil adminBody)),
    .begin (.settings (.updateHttp adminAuth Uuid.nil adminBody)),
    .next 0 10 .none, .next 1 11 .none, .next 1 12 .none, .next 0 13 (.unacknowledged "closed")]

/-- A reader with pages of one row, and an update behind its first page. -/
def walkingSteps : List AdminStep :=
  [.begin (.walk (.http adminAuth ⟨none, none, none, none, none, none, some 1, none⟩) 5),
    .next 2 0 .none, .next 2 0 .none,
    .begin (.settings (.updateHttp adminAuth Uuid.nil adminBody)),
    .next 3 20 .none, .next 3 21 .none,
    .next 2 0 .none, .next 2 0 .none, .next 2 0 .none, .next 2 0 .none, .next 2 0 .none,
    .next 2 0 .none]

/-- The times of the rows that a reader has been shown. -/
def AdminResult.times : Admin AdminResult → Option (List Int64)
  | .done (.rows (.ok shown)) => some (shown.map AuditLog.createdAt)
  | _ => none

/-- What is left of the calls, as far as they are readers that are done, and the rows. -/
def AdminState.shown {audited : Bool} (state : AdminState audited) :
    List (Option (List Int64)) × List Int64 :=
  (state.calls.map fun call => AdminResult.times call.rest, state.rows.map AuditLog.createdAt)

theorem audit_trail_kept_walking : ∃ middle final,
    run (auditStep true) adminStart updatingSteps = some middle ∧
      run (auditStep true) middle walkingSteps = some final ∧
      LogKept adminStart final ∧
      final.shown = ([none, none, some [13, 13, 12], none], [12, 13, 21]) := by
  have updating : (run (auditStep true) adminStart updatingSteps).isSome = true := by decide
  have whole : (run (auditStep true) adminStart (updatingSteps ++ walkingSteps)).map
      AdminState.shown = some ([none, none, some [13, 13, 12], none], [12, 13, 21]) := by decide
  obtain ⟨middle, ran⟩ := Option.isSome_iff_exists.mp updating
  rw [run_append _ ran] at whole
  obtain ⟨final, went, shown⟩ := Option.map_eq_some_iff.mp whole
  exact ⟨middle, final, ran, went, (audit_trail_kept rfl ran went).1, shown⟩

end Zradar.Settings

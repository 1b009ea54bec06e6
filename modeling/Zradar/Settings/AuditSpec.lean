import Zradar.Settings.AuditLog

/-! What the handlers of settings and of the audit log come to, however they are answered. -/

namespace Zradar.Settings

open Auth Retention Awaiting

/-- The settings that exchanges have put into their table. -/
def storedSettings (exchanges : List AdminExchange) : List WorkspaceSettings :=
  exchanges.filterMap fun
    | ⟨.upsertSettings _, stored⟩ => Stored.value? stored
    | _ => none

/-- The rows that exchanges have put into the audit log. -/
def storedLogs (exchanges : List AdminExchange) : List AuditLog :=
  exchanges.filterMap fun
    | ⟨.createAuditLog _, stored⟩ => Stored.value? stored
    | _ => none

@[simp] theorem storedSettings_append (first second : List AdminExchange) :
    storedSettings (first ++ second) = storedSettings first ++ storedSettings second :=
  List.filterMap_append ..

@[simp] theorem storedLogs_append (first second : List AdminExchange) :
    storedLogs (first ++ second) = storedLogs first ++ storedLogs second :=
  List.filterMap_append ..

/-- An answer that comes from the audit log as it is, or stores what it was asked to. -/
def AnsweredFrom (rows : List AuditLog) : AdminExchange → Prop
  | ⟨.getSettings _, _⟩ => True
  | ⟨.upsertSettings settings, stored⟩ =>
    ∀ row ∈ Stored.value? stored, row.toNewWorkspaceSettings = settings
  | ⟨.createAuditLog log, stored⟩ => ∀ row ∈ Stored.value? stored, row.toNewAuditLog = log
  | ⟨.auditItems filters, answer⟩ =>
    ∀ items : List AuditLog, answer = .ok items → items = auditItems filters rows
  | ⟨.auditTotal filters, answer⟩ =>
    ∀ total : Nat, answer = .ok total → total = auditTotal filters rows

/-- Exchanges that are answered one after the other from a log that rows are added to. -/
def Grown (before : List AuditLog) : List AdminExchange → List AuditLog → Prop
  | [], after => before <+: after
  | exchange :: rest, after =>
    ∃ rows, before <+: rows ∧ AnsweredFrom rows exchange ∧ Grown rows rest after

namespace Grown

variable {before rows after : List AuditLog} {exchanges : List AdminExchange}

theorem isPrefix (grown : Grown before exchanges after) : before <+: after := by
  induction exchanges generalizing before with
  | nil => exact grown
  | cons exchange rest further =>
    obtain ⟨rows, earlier, _, later⟩ := grown
    exact earlier.trans (further later)

/-- The log may have had fewer rows at the beginning. -/
theorem earlier (grown : Grown rows exchanges after) (fewer : before <+: rows) :
    Grown before exchanges after := by
  cases exchanges with
  | nil => exact fewer.trans grown
  | cons exchange rest =>
    obtain ⟨there, reached, answered, later⟩ := grown
    exact ⟨there, fewer.trans reached, answered, later⟩

/-- The log may have more rows at the end. -/
theorem later (grown : Grown before exchanges rows) (more : rows <+: after) :
    Grown before exchanges after := by
  induction exchanges generalizing before with
  | nil => exact List.IsPrefix.trans grown more
  | cons exchange rest further =>
    obtain ⟨there, reached, answered, behind⟩ := grown
    exact ⟨there, reached, answered, further behind⟩

/-- One more exchange is answered from the rows that are there by then. -/
theorem snoc (grown : Grown before exchanges rows) {exchange : AdminExchange}
    (answered : AnsweredFrom rows exchange) (more : rows <+: after) :
    Grown before (exchanges ++ [exchange]) after := by
  induction exchanges generalizing before with
  | nil => exact ⟨rows, grown, answered, more⟩
  | cons other rest further =>
    obtain ⟨there, reached, earlier, behind⟩ := grown
    exact ⟨there, reached, earlier, further behind⟩

theorem split {second : List AdminExchange} (grown : Grown before (exchanges ++ second) after) :
    ∃ rows, Grown before exchanges rows ∧ Grown rows second after := by
  induction exchanges generalizing before with
  | nil => exact ⟨before, List.prefix_refl _, grown⟩
  | cons exchange rest further =>
    obtain ⟨there, reached, answered, behind⟩ := grown
    obtain ⟨rows, first, last⟩ := further behind
    exact ⟨rows, ⟨there, reached, answered, first⟩, last⟩

end Grown

/-- The audit of an update, by the body that it was made with. -/
def auditOf (actor : Option Uuid) (workspaceId : WorkspaceId)
    (body : UpdateWorkspaceSettingsRequest) : NewAuditLog where
  actorWorkspaceId := actor
  resourceWorkspaceId := some workspaceId
  action := "workspace_settings.update"
  resourceType := "workspace_settings"
  resourceId := workspaceId.toText
  metadata := body

/-- Settings that are saved as they were asked for are audited as they were asked for. -/
theorem updateLog_eq {saved : WorkspaceSettings} {body : UpdateWorkspaceSettingsRequest}
    {workspaceId : WorkspaceId} (same : saved.toNewWorkspaceSettings = body.settings workspaceId)
    (actor : Option Uuid) : updateLog actor workspaceId saved = auditOf actor workspaceId body := by
  have metadata : settingsMetadata saved = body := by
    rw [settingsMetadata, same]
    rfl
  rw [updateLog, metadata]
  rfl

/-- What a request to read or update settings may have stored so far. -/
structure SettingsUnderWay (request : SettingsRequest) (exchanges : List AdminExchange) :
    Prop where
  confined : ∀ row ∈ storedSettings exchanges, request.target = .ok row.workspaceId
  logged : ∀ row ∈ storedLogs exchanges, ∃ body actor workspaceId,
    request.update? = some (body, actor) ∧ request.target = .ok workspaceId ∧
      row.toNewAuditLog = auditOf actor workspaceId body ∧
      ∃ saved ∈ storedSettings exchanges,
        saved.toNewWorkspaceSettings = body.settings workspaceId
  once : (storedSettings exchanges).length ≤ 1 ∧ (storedLogs exchanges).length ≤ 1

/-- What a request to read or update settings comes to. -/
structure SettingsEnded (audited : Bool) (request : SettingsRequest)
    (exchanges : List AdminExchange) (answer : Except ApiError WorkspaceSettings) : Prop where
  refused : ∀ error, request.target = .error error → answer = .error error ∧ exchanges = []
  updated : ∀ saved body actor, answer = .ok saved → request.update? = some (body, actor) →
    ∃ workspaceId, request.target = .ok workspaceId ∧ saved ∈ storedSettings exchanges ∧
      saved.toNewWorkspaceSettings = body.settings workspaceId ∧
      (audited = true → ∃ row ∈ storedLogs exchanges,
        row.toNewAuditLog = auditOf actor workspaceId body)

/-- Every exchange stores what it was asked to, and reads what is there. -/
def Honest (exchanges : List AdminExchange) : Prop :=
  ∀ exchange ∈ exchanges, ∃ rows, AnsweredFrom rows exchange

theorem Grown.honest {before after : List AuditLog} {exchanges : List AdminExchange}
    (grown : Grown before exchanges after) : Honest exchanges := by
  induction exchanges generalizing before with
  | nil =>
    intro exchange member
    cases member
  | cons first rest further =>
    obtain ⟨rows, _, answered, later⟩ := grown
    intro exchange member
    obtain rfl | behind := List.mem_cons.mp member
    · exact ⟨rows, answered⟩
    · exact further later exchange behind

/-- What an update has saved is what it was asked to save. -/
theorem Honest.saved {exchanges : List AdminExchange} (honest : Honest exchanges)
    {settings : NewWorkspaceSettings} {stored : Stored WorkspaceSettings}
    (member : ⟨.upsertSettings settings, stored⟩ ∈ exchanges) {row : WorkspaceSettings}
    (kept : stored.value? = some row) : row.toNewWorkspaceSettings = settings := by
  obtain ⟨_, answered⟩ := honest _ member
  exact answered row kept

theorem Honest.logged {exchanges : List AdminExchange} (honest : Honest exchanges)
    {log : NewAuditLog} {stored : Stored AuditLog}
    (member : ⟨.createAuditLog log, stored⟩ ∈ exchanges) {row : AuditLog}
    (kept : stored.value? = some row) : row.toNewAuditLog = log := by
  obtain ⟨_, answered⟩ := honest _ member
  exact answered row kept

theorem length_toList_le {α : Type} (value? : Option α) : value?.toList.length ≤ 1 := by
  cases value? <;> simp

section

variable {request : SettingsRequest} {workspaceId : WorkspaceId}

/-- A request that has stored nothing. -/
theorem SettingsUnderWay.nothing {exchanges : List AdminExchange}
    (unsaved : storedSettings exchanges = []) (unlogged : storedLogs exchanges = []) :
    SettingsUnderWay request exchanges where
  confined row member := by
    rw [unsaved] at member
    cases member
  logged row member := by
    rw [unlogged] at member
    cases member
  once := by simp [unsaved, unlogged]

/-- A request that has stored settings of its workspace at most. -/
theorem SettingsUnderWay.saved (target : request.target = .ok workspaceId)
    {exchanges : List AdminExchange} (stored : Option WorkspaceSettings)
    (saved : storedSettings exchanges = stored.toList) (unlogged : storedLogs exchanges = [])
    (own : ∀ row ∈ stored, row.workspaceId = workspaceId) :
    SettingsUnderWay request exchanges where
  confined row member := by
    rw [saved, Option.mem_toList] at member
    rw [target, own row member]
  logged row member := by
    rw [unlogged] at member
    cases member
  once := by
    rw [saved, unlogged]
    exact ⟨length_toList_le _, Nat.zero_le _⟩

/-- Reading settings stores the defaults of the workspace at most. -/
theorem readSettings_always (target : request.target = .ok workspaceId) :
    (readSettings workspaceId).Always fun exchanges =>
      Honest exchanges → SettingsUnderWay request exchanges := by
  refine ⟨fun _ => .nothing rfl rfl, fun found => ?_⟩
  match found with
  | .error message => exact fun _ => .nothing rfl rfl
  | .ok (some settings) => exact fun _ => .nothing rfl rfl
  | .ok none =>
    refine ⟨fun _ => .nothing rfl rfl, fun stored honest => ?_⟩
    refine .saved target stored.value? ?_ rfl ?_
    · cases stored <;> rfl
    · intro row kept
      have same := honest.saved (List.mem_cons_of_mem _ List.mem_cons_self) kept
      exact congrArg NewWorkspaceSettings.workspaceId same

variable {body : UpdateWorkspaceSettingsRequest} {actor : Option Uuid}

/-- Writing settings stores what was asked for, and audits it behind that. -/
theorem writeSettings_always (audited : Bool) (target : request.target = .ok workspaceId)
    (update : request.update? = some (body, actor)) :
    (writeSettings audited actor body workspaceId).Always fun exchanges =>
      Honest exchanges → SettingsUnderWay request exchanges := by
  have saves (stored : Stored WorkspaceSettings)
      (honest : Honest [⟨.upsertSettings (body.settings workspaceId), stored⟩]) :
      SettingsUnderWay request [⟨.upsertSettings (body.settings workspaceId), stored⟩] := by
    refine .saved target stored.value? ?_ rfl ?_
    · cases stored <;> rfl
    · intro row kept
      exact congrArg NewWorkspaceSettings.workspaceId (honest.saved List.mem_cons_self kept)
  refine ⟨fun _ => .nothing rfl rfl, fun stored => ?_⟩
  cases stored with
  | lost message => exact saves _
  | unacknowledged message settings => exact saves _
  | done settings =>
    cases audited with
    | false => exact saves _
    | true =>
      -- Only what has been saved and acknowledged is audited.
      refine ⟨saves _, fun log => ?_⟩
      have both (honest : Honest [⟨.upsertSettings (body.settings workspaceId), .done settings⟩,
          ⟨.createAuditLog (updateLog actor workspaceId settings), log⟩]) :
          SettingsUnderWay request
            [⟨.upsertSettings (body.settings workspaceId), .done settings⟩,
              ⟨.createAuditLog (updateLog actor workspaceId settings), log⟩] := by
        have same := honest.saved List.mem_cons_self rfl
        have logs : storedLogs [⟨.upsertSettings (body.settings workspaceId), .done settings⟩,
            ⟨.createAuditLog (updateLog actor workspaceId settings), log⟩] =
              log.value?.toList := by
          cases log <;> rfl
        exact {
          confined := fun row member => by
            obtain rfl := List.mem_singleton.mp member
            rw [target, congrArg NewWorkspaceSettings.workspaceId same]
            rfl
          logged := fun row member => by
            rw [logs, Option.mem_toList] at member
            have made := honest.logged (List.mem_cons_of_mem _ List.mem_cons_self) member
            exact ⟨body, actor, workspaceId, update, target, made.trans (updateLog_eq same actor),
              settings, List.mem_cons_self, same⟩
          once := by
            rw [logs]
            exact ⟨Nat.le_refl 1, length_toList_le _⟩ }
      cases log with
      | done row => exact both
      | lost message => exact both
      | unacknowledged message row => exact both

/-- Settings that an update is answered with are saved, and audited where there is a log. -/
theorem writeSettings_meets (audited : Bool) (actor : Option Uuid)
    (body : UpdateWorkspaceSettingsRequest) (workspaceId : WorkspaceId) :
    (writeSettings audited actor body workspaceId).Meets fun exchanges answer =>
      Honest exchanges → ∀ saved, answer = .ok saved → saved ∈ storedSettings exchanges ∧
        saved.toNewWorkspaceSettings = body.settings workspaceId ∧
        (audited = true → ∃ row ∈ storedLogs exchanges,
          row.toNewAuditLog = auditOf actor workspaceId body) := by
  intro stored
  cases stored with
  | lost message => exact fun _ saved answered => by cases answered
  | unacknowledged message settings => exact fun _ saved answered => by cases answered
  | done settings =>
    cases audited with
    | false =>
      intro honest saved answered
      obtain rfl := Except.ok.inj answered
      exact ⟨List.mem_cons_self, honest.saved List.mem_cons_self rfl, fun wanted => by cases wanted⟩
    | true =>
      intro log
      cases log with
      | lost message => exact fun _ saved answered => by cases answered
      | unacknowledged message row => exact fun _ saved answered => by cases answered
      | done row =>
        intro honest saved answered
        obtain rfl := Except.ok.inj answered
        have same := honest.saved List.mem_cons_self rfl
        have made := honest.logged (List.mem_cons_of_mem _ List.mem_cons_self) rfl
        exact ⟨List.mem_cons_self, same,
          fun _ => ⟨row, List.mem_cons_self, made.trans (updateLog_eq same actor)⟩⟩

/-- At every point, a request to read or update settings has stored nothing but its own. -/
theorem SettingsRequest.handle_always (audited : Bool) (request : SettingsRequest) :
    (request.handle audited).Always fun exchanges =>
      Honest exchanges → SettingsUnderWay request exchanges := by
  rw [handle]
  cases target : request.target with
  | error error => exact fun _ => .nothing rfl rfl
  | ok workspaceId =>
    cases update : request.update? with
    | none => exact readSettings_always target
    | some both => exact writeSettings_always audited target update

/-- An update that is answered with settings has saved and audited them. -/
theorem SettingsRequest.handle_meets (audited : Bool) (request : SettingsRequest) :
    (request.handle audited).Meets fun exchanges answer =>
      Honest exchanges → SettingsEnded audited request exchanges answer := by
  rw [handle]
  cases target : request.target with
  | error error =>
    refine fun _ => ⟨fun other same => ?_, fun saved body actor answered => by cases answered⟩
    rw [target] at same
    cases same
    exact ⟨rfl, rfl⟩
  | ok workspaceId =>
    have accepted (exchanges : List AdminExchange) (answer : Except ApiError WorkspaceSettings) :
        ∀ error, request.target = .error error → answer = .error error ∧ exchanges = [] := by
      intro error refused
      rw [target] at refused
      cases refused
    cases update : request.update? with
    | none =>
      refine meets_of_forall _ fun exchanges answer _ => ⟨accepted exchanges answer, ?_⟩
      intro saved body actor _ updates
      rw [update] at updates
      cases updates
    | some both =>
      obtain ⟨body, actor⟩ := both
      exact (writeSettings_meets audited actor body workspaceId).mono
        fun exchanges answer told honest => {
          refused := accepted exchanges answer
          updated := fun saved other who answered updates => by
            rw [update] at updates
            cases updates
            exact ⟨workspaceId, target, told honest saved answered⟩ }

end

/-- The only workspace whose rows a listing may show, unless it may show all. -/
def AuditRequest.own? : AuditRequest → Option WorkspaceId
  | .http auth _ => if auth.capabilities.isEmpty then none else some auth.ctx.workspaceId
  | .grpc (.ok resolution) _ => some resolution.context.workspaceId
  | .grpc (.error _) _ => none

/-- A caller with a workspace of its own lists with that workspace as its filter. -/
theorem AuditRequest.target_own {request : AuditRequest} {filters : AuditLogFilters}
    (target : request.target = .ok filters) {own : WorkspaceId} (owned : request.own? = some own) :
    filters.workspaceId = some own := by
  cases request with
  | http auth query =>
    rw [own?] at owned
    split_ifs at owned with everything
    obtain rfl := Option.some.inj owned
    have scope (requested : Option Uuid) :
        auth.auditScope requested = .ok (some auth.ctx.workspaceId) := by
      rw [HttpAuthContext.auditScope, if_pos (by simpa using everything)]
      rfl
    rw [AuditRequest.target, auditTargetHttp, scope] at target
    cases allowed : auth.require .admin with
    | error error =>
      rw [allowed] at target
      cases target
    | ok _ =>
      rw [allowed] at target
      cases target
      rfl
  | grpc resolution query =>
    cases resolution with
    | error causes => cases owned
    | ok resolution =>
      obtain rfl := Option.some.inj owned
      rw [AuditRequest.target, auditTargetGrpc, authorizeRequest] at target
      dsimp only at target
      cases allowed : (authContextFromResolution resolution).require .admin with
      | error error =>
        rw [allowed] at target
        cases target
      | ok _ =>
        rw [allowed] at target
        cases target
        rfl

/-- The rows that a filter keeps stay what they are when others are added. -/
theorem filter_sublist {rows more : List AuditLog} (grown : rows <+: more)
    (filters : AuditLogFilters) :
    (rows.filter filters.keeps).Sublist (more.filter filters.keeps) :=
  grown.sublist.filter _

/-- Rows with numbers of their own are told apart by what they are ordered by. -/
theorem nodup_sortKey {rows : List AuditLog} (distinct : (rows.map AuditLog.id).Nodup)
    (filters : AuditLogFilters) : ((rows.filter filters.keeps).map AuditLog.sortKey).Nodup := by
  have kept : ((rows.filter filters.keeps).map AuditLog.id).Nodup :=
    distinct.sublist ((List.filter_sublist).map _)
  refine List.Nodup.of_map (fun key => (ofLex key).2) ?_
  rw [List.map_map]
  exact kept

theorem distinct_before {rows after : List AuditLog} (before : rows <+: after)
    (distinct : (after.map AuditLog.id).Nodup) : (rows.map AuditLog.id).Nodup :=
  distinct.sublist (before.sublist.map _)

/-- The rows of a page are rows that the filters keep. -/
theorem mem_of_mem_auditItems {filters : AuditLogFilters} {rows : List AuditLog} {row : AuditLog}
    (member : row ∈ auditItems filters rows) : row ∈ rows ∧ filters.keeps row = true := by
  have ordered := List.mem_of_mem_drop (List.mem_of_mem_take member)
  exact List.mem_filter.mp ((descending_perm _).mem_iff.mp ordered)

/-- What a listing comes to: a page of the rows of one moment, and a number that covers it. -/
structure PageKept (filters : AuditLogFilters) (before after : List AuditLog)
    (listed : AuditLogPage) : Prop where
  limit : listed.limit = filters.pageLimit
  offset : listed.offset = filters.pageOffset
  items : ∃ rows, before <+: rows ∧ rows <+: after ∧ listed.items = auditItems filters rows
  sorted : listed.items.Pairwise fun first second => second.sortKey < first.sortKey
  atLeast : auditTotal filters before ≤ listed.total
  atMost : listed.total ≤ auditTotal filters after
  covered : listed.items ≠ [] → listed.offset.toNat + listed.items.length ≤ listed.total

theorem auditTotal_mono {rows more : List AuditLog} (grown : rows <+: more)
    (filters : AuditLogFilters) : auditTotal filters rows ≤ auditTotal filters more :=
  grown.sublist.countP_le

/-- A page that is not empty ends before the number of all rows. -/
theorem length_auditItems {filters : AuditLogFilters} {rows : List AuditLog}
    (some : auditItems filters rows ≠ []) :
    filters.pageOffset.toNat + (auditItems filters rows).length ≤ auditTotal filters rows := by
  have all : (descending AuditLog.sortKey (rows.filter filters.keeps)).length =
      auditTotal filters rows := by
    rw [(descending_perm _).length_eq, auditTotal, List.countP_eq_length_filter]
  have long := List.length_pos_iff.mpr some
  rw [auditItems, page, List.length_take, List.length_drop, all] at long ⊢
  omega

theorem listAuditLogs_meets (filters : AuditLogFilters) :
    (listAuditLogs filters).Meets fun exchanges answer => ∀ before after,
      Grown before exchanges after → (after.map AuditLog.id).Nodup → ∀ listed,
        answer = .ok listed → PageKept filters before after listed := by
  intro items
  match items with
  | .error message => exact fun _ _ _ _ _ answered => by cases answered
  | .ok items =>
    intro total
    match total with
    | .error message => exact fun _ _ _ _ _ answered => by cases answered
    | .ok total =>
      intro before after grown distinct listed answered
      obtain rfl := Except.ok.inj answered
      -- The number is counted later than the rows are listed.
      obtain ⟨rows, earlier, found, later, more, counted, rest⟩ := grown
      obtain rfl := found items rfl
      obtain rfl := counted total rfl
      have rest : later <+: after := rest
      have apart := nodup_sortKey (distinct_before (more.trans rest) distinct) filters
      exact {
        limit := rfl
        offset := rfl
        items := ⟨rows, earlier, more.trans rest, rfl⟩
        sorted := (pairwise_descending apart).sublist
          ((List.take_sublist _ _).trans (List.drop_sublist _ _))
        atLeast := auditTotal_mono (earlier.trans more) filters
        atMost := auditTotal_mono rest filters
        covered := fun some => (length_auditItems some).trans (auditTotal_mono more filters) }

theorem AuditRequest.handle_meets {request : AuditRequest} {filters : AuditLogFilters}
    (target : request.target = .ok filters) :
    request.handle.Meets fun exchanges answer => ∀ before after,
      Grown before exchanges after → (after.map AuditLog.id).Nodup → ∀ listed,
        answer = .ok listed → PageKept filters before after listed := by
  rw [handle, target]
  refine (listAuditLogs_meets filters).bind fun exchanges answer told => ?_
  intro before after grown distinct listed answered
  rw [List.append_nil] at grown
  cases answer with
  | error message => cases answered
  | ok page => exact told before after grown distinct listed (congrArg _ (Except.ok.inj answered))

/-- Another page is asked for with the same filters, by the same callers. -/
theorem AuditRequest.target_at (request : AuditRequest) (offset : UInt32) :
    (request.at offset).target =
      request.target.map fun filters => { filters with offset := some offset } := by
  cases request with
  | http auth query =>
    simp only [AuditRequest.target, AuditRequest.at, auditTargetHttp]
    cases auth.require .admin with
    | error error => rfl
    | ok _ => cases auth.auditScope query.workspaceId <;> rfl
  | grpc resolution query =>
    simp only [AuditRequest.target, AuditRequest.at, auditTargetGrpc, authorizeRequest]
    cases resolution with
    | error causes => rfl
    | ok resolution =>
      dsimp only
      cases (authContextFromResolution resolution).require .admin <;> rfl

/-- What a reader has seen when its walk is over. -/
structure WalkKept (filters : AuditLogFilters) (offset : UInt32) (before after : List AuditLog)
    (rows : List AuditLog) : Prop where
  shown : ∀ row ∈ before, filters.keeps row = true →
    offset.toNat ≤ rankOf AuditLog.sortKey (before.filter filters.keeps) row → row ∈ rows
  there : ∀ row ∈ rows, row ∈ after ∧ filters.keeps row = true

section

variable {filters : AuditLogFilters} {offset : UInt32} {before middle after : List AuditLog}
  {listed : AuditLogPage}

/-- A page shows a row that the filters keep, unless its rank is beyond the page. -/
theorem PageKept.shows (kept : PageKept { filters with offset := some offset } before after listed)
    (distinct : (after.map AuditLog.id).Nodup) {row : AuditLog} (there : row ∈ before)
    (keeps : filters.keeps row = true)
    (behind : offset.toNat ≤ rankOf AuditLog.sortKey (before.filter filters.keeps) row) :
    row ∈ listed.items ∨ listed.items.length = listed.limit.toNat ∧
      ∃ rows, rows <+: after ∧ row ∈ rows ∧ offset.toNat + listed.limit.toNat ≤
        rankOf AuditLog.sortKey (rows.filter filters.keeps) row := by
  obtain ⟨rows, earlier, later, items⟩ := kept.items
  have rank := rankOf_le_of_sublist AuditLog.sortKey (filter_sublist earlier filters) row
  have member : row ∈ rows.filter filters.keeps :=
    List.mem_filter.mpr ⟨earlier.subset there, keeps⟩
  rw [kept.limit]
  by_cases inside : rankOf AuditLog.sortKey (rows.filter filters.keeps) row <
      offset.toNat + filters.pageLimit.toNat
  · left
    rw [items]
    exact (mem_page_descending_iff
      (nodup_sortKey (distinct_before later distinct) filters)).mpr
        ⟨member, behind.trans rank, inside⟩
  · right
    refine ⟨?_, rows, later, earlier.subset there, Nat.le_of_not_lt inside⟩
    rw [items]
    exact length_page_descending member (Nat.le_of_not_lt inside)

/-- The rows of a page are in the log, and the filters keep them. -/
theorem PageKept.there (kept : PageKept { filters with offset := some offset } before after listed)
    {row : AuditLog} (member : row ∈ listed.items) : row ∈ after ∧ filters.keeps row = true := by
  obtain ⟨rows, _, later, items⟩ := kept.items
  rw [items] at member
  obtain ⟨there, keeps⟩ := mem_of_mem_auditItems member
  exact ⟨later.subset there, keeps⟩

/-- A walk ends with a page that is not full. -/
theorem PageKept.walked
    (kept : PageKept { filters with offset := some offset } before after listed)
    (short : listed.items.length < listed.limit.toNat)
    (distinct : (after.map AuditLog.id).Nodup) :
    WalkKept filters offset before after listed.items where
  shown row there keeps behind := by
    obtain shown | ⟨full, _⟩ := kept.shows distinct there keeps behind
    · exact shown
    · omega
  there row member := kept.there member

/-- A walk goes on behind a page that is full, with a log that may have grown. -/
theorem PageKept.walkedOn {rest : List AuditLog}
    (kept : PageKept { filters with offset := some offset } before middle listed)
    (fits : offset.toNat + listed.limit.toNat < 2 ^ 32) (reached : middle <+: after)
    (distinct : (after.map AuditLog.id).Nodup)
    (walked : WalkKept filters (offset + listed.limit) middle after rest) :
    WalkKept filters offset before after (listed.items ++ rest) where
  shown row there keeps behind := by
    have apart := distinct_before reached distinct
    obtain shown | ⟨_, rows, later, member, beyond⟩ := kept.shows apart there keeps behind
    · exact List.mem_append_left _ shown
    · -- The row may only have moved away from the front since then.
      have rank := rankOf_le_of_sublist AuditLog.sortKey (filter_sublist later filters) row
      have next : (offset + listed.limit).toNat = offset.toNat + listed.limit.toNat := by
        rw [UInt32.toNat_add, Nat.mod_eq_of_lt fits]
      refine List.mem_append_right _ (walked.shown row (later.subset member) keeps ?_)
      rw [next]
      exact beyond.trans rank
  there row member := by
    obtain first | behind := List.mem_append.mp member
    · obtain ⟨there, keeps⟩ := kept.there first
      exact ⟨reached.subset there, keeps⟩
    · exact walked.there row behind

end

/-- A walk misses no row that was there at its beginning, whatever is added meanwhile. -/
theorem AuditRequest.walk_meets {request : AuditRequest} {filters : AuditLogFilters}
    (target : request.target = .ok filters) (pages : Nat) (offset : UInt32) :
    (request.walk pages offset).Meets fun exchanges answer => ∀ before after,
      Grown before exchanges after → (after.map AuditLog.id).Nodup → ∀ rows,
        answer = .ok rows → WalkKept filters offset before after rows := by
  induction pages generalizing offset with
  | zero => exact fun _ _ _ _ _ answered => by cases answered
  | succ pages further =>
    rw [walk]
    have there := request.target_at offset
    rw [target] at there
    refine (handle_meets there).bind fun first answer told => ?_
    cases answer with
    | error error => exact fun _ _ _ _ _ answered => by cases answered
    | ok listed =>
      dsimp only
      by_cases short : listed.items.length < listed.limit.toNat
      · rw [if_pos short]
        intro before after grown distinct rows answered
        obtain rfl := Except.ok.inj answered
        rw [List.append_nil] at grown
        exact (told before after grown distinct listed rfl).walked short distinct
      · rw [if_neg short]
        by_cases fits : offset.toNat + listed.limit.toNat < 2 ^ 32
        · rw [if_pos fits]
          refine (further (offset + listed.limit)).bind fun second answer later => ?_
          intro before after grown distinct rows answered
          rw [List.append_nil] at grown
          obtain ⟨middle, early, late⟩ := grown.split
          cases answer with
          | error error => cases answered
          | ok rest =>
            obtain rfl := Except.ok.inj answered
            have reached := late.isPrefix
            have page := told before middle early (distinct_before reached distinct) listed rfl
            exact page.walkedOn fits reached distinct (later middle after late distinct rest rfl)
        · rw [if_neg fits]
          exact fun _ _ _ _ _ answered => by cases answered

end Zradar.Settings

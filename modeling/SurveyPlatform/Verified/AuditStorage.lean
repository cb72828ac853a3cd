import SurveyPlatform.Audit.Tasks
import SurveyPlatform.Verified.AuditActors

/-! # From committed changes to audit entries

Every committed change of a tracked model has a task of its own
(`committed_subperm_dispatched`), and the task stores its entry exactly when the
column takes the address the header gives and the user it names is still stored
(`storesEntry_iff`).  Nothing checks the header on the way, so a header that is no
address loses the entry (`changes_stored_iff`).
-/

namespace SurveyPlatform.Verified

open SurveyPlatform.Library SurveyPlatform.Library.Program SurveyPlatform.Python
open SurveyPlatform.Surveys SurveyPlatform.Responses
open SurveyPlatform.Audit (Worker AuditTask RowChange HttpRequest AdminPage Visit AuditTables AuditLog dispatched
  committed createAuditLog auditLogOf auditLogConstraints firstEntry)

/-! ## A task for each change -/

/-- New tasks cover the new changes of tracked models. -/
structure Covers (before after : Worker) : Prop where
  covered : ∃ tasks changes, after.published = before.published ++ tasks ∧
    after.journal = before.journal ++ changes ∧ (trackedEntries changes).Subperm (tasks.map AuditTask.entry)

theorem Covers.refl (worker : Worker) : Covers worker worker :=
  ⟨[], [], by simp, by simp, List.Subperm.refl _⟩

theorem Accounted.covers {before after : Worker} (accounted : Accounted before after) : Covers before after := by
  obtain ⟨tasks, changes, published, journal, perm, _⟩ := accounted.matched
  refine ⟨tasks, changes, published, journal, ?_⟩
  have fewer : (trackedEntries changes).Sublist (changes.map RowChange.entry) := List.filter_sublist.map _
  exact fewer.subperm.trans perm.symm.subperm

theorem RolledBack.covers {before after : Worker} (rolledBack : RolledBack before after) : Covers before after := by
  obtain ⟨task, published, _⟩ := rolledBack.sent
  refine ⟨[task], [], published, ?_, List.nil_subperm⟩
  rw [rolledBack.sameJournal, List.append_nil]

theorem covers_audited (py : Interpreter) (worker : Worker) (call : Call) :
    Covers worker (final (Audit.audited py call) worker) := by
  by_cases rollsBack : RollsBack py worker.world call
  · exact (rolledBack_audited py worker call rollsBack).covers
  · exact (accounted_audited py worker call rollsBack).covers

theorem covers_perform (worker : Worker) (page : AdminPage) : Covers worker (final page.perform worker) := by
  obtain ⟨tasks, published, entries, _⟩ := sendSignals_publishes (writtenBy page worker)
    (page.undone worker.world.db ++ page.changes worker.world.db)
  rw [final_perform, published]
  refine ⟨tasks, page.changes worker.world.db, rfl, rfl, ?_⟩
  rw [entries, trackedEntries_append]
  exact (List.sublist_append_right _ _).subperm

/-- No change without a task: counted with repetition, in each request of any run. -/
theorem committed_subperm_dispatched (py : Interpreter) (worker : Worker) (visit : Visit) :
    (trackedEntries (committed py worker visit)).Subperm ((dispatched py worker visit).map AuditTask.entry) := by
  have covers : Covers (Audit.auditIPMiddleware visit.http worker) (visit.serve py worker) :=
    serve_relates py Covers.refl (covers_audited py) covers_perform worker visit
  obtain ⟨tasks, changes, published, journal, covered⟩ := covers.covered
  have newTasks : dispatched py worker visit = tasks := by
    rw [dispatched, published]
    exact List.drop_left
  have newChanges : committed py worker visit = changes := by
    rw [committed, journal]
    exact List.drop_left
  rw [newTasks, newChanges]
  exact covered

/-! ## An entry for each task -/

/-- The entry says what the task said; a blank address is left out. -/
structure Records (row : AuditLog) (task : AuditTask) : Prop where
  sameUser : row.userId = task.userId
  sameAction : row.action = task.action
  sameModel : row.modelName = task.modelName
  sameObject : row.objectId = task.objectId
  sameAddress : row.ipAddress = task.ipAddress.filter (· ≠ "")

theorem records_auditLogOf (task : AuditTask) (id : Nat) : Records (auditLogOf task id) task :=
  ⟨rfl, rfl, rfl, rfl, rfl⟩

/-- The task ends with a new row that records it. -/
def StoresEntry (isAddress : String → Bool) (tables : AuditTables) (task : AuditTask) : Prop :=
  ∃ row, row ∉ tables.auditLogs.rows ∧
    row ∈ (final (createAuditLog isAddress task) tables).auditLogs.rows ∧ Records row task

section Tables

variable {isAddress : String → Bool} {tables : AuditTables} {task : AuditTask}

theorem auditLogConstraints_eq_ok_iff (row : AuditLog) : auditLogConstraints isAddress tables row = .ok () ↔
    (∀ address, row.ipAddress = some address → isAddress address = true) ∧
      ∀ user, row.userId = some user → tables.hasUser user = true := by
  unfold auditLogConstraints
  by_cases addressRefused : row.ipAddress.any fun address => !isAddress address
  · rw [if_pos addressRefused]
    obtain ⟨address, given, refused⟩ := (Option.any_eq_true _ _).mp addressRefused
    refine iff_of_false (by simp [throw, throwThe, MonadExceptOf.throw]) ?_
    intro accepted
    simp [accepted.1 address given] at refused
  · rw [if_neg addressRefused]
    by_cases userRefused : row.userId.any fun user => !tables.hasUser user
    · rw [if_pos userRefused]
      obtain ⟨user, named, refused⟩ := (Option.any_eq_true _ _).mp userRefused
      refine iff_of_false (by simp [throw, throwThe, MonadExceptOf.throw]) ?_
      intro accepted
      simp [accepted.2 user named] at refused
    · rw [if_neg userRefused]
      refine iff_of_true rfl ⟨?_, ?_⟩
      · intro address given
        simpa [given] using addressRefused
      · intro user named
        simpa [named] using userRefused

theorem createAuditLog_of_error {exn : PyExn}
    (refused : auditLogConstraints isAddress tables (auditLogOf task tables.auditLogs.next) = .error exn) :
    createAuditLog isAddress task tables = .error exn tables := by
  let check (tables : AuditTables) := auditLogConstraints isAddress tables (auditLogOf task tables.auditLogs.next)
  have refusedHere : check tables = .error exn := refused
  exact reading_bind_error refusedHere

theorem createAuditLog_of_ok
    (accepted : auditLogConstraints isAddress tables (auditLogOf task tables.auditLogs.next) = .ok ()) :
    createAuditLog isAddress task tables = .ok () { tables with
      auditLogs := tables.auditLogs.insert (auditLogOf task) (Audit.key_auditLogOf task) } := by
  let check (tables : AuditTables) := auditLogConstraints isAddress tables (auditLogOf task tables.auditLogs.next)
  have acceptedHere : check tables = .ok () := accepted
  exact reading_bind_ok acceptedHere

/-- A task that is refused leaves no row, and one that is not adds a row. -/
theorem storesEntry_iff_constraints : StoresEntry isAddress tables task ↔
    auditLogConstraints isAddress tables (auditLogOf task tables.auditLogs.next) = .ok () := by
  unfold StoresEntry
  cases checked : auditLogConstraints isAddress tables (auditLogOf task tables.auditLogs.next) with
  | error exn =>
    rw [final, createAuditLog_of_error checked]
    refine iff_of_false ?_ (by simp)
    rintro ⟨row, absent, present, _⟩
    exact absent present
  | ok _ =>
    rw [final, createAuditLog_of_ok checked]
    refine iff_of_true ⟨auditLogOf task tables.auditLogs.next, ?_, ?_, records_auditLogOf task _⟩ rfl
    · intro stored
      exact absurd (Table.lt_next (Table.mem_rows.mp stored)) (Nat.lt_irrefl _)
    · rw [Table.mem_rows_insert]
      exact Or.inl rfl

theorem storesEntry_iff : StoresEntry isAddress tables task ↔
    (∀ address, task.ipAddress = some address → address = "" ∨ isAddress address = true) ∧
      ∀ user, task.userId = some user → tables.hasUser user = true := by
  rw [storesEntry_iff_constraints, auditLogConstraints_eq_ok_iff]
  refine and_congr ?_ Iff.rfl
  simp only [auditLogOf, Option.filter_eq_some_iff, decide_eq_true_eq]
  grind

end Tables

/-! ## The header -/

/-- The first entry of the header is blank or an address. -/
def HeaderAccepted (isAddress : String → Bool) (http : HttpRequest) : Prop :=
  ∀ header, http.forwardedFor = some header → firstEntry header = "" ∨ isAddress (firstEntry header) = true

/-- The user of the session is still there when the task runs. -/
def SessionStored (tables : AuditTables) (http : HttpRequest) : Prop :=
  ∀ user, http.session = some user → tables.hasUser user.id = true

/-- `REMOTE_ADDR` is set by the server. -/
def RemoteAddressed (isAddress : String → Bool) (http : HttpRequest) : Prop :=
  ∃ address, http.remoteAddr = some address ∧ isAddress address = true

theorem clientIp_accepted_iff {isAddress : String → Bool} {http : HttpRequest}
    (remote : RemoteAddressed isAddress http) :
    (∀ address, http.clientIp = some address → address = "" ∨ isAddress address = true) ↔
      HeaderAccepted isAddress http := by
  obtain ⟨remoteAddress, known, valid⟩ := remote
  unfold HeaderAccepted HttpRequest.clientIp
  cases http.forwardedFor with
  | none => simp [known, valid]
  | some header =>
    by_cases blank : header = ""
    · -- an empty header is passed over, and its only entry is blank too
      have blankEntry : firstEntry "" = "" := rfl
      simp [blank, known, valid, blankEntry]
    · simp [blank]

/-- In every run, each committed change of a tracked model has a task of its own, and
each task of a request stores its entry exactly when the column takes the first
entry of the header (or there is none) and the user of the session is still stored. -/
theorem changes_stored_iff (py : Interpreter) (isAddress : String → Bool) (worker : Worker) (visits : List Visit)
    (remote : ∀ visit ∈ visits, RemoteAddressed isAddress visit.http) :
    Along (Visit.serve py) (fun worker visit =>
      (trackedEntries (committed py worker visit)).Subperm ((dispatched py worker visit).map AuditTask.entry) ∧
      ∀ task ∈ dispatched py worker visit, ∀ tables, StoresEntry isAddress tables task ↔
        HeaderAccepted isAddress visit.http ∧ SessionStored tables visit.http) worker visits := by
  apply along_of_forall_mem
  intro worker visit member
  refine ⟨committed_subperm_dispatched py worker visit, ?_⟩
  intro task sent tables
  obtain ⟨sameUser, sameAddress⟩ := dispatched_sentFrom py worker visit task sent
  rw [storesEntry_iff, sameUser, sameAddress]
  refine and_congr (clientIp_accepted_iff (remote visit member)) ?_
  simp [contextOf, SessionStored]

/-! ## Two headers -/

/-- A survey is created behind a proxy that sends this header. -/
def createBehind (header : String) : Visit :=
  .api { adminRequest (.createSurvey ⟨.given "Health", .missing, .missing⟩) with forwardedFor := some header }

/-- Tables that know every user. -/
def anyUser : AuditTables := ⟨fun _ => true, Table.empty⟩

theorem createBehind_addressed (header : String) : RemoteAddressed Audit.isIpAddress (createBehind header).http :=
  ⟨"10.0.0.7", rfl, by decide⟩

/-- The client's address and a proxy's: the entry is stored. -/
theorem changes_stored_proxied :
    ∃ task ∈ dispatched bareInterpreter (Worker.start World.empty) (createBehind "203.0.113.9, 10.0.0.8"),
      task.entry = (.create, "Survey", "1") ∧ StoresEntry Audit.isIpAddress anyUser task := by
  have remote : ∀ visit ∈ [createBehind "203.0.113.9, 10.0.0.8"], RemoteAddressed Audit.isIpAddress visit.http := by
    intro visit member
    rw [List.mem_singleton.mp member]
    exact createBehind_addressed _
  obtain ⟨⟨_, stored⟩, _⟩ := changes_stored_iff bareInterpreter Audit.isIpAddress (Worker.start World.empty) _ remote
  have entries : (dispatched bareInterpreter (Worker.start World.empty)
      (createBehind "203.0.113.9, 10.0.0.8")).map AuditTask.entry = [(.create, "Survey", "1")] := by
    decide +kernel
  obtain ⟨task, sent, entry⟩ : ∃ task ∈ dispatched bareInterpreter (Worker.start World.empty)
      (createBehind "203.0.113.9, 10.0.0.8"), task.entry = (.create, "Survey", "1") := by
    refine List.mem_map.mp ?_
    rw [entries]
    exact List.mem_singleton_self _
  refine ⟨task, sent, entry, (stored task sent anyUser).mpr ⟨?_, ?_⟩⟩
  · intro header given
    cases given
    exact Or.inr (by decide +kernel)
  · intro user present
    cases present

/-- What a proxy sends that hides its client: the survey is stored, and no entry. -/
theorem changes_stored_unknownClient :
    committed bareInterpreter (Worker.start World.empty) (createBehind "unknown") = [.saved .surveys 1 true] ∧
    RemoteAddressed Audit.isIpAddress (createBehind "unknown").http ∧
    ∀ task ∈ dispatched bareInterpreter (Worker.start World.empty) (createBehind "unknown"),
      ¬ StoresEntry Audit.isIpAddress anyUser task := by
  refine ⟨by decide +kernel, createBehind_addressed _, ?_⟩
  intro task sent stored
  obtain ⟨_, sameAddress⟩ := dispatched_sentFrom _ _ _ task sent
  have given : task.ipAddress = some "unknown" := sameAddress.trans (by decide +kernel)
  rcases (storesEntry_iff.mp stored).1 "unknown" given with blank | isAddress
  · exact absurd blank (by decide)
  · exact absurd isAddress (by decide)

end SurveyPlatform.Verified

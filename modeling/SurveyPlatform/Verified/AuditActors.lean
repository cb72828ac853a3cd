import SurveyPlatform.Verified.AuditTrail

/-! # Who a task names

The middleware stores the user of the session before the view runs; the API
authenticates inside the view, by the bearer token, and nothing is stored again.
So a task always carries the address of its own request, and the request's user
exactly when the session belongs to that user (`tasks_nameActor_iff`).
-/

namespace SurveyPlatform.Verified

open SurveyPlatform.Library SurveyPlatform.Library.Program SurveyPlatform.Python
open SurveyPlatform.Surveys SurveyPlatform.Responses
open SurveyPlatform.Audit (Audited Worker AuditTask RowChange ThreadLocal HttpRequest ApiRequest AdminPage Visit
  dispatched trackedModels)

/-! ## What a request publishes -/

/-- Tasks are added, each with what the thread has stored. -/
def Sends (before after : Worker) : Prop :=
  ∃ tasks, after.published = before.published ++ tasks ∧ ∀ task ∈ tasks, SentFrom before.threadLocal task

theorem Sends.refl (worker : Worker) : Sends worker worker := ⟨[], by simp, by simp⟩

theorem Accounted.sends {before after : Worker} (accounted : Accounted before after) : Sends before after := by
  obtain ⟨tasks, _, published, _, _, sent⟩ := accounted.matched
  exact ⟨tasks, published, sent⟩

theorem RolledBack.sends {before after : Worker} (rolledBack : RolledBack before after) : Sends before after := by
  obtain ⟨task, published, sent⟩ := rolledBack.sent
  refine ⟨[task], published, ?_⟩
  intro other member
  rw [List.mem_singleton.mp member]
  exact sent

theorem sends_audited (py : Interpreter) (worker : Worker) (call : Call) :
    Sends worker (final (Audit.audited py call) worker) := by
  by_cases rollsBack : RollsBack py worker.world call
  · exact (rolledBack_audited py worker call rollsBack).sends
  · exact (accounted_audited py worker call rollsBack).sends

/-- The changes the audit trail is about. -/
def trackedEntries (changes : List RowChange) : List (Audit.AuditAction × String × String) :=
  (changes.filter fun change => change.model ∈ trackedModels).map RowChange.entry

theorem trackedEntries_append (changes later : List RowChange) :
    trackedEntries (changes ++ later) = trackedEntries changes ++ trackedEntries later := by
  rw [trackedEntries, List.filter_append, List.map_append]
  rfl

/-- The signal of a tracked model publishes the entry of its change, and another nothing. -/
theorem entry_auditPostSave (context : ThreadLocal) (model : Audit.ModelClass) (pk : Nat) (created : Bool) :
    (Audit.auditPostSave context model pk created).toList.map AuditTask.entry =
      trackedEntries [.saved model pk created] := by
  rw [Audit.auditPostSave, trackedEntries]
  by_cases tracked : model ∈ trackedModels
  · simp [tracked, RowChange.model, AuditTask.entry, RowChange.entry]
  · simp [tracked, RowChange.model]

theorem entry_auditPostDelete (context : ThreadLocal) (model : Audit.ModelClass) (pk : Nat) :
    ([(model, pk)].filterMap fun (sender, pk) => Audit.auditPostDelete context sender pk).map AuditTask.entry =
      trackedEntries [.deleted model pk] := by
  rw [map_entry_auditPostDelete, trackedEntries]
  by_cases tracked : model ∈ trackedModels
  · simp [tracked, RowChange.model]
  · simp [tracked, RowChange.model]

/-- Induction on the changes of the page; the rows are written already. -/
theorem sendSignals_publishes (worker : Worker) (changes : List RowChange) :
    ∃ tasks, final (Audit.sendSignals changes) worker = { worker with published := worker.published ++ tasks } ∧
      tasks.map AuditTask.entry = trackedEntries changes ∧ ∀ task ∈ tasks, SentFrom worker.threadLocal task := by
  induction changes generalizing worker with
  | nil => exact ⟨[], by simp [Audit.sendSignals, final, pure, EStateM.pure], rfl, by simp⟩
  | cons change rest inductionHypothesis =>
    cases change with
    | saved model pk created =>
      obtain ⟨later, published, entries, sent⟩ := inductionHypothesis (final
        (Audit.sendPostSave model pk created : Audited Unit) worker)
      refine ⟨(Audit.auditPostSave worker.threadLocal model pk created).toList ++ later, ?_, ?_, ?_⟩
      · rw [← List.append_assoc]
        exact published
      · rw [List.map_append, entries, entry_auditPostSave, ← trackedEntries_append]
        rfl
      · exact List.forall_mem_append.mpr ⟨sentFrom_auditPostSave _ _ _ _, sent⟩
    | deleted model pk =>
      obtain ⟨later, published, entries, sent⟩ := inductionHypothesis (final
        (Audit.sendPostDelete [(model, pk)] : Audited Unit) worker)
      refine ⟨([(model, pk)].filterMap fun (sender, pk) => Audit.auditPostDelete worker.threadLocal sender pk) ++ later,
        ?_, ?_, ?_⟩
      · rw [← List.append_assoc]
        exact published
      · rw [List.map_append, entries, entry_auditPostDelete, ← trackedEntries_append]
        rfl
      · exact List.forall_mem_append.mpr ⟨sentFrom_auditPostDelete _ _, sent⟩

/-- The worker when the page has written its rows and sent nothing yet. -/
def writtenBy (page : AdminPage) (worker : Worker) : Worker :=
  { worker with
    world := { worker.world with db := page.rows worker.world.db }
    journal := worker.journal ++ page.changes worker.world.db }

theorem final_perform (page : AdminPage) (worker : Worker) : final page.perform worker =
    final (Audit.sendSignals (page.undone worker.world.db ++ page.changes worker.world.db))
      (writtenBy page worker) := rfl

theorem sends_perform (worker : Worker) (page : AdminPage) : Sends worker (final page.perform worker) := by
  obtain ⟨tasks, published, _, sent⟩ := sendSignals_publishes (writtenBy page worker)
    (page.undone worker.world.db ++ page.changes worker.world.db)
  rw [final_perform, published]
  exact ⟨tasks, rfl, sent⟩

/-- What holds across every view and every page, and where nothing is done, holds
between the middleware and the end of any request. -/
theorem serve_relates {relation : Worker → Worker → Prop} (py : Interpreter) (reflexive : ∀ worker, relation worker worker)
    (view : ∀ worker call, relation worker (final (Audit.audited py call) worker))
    (adminPage : ∀ worker page, relation worker (final (AdminPage.perform page) worker)) (worker : Worker)
    (visit : Visit) : relation (Audit.auditIPMiddleware visit.http worker) (visit.serve py worker) := by
  cases visit with
  | api request =>
    simp only [Visit.serve, Visit.http, ApiRequest.serve]
    cases request.bearer with
    | none => exact reflexive _
    | some user => exact view _ _
  | admin http page =>
    simp only [Visit.serve, Visit.http]
    cases http.session with
    | none => exact reflexive _
    | some user => exact adminPage _ _

/-- What the middleware stores for a request. -/
def contextOf (http : HttpRequest) : ThreadLocal := ⟨http.clientIp, http.session⟩

/-- Whatever earlier requests left in the thread. -/
theorem dispatched_sentFrom (py : Interpreter) (worker : Worker) (visit : Visit) :
    ∀ task ∈ dispatched py worker visit, SentFrom (contextOf visit.http) task := by
  have sends : Sends (Audit.auditIPMiddleware visit.http worker) (visit.serve py worker) :=
    serve_relates py Sends.refl (sends_audited py) sends_perform worker visit
  obtain ⟨tasks, published, sent⟩ := sends
  have added : dispatched py worker visit = tasks := by
    rw [dispatched, published]
    exact List.drop_left
  rw [added]
  exact sent

/-! ## The actor -/

/-- The task names the user the request is authenticated as when it writes, and its address. -/
def NamesActor (task : AuditTask) (visit : Visit) : Prop :=
  task.userId = visit.actor.map User.id ∧ task.ipAddress = visit.http.clientIp

/-- The session belongs to the user the request writes as. -/
def ActsAsSession (visit : Visit) : Prop := visit.http.session.map User.id = visit.actor.map User.id

/-- In every run, from whatever is stored in the thread, a task carries the address of
its own request, and names the actor exactly when the session is the actor's. -/
theorem tasks_nameActor_iff (py : Interpreter) (worker : Worker) (visits : List Visit) :
    Along (Visit.serve py) (fun worker visit => ∀ task ∈ dispatched py worker visit,
      task.ipAddress = visit.http.clientIp ∧ (NamesActor task visit ↔ ActsAsSession visit)) worker visits := by
  apply along_of_forall
  intro worker visit task member
  obtain ⟨sameUser, sameAddress⟩ := dispatched_sentFrom py worker visit task member
  refine ⟨sameAddress, ?_⟩
  rw [NamesActor, ActsAsSession, sameUser]
  exact and_iff_left sameAddress

/-! ## A token and no session -/

/-- An administrator's `POST` to the API. -/
def tokenOnly : Visit := .api (adminRequest (.createSurvey ⟨.given "Health", .missing, .missing⟩))

/-- The survey is the administrator's, and the task nobody's. -/
theorem tasks_nameActor_tokenOnly :
    tokenOnly.actor = some administrator ∧
    (dispatched bareInterpreter (Worker.start World.empty) tokenOnly).map AuditTask.userId = [none] ∧
    ¬ Along (Visit.serve bareInterpreter) (fun worker visit => ∀ task ∈ dispatched bareInterpreter worker visit,
      NamesActor task visit) (Worker.start World.empty) [tokenOnly] := by
  have nobody : (dispatched bareInterpreter (Worker.start World.empty) tokenOnly).map AuditTask.userId = [none] := by
    decide +kernel
  refine ⟨rfl, nobody, ?_⟩
  intro named
  obtain ⟨task, member, unnamed⟩ : ∃ task ∈ dispatched bareInterpreter (Worker.start World.empty) tokenOnly,
      task.userId = none := by
    refine List.mem_map.mp ?_
    rw [nobody]
    exact List.mem_singleton_self _
  have sameUser := (named.1 task member).1
  rw [unnamed] at sameUser
  cases sameUser

end SurveyPlatform.Verified

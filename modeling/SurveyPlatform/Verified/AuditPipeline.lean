import Mathlib.Data.List.Perm.Basic
import SurveyPlatform.Library.References
import SurveyPlatform.Verified.AuditReads
import SurveyPlatform.Verified.AuditStorage

/-! # From published tasks to audit entries, in any order

Workers take the tasks of the queue in whatever order, while requests go on and
accounts are stored.  No task is lost on the way or run twice: at every moment each
published task has its row, waits, or was refused, and the rows of the audit table are
never changed (`tasks_conserved`).  A task is refused for its address or its user alone.
-/

namespace SurveyPlatform.Verified

open SurveyPlatform.Library SurveyPlatform.Library.Program SurveyPlatform.Python SurveyPlatform.Surveys
open SurveyPlatform.Audit (Worker AuditTask AuditTables AuditLog ReadRequest ReadContext Pipeline PipelineEvent
  createAuditLog auditLogOf auditLogConstraints key_auditLogOf)

/-! ## Acceptable tasks -/

/-- The column takes the address, and the user is stored. -/
structure Acceptable (isAddress : String → Bool) (hasUser : Nat → Bool) (task : AuditTask) : Prop where
  address : ∀ address, task.ipAddress = some address → address = "" ∨ isAddress address = true
  user : ∀ user, task.userId = some user → hasUser user = true

theorem Acceptable.mono {isAddress : String → Bool} {hasUser hasUser' : Nat → Bool} {task : AuditTask}
    (grows : ∀ id, hasUser id = true → hasUser' id = true) (acceptable : Acceptable isAddress hasUser task) :
    Acceptable isAddress hasUser' task :=
  ⟨acceptable.address, fun user named => grows user (acceptable.user user named)⟩

theorem acceptable_iff {isAddress : String → Bool} {tables : AuditTables} {task : AuditTask} :
    Acceptable isAddress tables.hasUser task ↔
      auditLogConstraints isAddress tables (auditLogOf task tables.auditLogs.next) = .ok () := by
  rw [← storesEntry_iff_constraints, storesEntry_iff]
  exact ⟨fun ⟨address, user⟩ => ⟨address, user⟩, fun ⟨address, user⟩ => ⟨address, user⟩⟩

/-- The row is the one of this task, under a key of its own. -/
def IsEntryOf (row : AuditLog) (task : AuditTask) : Prop := row = auditLogOf task row.id

/-! ## What is where -/

/-- Every published task is in one place: its row, the queue, or the log of failures. -/
structure Conserved (isAddress : String → Bool) (start : AuditTables) (pipeline : Pipeline) : Prop where
  grows : ∀ id, start.hasUser id = true → pipeline.tables.hasUser id = true
  rejected : ∀ task ∈ pipeline.refused, ¬ Acceptable isAddress start.hasUser task
  placed : ∃ entries stored, pipeline.tables.auditLogs.rows = start.auditLogs.rows ++ entries ∧
    List.Forall₂ IsEntryOf entries stored ∧ (∀ task ∈ stored, Acceptable isAddress pipeline.tables.hasUser task) ∧
    pipeline.worker.published.Perm (stored ++ pipeline.queue ++ pipeline.refused)

section Steps

variable {isAddress : String → Bool} {start : AuditTables} {pipeline : Pipeline}

theorem conserved_start (w : World) (tables : AuditTables) : Conserved isAddress tables (Pipeline.start w tables) :=
  ⟨fun _ stored => stored, by simp [Pipeline.start], [], [], (List.append_nil _).symm, .nil, by simp, .refl _⟩

/-- What a request publishes waits at the end of the queue. -/
theorem Conserved.served (conserved : Conserved isAddress start pipeline) {worker : Worker} {tasks : List AuditTask}
    (published : worker.published = pipeline.worker.published ++ tasks) :
    Conserved isAddress start (pipeline.served worker) := by
  obtain ⟨grows, rejected, entries, stored, appended, recorded, taken, placed⟩ := conserved
  refine ⟨grows, rejected, entries, stored, appended, recorded, taken, ?_⟩
  simp only [Pipeline.served]
  rw [published, List.drop_left]
  refine (placed.append_right tasks).trans ?_
  simp only [List.append_assoc]
  exact (List.perm_append_comm.append_left _).append_left _

/-- The task that runs leaves the queue for the table or for the log. -/
theorem Conserved.executed (conserved : Conserved isAddress start pipeline) (index : Nat) :
    Conserved isAddress start (pipeline.executed isAddress index) := by
  unfold Pipeline.executed
  cases waiting : pipeline.queue[index]? with
  | none => exact conserved
  | some task =>
    obtain ⟨grows, rejected, entries, stored, appended, recorded, taken, placed⟩ := conserved
    obtain ⟨inQueue, isTask⟩ := List.getElem?_eq_some_iff.mp waiting
    have takenOut : pipeline.queue.Perm (task :: pipeline.queue.eraseIdx index) := by
      rw [← isTask]
      exact (List.getElem_cons_eraseIdx_perm inQueue).symm
    have moved := placed.trans ((takenOut.append_left stored).append_right pipeline.refused)
    cases checked : auditLogConstraints isAddress pipeline.tables (auditLogOf task pipeline.tables.auditLogs.next) with
    | ok _ =>
      have acceptable := acceptable_iff.mpr checked
      simp only [createAuditLog_of_ok checked]
      refine ⟨grows, rejected, entries ++ [auditLogOf task pipeline.tables.auditLogs.next], stored ++ [task], ?_, ?_, ?_, ?_⟩
      · rw [Table.insert_eq_save, rows_save_next rfl, appended, List.append_assoc]
      · exact List.rel_append recorded (.cons rfl .nil)
      · exact List.forall_mem_append.mpr ⟨taken, List.forall_mem_singleton.mpr acceptable⟩
      · rwa [List.append_assoc stored, List.singleton_append]
    | error exn =>
      have refusedTask : ¬ Acceptable isAddress start.hasUser task := by
        intro acceptable
        rw [acceptable_iff.mp (acceptable.mono grows)] at checked
        cases checked
      simp only [createAuditLog_of_error checked]
      refine ⟨grows, ?_, entries, stored, appended, recorded, taken, ?_⟩
      · exact List.forall_mem_append.mpr ⟨rejected, List.forall_mem_singleton.mpr refusedTask⟩
      · refine moved.trans ?_
        rw [List.append_assoc, List.append_assoc, List.cons_append, ← List.append_assoc _ pipeline.refused]
        exact (List.perm_append_singleton task _).symm.append_left stored

end Steps

/-- A request only adds tasks. -/
theorem serve_read_appends (context : ReadContext) (worker : Worker) (request : ReadRequest) :
    ∃ tasks, (request.serve context worker).published = worker.published ++ tasks := by
  unfold ReadRequest.serve
  cases request.bearer with
  | none => exact ⟨[], (List.append_nil _).symm⟩
  | some user =>
    simp only [final_view]
    split
    · exact ⟨_, rfl⟩
    · exact ⟨[], (List.append_nil _).symm⟩

theorem conserved_step (py : Interpreter) (context : ReadContext) (isAddress : String → Bool) (start : AuditTables)
    (pipeline : Pipeline) (event : PipelineEvent) (conserved : Conserved isAddress start pipeline) :
    Conserved isAddress start (pipeline.step py context isAddress event) := by
  cases event with
  | visit visit =>
    obtain ⟨tasks, published, _⟩ := visit_sendsChanges py pipeline.worker visit
    exact conserved.served published
  | read request =>
    obtain ⟨tasks, published⟩ := serve_read_appends context pipeline.worker request
    exact conserved.served published
  | execute index => exact conserved.executed index
  | register user =>
    obtain ⟨grows, rejected, entries, stored, appended, recorded, taken, placed⟩ := conserved
    have added : ∀ id, pipeline.tables.hasUser id = true → (id == user || pipeline.tables.hasUser id) = true := by
      intro id known
      rw [known, Bool.or_true]
    exact ⟨fun id known => added id (grows id known), rejected, entries, stored, appended, recorded,
      fun task member => (taken task member).mono added, placed⟩

/-- At every moment of every run: the audit table is the one the run began with and, after
it, the rows of some tasks the table could take; with those that wait and those that were
refused, these are the published tasks, each exactly once.  No task is refused whose
address is valid and whose user was stored from the start; so where all are such, an
empty queue means that every published task has its row. -/
theorem tasks_conserved (py : Interpreter) (context : ReadContext) (isAddress : String → Bool) (w : World)
    (tables : AuditTables) (events : List PipelineEvent) :
    ∀ pipeline ∈ trace (Pipeline.step py context isAddress) (Pipeline.start w tables) events,
      Conserved isAddress tables pipeline ∧
      ((∀ task ∈ pipeline.worker.published, Acceptable isAddress tables.hasUser task) → pipeline.queue = [] →
        ∃ entries stored, pipeline.tables.auditLogs.rows = tables.auditLogs.rows ++ entries ∧
          List.Forall₂ IsEntryOf entries stored ∧ pipeline.worker.published.Perm stored) := by
  intro pipeline member
  have conserved : Conserved isAddress tables pipeline :=
    trace_invariant (conserved_step py context isAddress tables) (conserved_start w tables) events pipeline member
  refine ⟨conserved, ?_⟩
  intro acceptable drained
  obtain ⟨_, rejected, entries, stored, appended, recorded, _, placed⟩ := conserved
  have noneRefused : pipeline.refused = [] := by
    apply List.eq_nil_iff_forall_not_mem.mpr
    intro task refused
    have wasPublished : task ∈ pipeline.worker.published := placed.mem_iff.mpr (List.mem_append_right _ refused)
    exact rejected task refused (acceptable task wasPublished)
  refine ⟨entries, stored, appended, recorded, ?_⟩
  rwa [drained, noneRefused, List.append_nil, List.append_nil] at placed

/-- Two surveys are created, and the task of the second one is executed first. -/
def executedBackwards : Pipeline :=
  run (Pipeline.step bareInterpreter ⟨SurveyResponse.id, .ok⟩ Audit.isIpAddress) (Pipeline.start World.empty anyUser)
    [.visit (createBehind "203.0.113.9"), .visit (createBehind "203.0.113.9"), .execute 1, .execute 0]

/-- The rows come in the order of the executions, one for each published task. -/
theorem tasks_conserved_backwards :
    executedBackwards.worker.published.map AuditTask.objectId = ["1", "2"] ∧
    executedBackwards.tables.auditLogs.rows.map AuditLog.objectId = ["2", "1"] ∧
    ∃ entries stored, executedBackwards.tables.auditLogs.rows = entries ∧
      List.Forall₂ IsEntryOf entries stored ∧ executedBackwards.worker.published.Perm stored := by
  refine ⟨by decide +kernel, by decide +kernel, ?_⟩
  obtain ⟨_, whenDrained⟩ := tasks_conserved bareInterpreter ⟨SurveyResponse.id, .ok⟩ Audit.isIpAddress World.empty
    anyUser _ executedBackwards (run_mem_trace _ _)
  have addresses : executedBackwards.worker.published.map AuditTask.ipAddress =
      [some "203.0.113.9", some "203.0.113.9"] := by
    decide +kernel
  have acceptable : ∀ task ∈ executedBackwards.worker.published, Acceptable Audit.isIpAddress anyUser.hasUser task := by
    intro task published
    refine ⟨fun address given => Or.inr ?_, fun _ _ => rfl⟩
    have listed : task.ipAddress ∈ executedBackwards.worker.published.map AuditTask.ipAddress :=
      List.mem_map_of_mem published
    rw [addresses, given] at listed
    simp only [List.mem_cons, Option.some.injEq, List.not_mem_nil, or_false, or_self] at listed
    rw [listed]
    decide +kernel
  exact whenDrained acceptable (by decide +kernel)

end SurveyPlatform.Verified

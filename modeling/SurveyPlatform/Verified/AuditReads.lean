import SurveyPlatform.Audit.Reads
import SurveyPlatform.Library.Histories
import SurveyPlatform.Verified.AuditActors

/-! # Views of responses and their tasks

No view that writes, and no page of the admin site, publishes a task with the action
`view` (`sendsChanges_audited`); the two reading views publish one each time they
answer.  So the `view` tasks of a run are those of its answered reads, in order
(`views_published`).
-/

namespace SurveyPlatform.Verified

open SurveyPlatform.Library SurveyPlatform.Library.Program SurveyPlatform.Python
open SurveyPlatform.Surveys SurveyPlatform.Responses
open SurveyPlatform.Audit (Audited Worker AuditTask AuditTables HttpRequest Visit AdminPage ThreadLocal ModelClass quietly
  auditedAtomic viewTask ResponseRead ReadRequest ReadContext Pipeline PipelineEvent)

/-! ## Programs that publish changes only -/

/-- No task of the program is about a view. -/
abbrev SendsChanges {ε α : Type} (program : EStateM ε Worker α) : Prop :=
  Appends Worker.published (fun task => task.action ≠ .view) program

section Programs

variable {ε α β : Type}

theorem sendsChanges_bind {program : EStateM ε Worker α} {next : α → EStateM ε Worker β}
    (first : SendsChanges program) (rest : ∀ a, SendsChanges (next a)) : SendsChanges (program >>= next) :=
  appends_bind first rest

theorem sendsChanges_pure (a : α) : SendsChanges (pure a : EStateM ε Worker α) := appends_pure a

theorem sendsChanges_quietly (program : EStateM ε World α) : SendsChanges (quietly program) := by
  apply Appends.of_same
  intro worker
  rw [quietly, final_focusing]
  rfl

theorem sendsChanges_quietly_bind (program : EStateM ε World α) {next : α → EStateM ε Worker β}
    (rest : ∀ a, SendsChanges (next a)) : SendsChanges (quietly program >>= next) :=
  sendsChanges_bind (sendsChanges_quietly program) rest

/-- The four checks before a write. -/
theorem sendsChanges_guarded {γ δ η : Type} {p : EStateM ε World α} {q : α → EStateM ε World β}
    {r : α → β → EStateM ε World γ} {s : α → β → γ → EStateM ε World δ} {next : α → β → γ → δ → EStateM ε Worker η}
    (rest : ∀ a b c d, SendsChanges (next a b c d)) :
    SendsChanges (do
      let a ← quietly p
      let b ← quietly (q a)
      let c ← quietly (r a b)
      let d ← quietly (s a b c)
      next a b c d) :=
  sendsChanges_quietly_bind _ fun _ => sendsChanges_quietly_bind _ fun _ => sendsChanges_quietly_bind _ fun _ =>
    sendsChanges_quietly_bind _ fun _ => rest _ _ _ _

/-- A write and the clearing of the cache. -/
theorem sendsChanges_cleared {γ : Type} {program : EStateM ε Worker α} {clear : α → EStateM ε World β}
    {result : α → γ} (written : SendsChanges program) :
    SendsChanges (do
      let a ← program
      let _ ← quietly (clear a)
      return result a) :=
  sendsChanges_bind written fun _ => sendsChanges_quietly_bind _ fun _ => sendsChanges_pure _

/-- The answer of a view is dropped. -/
theorem sendsChanges_dropped {program : EStateM ε Worker α} (sends : SendsChanges program) :
    SendsChanges (do let _ ← program) :=
  sendsChanges_bind sends fun _ => sendsChanges_pure _

theorem sendsChanges_auditedAtomic {program : EStateM ε Worker α} (sends : SendsChanges program) :
    SendsChanges (auditedAtomic program) := by
  refine appends_atomic ?_ sends
  exact fun _ _ => rfl

/-- A handler that looks at the end of the program and writes nothing. -/
theorem sendsChanges_of_final {ε' : Type} {program : EStateM ε Worker α} {handled : EStateM ε' Worker β}
    (same : ∀ worker, final handled worker = final program worker) (sends : SendsChanges program) : SendsChanges handled := by
  intro worker
  rw [same]
  exact sends worker

theorem sendsChanges_sendPostSave (sender : ModelClass) (pk : Nat) (created : Bool) :
    SendsChanges (Audit.sendPostSave sender pk created : EStateM ε Worker Unit) := by
  intro worker
  refine ⟨(Audit.auditPostSave worker.threadLocal sender pk created).toList, rfl, ?_⟩
  intro task member
  simp only [Audit.auditPostSave, Option.mem_toList, Option.ite_none_right_eq_some, Option.some.injEq] at member
  obtain ⟨_, rfl⟩ := member
  cases created <;> simp

theorem sendsChanges_sendPostDelete (instances : List (ModelClass × Nat)) :
    SendsChanges (Audit.sendPostDelete instances : EStateM ε Worker Unit) := by
  intro worker
  refine ⟨_, rfl, ?_⟩
  intro task member
  obtain ⟨_, _, sent⟩ := List.mem_filterMap.mp member
  simp only [Audit.auditPostDelete, Option.ite_none_right_eq_some, Option.some.injEq] at sent
  obtain ⟨_, rfl⟩ := sent
  simp

theorem sendsChanges_record (changes : List Audit.RowChange) :
    SendsChanges (Audit.record changes : EStateM ε Worker Unit) := .of_same fun _ => rfl

end Programs

section Statements

variable {α : Type} [Keyed α] {model : Model α} {sender : ModelClass}

theorem sendsChanges_insertRow (make : Nat → α) (keyedMake : ∀ i, key (make i) = i) :
    SendsChanges (Audit.insertRow sender model make keyedMake) :=
  sendsChanges_quietly_bind _ fun _ => sendsChanges_bind (sendsChanges_record _) fun _ =>
    sendsChanges_bind (sendsChanges_sendPostSave _ _ _) fun _ => sendsChanges_pure _

theorem sendsChanges_updateRow (id : Nat) (assign : α → α) (keepsKey : ∀ row, key (assign row) = key row) :
    SendsChanges (Audit.updateRow sender model id assign keepsKey) :=
  sendsChanges_quietly_bind _ fun _ => sendsChanges_bind (sendsChanges_record _) fun _ => sendsChanges_sendPostSave _ _ _

theorem sendsChanges_saveFields {isEmpty : Bool} {update : Audited Unit} (sends : SendsChanges update) :
    SendsChanges (Audit.saveFields isEmpty update) := by
  cases isEmpty with
  | true => exact sendsChanges_pure ()
  | false => exact sends

theorem sendsChanges_saveSurvey (row : Survey) : SendsChanges (Audit.saveSurvey row) :=
  sendsChanges_quietly_bind _ fun _ => sendsChanges_quietly_bind _ fun _ =>
    sendsChanges_bind (sendsChanges_record _) fun _ => sendsChanges_sendPostSave _ _ _

theorem sendsChanges_deleteRows (collect : Database → List Audit.Collected) (change : Database → Database) :
    SendsChanges (Audit.deleteRows collect change) :=
  sendsChanges_quietly_bind _ fun _ => sendsChanges_quietly_bind _ fun _ =>
    sendsChanges_bind (sendsChanges_record _) fun _ => sendsChanges_sendPostDelete _

end Statements

/-! ## The writing views -/

section Views

variable {py : Interpreter} {order : SetOrder} {user : User} {surveyPk pk : Nat} {isPartial : Bool}

theorem sendsChanges_validateStatus (current : Option Survey) (value : SurveyStatus) :
    SendsChanges (Audit.validateStatus current value) := by
  cases current with
  | none => exact sendsChanges_quietly _
  | some survey =>
    simp only [Audit.validateStatus]
    split
    · exact sendsChanges_bind (sendsChanges_quietly_bind _ fun _ => sendsChanges_bind (sendsChanges_updateRow _ _ _)
        fun _ => sendsChanges_pure _) fun _ => sendsChanges_pure _
    · exact sendsChanges_pure _

theorem sendsChanges_validateSurvey (current : Option Survey) (body : SurveyBody) :
    SendsChanges (Audit.validateSurvey isPartial current body) := by
  apply sendsChanges_bind
  · cases body.status with
    | missing => exact sendsChanges_pure _
    | refused message => exact sendsChanges_pure _
    | given value => exact sendsChanges_of_final (final_collecting _) (sendsChanges_validateStatus current value)
  · intro status
    cases status with
    | ok current => exact sendsChanges_quietly_bind _ fun _ => sendsChanges_pure _
    | error message => exact sendsChanges_quietly_bind _ fun _ => sendsChanges_pure _

theorem sendsChanges_surveyUpdate (body : SurveyBody) : SendsChanges (Audit.surveyUpdate user pk isPartial body) := by
  apply sendsChanges_quietly_bind
  intro _
  apply sendsChanges_quietly_bind
  intro current
  apply sendsChanges_bind (sendsChanges_validateSurvey _ body)
  intro validated
  obtain ⟨data, left⟩ := validated
  cases left with
  | none => exact appends_throw _
  | some left =>
    exact sendsChanges_cleared (sendsChanges_saveSurvey _)

theorem sendsChanges_updateSection (current : Section) (data : SectionData) :
    SendsChanges (Audit.updateSection current data) := by
  apply sendsChanges_cleared
  exact appends_translating (sendsChanges_auditedAtomic (sendsChanges_bind
    (sendsChanges_saveFields (sendsChanges_updateRow _ _ _)) fun _ => sendsChanges_quietly _))

theorem sendsChanges_updateField (current : PlacedField) (data : FieldData) :
    SendsChanges (Audit.updateField py current data) := by
  apply sendsChanges_quietly_bind
  intro oldOptions
  apply sendsChanges_cleared
  exact appends_translating (sendsChanges_auditedAtomic (sendsChanges_bind
    (sendsChanges_saveFields (sendsChanges_updateRow _ _ _)) fun _ => sendsChanges_quietly _))

theorem sendsChanges_createSubmission (encryptValue : Encryption) (survey : Survey) (cleaned : Dict String Json)
    (surveyFields : Nat → Option Field) :
    SendsChanges (Audit.createSubmission py encryptValue survey user cleaned surveyFields) := by
  apply appends_translating
  apply sendsChanges_auditedAtomic
  apply sendsChanges_bind
  · exact sendsChanges_of_final (final_adaptExcept _ _) (sendsChanges_insertRow _ _)
  · exact fun _ => sendsChanges_quietly_bind _ fun _ => sendsChanges_quietly_bind _ fun _ => sendsChanges_pure _

theorem sendsChanges_submit (encryptValue : Encryption) (answers : Submitted (List Answer)) :
    SendsChanges (Audit.submit py order encryptValue user surveyPk answers) := by
  apply sendsChanges_quietly_bind
  intro _
  apply sendsChanges_quietly_bind
  intro survey
  apply sendsChanges_quietly_bind
  intro given
  apply sendsChanges_quietly_bind
  intro db
  split
  · exact sendsChanges_pure _
  · apply sendsChanges_of_final (final_auditedRespondErrors _)
    exact sendsChanges_quietly_bind _ fun _ => sendsChanges_bind (sendsChanges_createSubmission _ _ _ _) fun _ =>
      sendsChanges_pure _

/-- One case for each view; the checks before the write send nothing. -/
theorem sendsChanges_audited (py : Interpreter) (call : Call) : SendsChanges (Audit.audited py call) := by
  obtain ⟨user, order, encryptValue, request⟩ := call
  cases request with
  | createSurvey body =>
    refine sendsChanges_dropped (sendsChanges_quietly_bind _ fun _ => ?_)
    exact sendsChanges_bind (sendsChanges_validateSurvey none body) fun _ => sendsChanges_insertRow _ _
  | updateSurvey pk isPartial body => exact sendsChanges_dropped (sendsChanges_surveyUpdate body)
  | destroySurvey pk =>
    exact sendsChanges_quietly_bind _ fun _ => sendsChanges_quietly_bind _ fun _ =>
      sendsChanges_bind (sendsChanges_deleteRows _ _) fun _ => sendsChanges_quietly _
  | createSection surveyPk body =>
    refine sendsChanges_dropped (sendsChanges_guarded fun _ _ _ _ => sendsChanges_quietly_bind _ fun _ => ?_)
    exact sendsChanges_cleared (appends_translating (sendsChanges_insertRow _ _))
  | updateSection surveyPk pk isPartial body =>
    refine sendsChanges_dropped (sendsChanges_guarded fun _ _ _ _ => sendsChanges_quietly_bind _ fun _ => ?_)
    exact appends_translating (sendsChanges_updateSection _ _)
  | createField surveyPk sectionPk body =>
    refine sendsChanges_dropped (sendsChanges_guarded fun _ _ _ _ => sendsChanges_quietly_bind _ fun _ =>
      sendsChanges_quietly_bind _ fun _ => ?_)
    exact appends_translating (sendsChanges_cleared (appends_translating (sendsChanges_insertRow _ _)))
  | updateField surveyPk sectionPk pk isPartial body =>
    refine sendsChanges_dropped (sendsChanges_guarded fun _ _ _ _ => sendsChanges_quietly_bind _ fun _ =>
      sendsChanges_quietly_bind _ fun _ => ?_)
    exact appends_translating (sendsChanges_updateField _ _)
  | destroyField surveyPk sectionPk pk =>
    exact sendsChanges_guarded fun _ _ _ _ => sendsChanges_quietly_bind _ fun _ => sendsChanges_quietly_bind _ fun _ =>
      sendsChanges_deleteRows _ _
  | createConditionalRule surveyPk body =>
    -- the view refuses every body it validates
    exact sendsChanges_dropped (sendsChanges_quietly_bind _ fun _ => sendsChanges_quietly_bind _ fun _ => appends_throw _)
  | updateConditionalRule surveyPk pk isPartial body | updateFieldDependency surveyPk pk isPartial body =>
    refine sendsChanges_dropped (sendsChanges_guarded fun _ _ _ _ => sendsChanges_quietly_bind _ fun _ =>
      sendsChanges_quietly_bind _ fun _ => ?_)
    exact sendsChanges_cleared (sendsChanges_saveFields (sendsChanges_updateRow _ _ _))
  | createFieldDependency surveyPk body =>
    refine sendsChanges_dropped (sendsChanges_guarded fun _ _ _ _ => sendsChanges_quietly_bind _ fun _ => ?_)
    exact sendsChanges_cleared (sendsChanges_insertRow _ _)
  | destroySection surveyPk pk | destroyConditionalRule surveyPk pk | destroyFieldDependency surveyPk pk =>
    exact sendsChanges_guarded fun _ _ _ _ => sendsChanges_quietly_bind _ fun _ => sendsChanges_deleteRows _ _
  | submit surveyPk answers => exact sendsChanges_dropped (sendsChanges_submit encryptValue answers)

end Views

/-! ## The admin site -/

theorem sendsChanges_sendSignals (changes : List Audit.RowChange) : SendsChanges (Audit.sendSignals changes) := by
  induction changes with
  | nil => exact sendsChanges_pure ()
  | cons change rest inductionHypothesis =>
    cases change with
    | saved model pk created => exact sendsChanges_bind (sendsChanges_sendPostSave _ _ _) fun _ => inductionHypothesis
    | deleted model pk => exact sendsChanges_bind (sendsChanges_sendPostDelete _) fun _ => inductionHypothesis

theorem sendsChanges_perform (page : AdminPage) : SendsChanges page.perform :=
  sendsChanges_quietly_bind _ fun _ => sendsChanges_quietly_bind _ fun _ =>
    sendsChanges_bind (sendsChanges_record _) fun _ => sendsChanges_sendSignals _

/-- Whatever was in the queue before. -/
theorem visit_sendsChanges (py : Interpreter) (worker : Worker) (visit : Visit) : ∃ tasks,
    (visit.serve py worker).published = worker.published ++ tasks ∧ ∀ task ∈ tasks, task.action ≠ .view :=
  @serve_relates (fun before after => ∃ tasks, after.published = before.published ++ tasks ∧
    ∀ task ∈ tasks, task.action ≠ .view) py (fun _ => ⟨[], by simp, by simp⟩)
    (fun worker call => sendsChanges_audited py call worker) (fun worker page => sendsChanges_perform page worker)
    worker visit

/-! ## The reading views -/

/-- Who may read responses, of a stored survey, and the page or the response exists. -/
def Readable (db : Database) (user : User) : ResponseRead → Prop
  | .list surveyPk number => user.role ≠ .customer ∧ (db.surveys.get surveyPk).isSome = true ∧
      1 ≤ number ∧ number ≤ numPages pageSize (responsesOf db surveyPk).length
  | .detail surveyPk pk => user.role ≠ .customer ∧ (db.surveys.get surveyPk).isSome = true ∧
      ((db.responses.get pk).filter (·.surveyId = surveyPk)).isSome = true

instance (db : Database) (user : User) (read : ResponseRead) : Decidable (Readable db user read) :=
  match read with
  | .list _ _ => inferInstanceAs (Decidable (_ ∧ _))
  | .detail _ _ => inferInstanceAs (Decidable (_ ∧ _))

/-- The task of a read that is answered. -/
def readTask (user : User) : ResponseRead → ThreadLocal → AuditTask
  | .list surveyPk _ => viewTask user surveyPk "list"
  | .detail _ pk => viewTask user pk "detail"

theorem action_readTask (user : User) (read : ResponseRead) (context : ThreadLocal) :
    (readTask user read context).action = .view := by
  cases read <;> rfl

section Reads

variable {context : ReadContext} {user : User} {surveyPk number pk : Nat} {w : World}

/-- Two queries for the permission and the survey, and one for the rows. -/
theorem final_surveyResponseList (submittedAt : SurveyResponse → Nat) (w : World) :
    final (Responses.surveyResponseList submittedAt user surveyPk number) w = w :=
  final_query_bind_same fun _ => final_query_bind_same fun _ => final_query _ w

theorem final_surveyResponseRetrieve (decryptValue : Decryption) (w : World) :
    final (Responses.surveyResponseRetrieve decryptValue user surveyPk pk) w = w :=
  final_query_bind_same fun _ => final_query_bind_same fun _ => final_query_bind_same fun _ =>
    final_query_bind_same fun _ => rfl

/-- The list is answered with the rows as they are, or refused. -/
theorem surveyResponseList_answers_iff (submittedAt : SurveyResponse → Nat) (w : World) :
    (∃ page, Responses.surveyResponseList submittedAt user surveyPk number w = .ok page w) ↔
      Readable w.db user (.list surveyPk number) := by
  simp only [surveyResponseList_eq_ok, paginate_eq_ok, Readable, responsesNewestFirst, List.length_map,
    List.length_mergeSort]
  grind

theorem surveyResponseRetrieve_answers_iff (decryptValue : Decryption) (w : World) :
    (∃ detail, Responses.surveyResponseRetrieve decryptValue user surveyPk pk w = .ok detail w) ↔
      Readable w.db user (.detail surveyPk pk) := by
  simp only [Readable, Option.isSome_iff_exists]
  constructor
  · rintro ⟨detail, answered⟩
    simp only [Responses.surveyResponseRetrieve, requireViewer, check_bind_eq_ok_iff, getOr404_bind_eq_ok_iff] at answered
    obtain ⟨permitted, survey, storedSurvey, response, found, _⟩ := answered
    refine ⟨?_, ⟨survey, storedSurvey⟩, ⟨response, found⟩⟩
    intro customer
    rw [if_pos customer] at permitted
    cases permitted
  · rintro ⟨mayView, ⟨survey, storedSurvey⟩, ⟨response, found⟩⟩
    obtain ⟨stored, inSurvey⟩ := Option.filter_eq_some_iff.mp found
    exact ⟨_, surveyResponseRetrieve_of_stored mayView storedSurvey stored (of_decide_eq_true inSurvey)⟩

/-- A view that writes nothing and then publishes: the task is out exactly when it answers. -/
theorem final_publishing {α : Type} {answer : Procedure α} {task : ThreadLocal → AuditTask} {worker : Worker}
    {readable : Prop} [Decidable readable] (looks : final answer worker.world = worker.world)
    (answers : (∃ a, answer worker.world = .ok a worker.world) ↔ readable) :
    final (do let _ ← (do let response ← quietly answer; Audit.publish task; return response)) worker =
      if readable then { worker with published := worker.published ++ [task worker.threadLocal] } else worker := by
  rw [final_discard]
  cases result : answer worker.world with
  | ok a w =>
    have same : w = worker.world := (final_of_ok result).symm.trans looks
    subst same
    rw [if_pos (answers.mp ⟨a, result⟩), final, bind_of_ok (show quietly answer worker = _ from focusing_of_ok result)]
    rfl
  | error exn w =>
    have same : w = worker.world := (final_of_error result).symm.trans looks
    subst same
    have refused : ¬ readable := by
      intro permitted
      obtain ⟨a, returned⟩ := answers.mpr permitted
      rw [returned] at result
      cases result
    rw [if_neg refused, final_of_error (bind_of_error (show quietly answer worker = _ from focusing_of_error result))]
    rfl

theorem final_view (context : ReadContext) (user : User) (read : ResponseRead) (worker : Worker) :
    final (read.view context user) worker = if Readable worker.world.db user read then
      { worker with published := worker.published ++ [readTask user read worker.threadLocal] } else worker := by
  cases read with
  | list surveyPk number =>
    exact final_publishing (final_surveyResponseList _ _) (surveyResponseList_answers_iff context.submittedAt worker.world)
  | detail surveyPk pk =>
    exact final_publishing (final_surveyResponseRetrieve _ _)
      (surveyResponseRetrieve_answers_iff context.decryptValue worker.world)

end Reads

/-! ## The views of a run -/

/-- The task of an answered read: the user of the token, and the address of the request. -/
def answeredViews (pipeline : Pipeline) : PipelineEvent → List AuditTask
  | .read request =>
    match request.bearer with
    | none => []
    | some user => if Readable pipeline.worker.world.db user request.read then
        [readTask user request.read (contextOf request.toHttpRequest)] else []
  | _ => []

def views (tasks : List AuditTask) : List AuditTask := tasks.filter fun task => task.action = .view

theorem views_append (tasks later : List AuditTask) : views (tasks ++ later) = views tasks ++ views later :=
  List.filter_append ..

theorem serve_read (context : ReadContext) (worker : Worker) (request : ReadRequest) :
    (request.serve context worker).world = worker.world ∧
      views (request.serve context worker).published = views worker.published ++
        (request.bearer.elim [] fun user => if Readable worker.world.db user request.read then
          [readTask user request.read (contextOf request.toHttpRequest)] else []) := by
  unfold ReadRequest.serve
  cases request.bearer with
  | none => exact ⟨rfl, (List.append_nil _).symm⟩
  | some user =>
    -- the middleware touches neither the world nor the tasks
    have viewed := final_view context user request.read (Audit.auditIPMiddleware request.toHttpRequest worker)
    change final (request.read.view context user) _ = if Readable worker.world.db user request.read then _ else _ at viewed
    simp only [viewed, Option.elim_some]
    by_cases readable : Readable worker.world.db user request.read
    · rw [if_pos readable, if_pos readable]
      refine ⟨rfl, ?_⟩
      rw [views_append, views, views, List.filter_singleton, action_readTask]
      rfl
    · rw [if_neg readable, if_neg readable]
      exact ⟨rfl, (List.append_nil _).symm⟩

theorem executed_worker (isAddress : String → Bool) (pipeline : Pipeline) (index : Nat) :
    (pipeline.executed isAddress index).worker = pipeline.worker := by
  unfold Pipeline.executed
  split
  · rfl
  · split <;> rfl

/-- In every run, with tasks executed in any order in between, the published tasks
about views are those of the answered reads, one each and in order, and a read
changes no row and no cache entry. -/
theorem views_published (py : Interpreter) (context : ReadContext) (isAddress : String → Bool) (w : World)
    (tables : AuditTables) (events : List PipelineEvent) :
    let step := Pipeline.step py context isAddress
    views (run step (Pipeline.start w tables) events).worker.published =
        emitted step answeredViews (Pipeline.start w tables) events ∧
      Along step (fun pipeline event => ∀ request, event = .read request →
        (step pipeline event).worker.world = pipeline.worker.world) (Pipeline.start w tables) events := by
  intro step
  constructor
  · have extended := @log_run _ _ _ step (fun pipeline => views pipeline.worker.published) answeredViews (fun _ => True)
      (fun _ _ _ => trivial) ?_ (Pipeline.start w tables) trivial events
    · exact extended
    · intro pipeline event _
      cases event with
      | visit visit =>
        obtain ⟨tasks, published, noViews⟩ := visit_sendsChanges py pipeline.worker visit
        show views (visit.serve py pipeline.worker).published = _
        rw [published, views_append]
        congr 1
        exact List.filter_eq_nil_iff.mpr fun task member => by simpa using noViews task member
      | read request =>
        show views (request.serve context pipeline.worker).published = _
        rw [(serve_read context pipeline.worker request).2, answeredViews]
        cases request.bearer <;> rfl
      | execute index =>
        show views (pipeline.executed isAddress index).worker.published = _
        rw [executed_worker]
        exact (List.append_nil _).symm
      | register user => exact (List.append_nil _).symm
  · apply along_of_forall
    intro pipeline event request isRead
    rw [isRead]
    exact (serve_read context pipeline.worker request).1

end SurveyPlatform.Verified

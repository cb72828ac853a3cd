import SurveyPlatform.Audit.Tasks
import SurveyPlatform.Responses.Details
import SurveyPlatform.Responses.Listings

/-! # Audited reads and the task queue

`SurveyResponseListView.list` and `SurveyResponseDetailView.retrieve` publish a task
themselves, after the answer is made.  `Pipeline` is the whole way of a task: a
request publishes it, it waits in the queue, and a Celery worker takes it out and
runs it once, in whatever order.
-/

namespace SurveyPlatform.Audit

open SurveyPlatform.Library SurveyPlatform.Library.Program SurveyPlatform.Python SurveyPlatform.Surveys
open SurveyPlatform.Responses

/-! ## Views -/

/-- `create_audit_log.delay(...)` of the two views. -/
def viewTask (user : User) (objectId : Nat) (scope : String) (context : ThreadLocal) : AuditTask where
  userId := some user.id
  action := .view
  modelName := "SurveyResponse"
  objectId := toString objectId
  details := some (.object [("scope", .str scope)])
  ipAddress := context.ipAddress

def publish (task : ThreadLocal → AuditTask) : Audited Unit :=
  writing fun worker => { worker with published := worker.published ++ [task worker.threadLocal] }

/-- `SurveyResponseListView.list` -/
def surveyResponseList (submittedAt : SurveyResponse → Nat) (user : User) (surveyPk number : Nat) :
    Audited ResponsePage := do
  let response ← quietly (Responses.surveyResponseList submittedAt user surveyPk number)
  publish (viewTask user surveyPk "list")
  return response

/-- `SurveyResponseDetailView.retrieve` -/
def surveyResponseRetrieve (decryptValue : Decryption) (user : User) (surveyPk pk : Nat) :
    Audited SurveyResponseDetail := do
  let response ← quietly (Responses.surveyResponseRetrieve decryptValue user surveyPk pk)
  publish (viewTask user pk "detail")
  return response

/-! ## Requests -/

inductive ResponseRead where
  | list (surveyPk number : Nat)
  | detail (surveyPk pk : Nat)

structure ReadRequest extends HttpRequest where
  read : ResponseRead

/-- What the reading views depend on besides the database. -/
structure ReadContext where
  submittedAt : SurveyResponse → Nat
  decryptValue : Decryption

def ResponseRead.view (context : ReadContext) (user : User) : ResponseRead → Audited Unit
  | .list surveyPk number => do let _ ← surveyResponseList context.submittedAt user surveyPk number
  | .detail surveyPk pk => do let _ ← surveyResponseRetrieve context.decryptValue user surveyPk pk

/-- The middleware, and then the view. -/
def ReadRequest.serve (context : ReadContext) (worker : Worker) (request : ReadRequest) : Worker :=
  let worker := auditIPMiddleware request.toHttpRequest worker
  match request.bearer with
  -- 401: both views want a user
  | none => worker
  | some user => final (request.read.view context user) worker

/-! ## The queue -/

/-- A worker of the web server, the tasks that wait, the audit tables, and the tasks
whose insert was refused, which are only logged. -/
structure Pipeline where
  worker : Worker
  queue : List AuditTask
  tables : AuditTables
  refused : List AuditTask

/-- Nothing was published yet. -/
def Pipeline.start (w : World) (tables : AuditTables) : Pipeline := ⟨Worker.start w, [], tables, []⟩

inductive PipelineEvent where
  | visit (visit : Visit)
  | read (request : ReadRequest)
  -- some Celery worker takes a task of the queue
  | execute (index : Nat)
  -- an account is stored meanwhile
  | register (user : Nat)

/-- What a request published goes to the end of the queue. -/
def Pipeline.served (pipeline : Pipeline) (worker : Worker) : Pipeline :=
  { pipeline with worker, queue := pipeline.queue ++ worker.published.drop pipeline.worker.published.length }

/-- A task is taken off the queue before it runs, and is not put back. -/
def Pipeline.executed (isAddress : String → Bool) (pipeline : Pipeline) (index : Nat) : Pipeline :=
  match pipeline.queue[index]? with
  | none => pipeline
  | some task =>
    match createAuditLog isAddress task pipeline.tables with
    | .ok _ tables => { pipeline with queue := pipeline.queue.eraseIdx index, tables }
    | .error _ tables =>
      { pipeline with queue := pipeline.queue.eraseIdx index, tables, refused := pipeline.refused ++ [task] }

def Pipeline.step (py : Interpreter) (context : ReadContext) (isAddress : String → Bool) (pipeline : Pipeline) :
    PipelineEvent → Pipeline
  | .visit visit => pipeline.served (visit.serve py pipeline.worker)
  | .read request => pipeline.served (request.serve context pipeline.worker)
  | .execute index => pipeline.executed isAddress index
  | .register user =>
    { pipeline with tables := { pipeline.tables with hasUser := fun id => id == user || pipeline.tables.hasUser id } }

end SurveyPlatform.Audit

import SurveyPlatform.Library.Focus
import SurveyPlatform.Surveys.Views
import Mathlib.Data.List.Dedup
import Mathlib.Data.List.Sort

/-! # Audit signals

The receivers of `apps/audit/signals.py` and the middleware of
`apps/audit/middleware.py` that stores for them who a request comes from.  A
`Worker` is the thread that serves requests: the world, the row changes the
database has taken in, the tasks published so far, and the thread-local values.

A save or a delete of Django is a statement and then its signal; the broker is
outside every transaction, so a rollback takes the rows and their log back but no
task.
-/

namespace SurveyPlatform.Audit

open SurveyPlatform.Library SurveyPlatform.Library.Program SurveyPlatform.Python SurveyPlatform.Surveys

/-! ## Tracked models -/

/-- The model classes, by their tables. -/
inductive ModelClass where
  | surveys | sections | fields | conditionalRules | fieldDependencies | responses | fieldResponses
  deriving DecidableEq, Repr

/-- `__name__` -/
def ModelClass.name : ModelClass → String
  | surveys => "Survey"
  | sections => "Section"
  | fields => "Field"
  | conditionalRules => "ConditionalRule"
  | fieldDependencies => "FieldDependency"
  | responses => "SurveyResponse"
  | fieldResponses => "FieldResponse"

/-- `_TRACKED_MODELS` -/
def trackedModels : List ModelClass :=
  [.surveys, .sections, .fields, .conditionalRules, .fieldDependencies, .responses]

/-! ## Tasks -/

inductive AuditAction where
  | create | update | delete | view
  deriving DecidableEq, Repr

/-- The arguments of `create_audit_log.delay`. -/
structure AuditTask where
  userId : Option Nat
  action : AuditAction
  modelName : String
  objectId : String
  details : Option Json
  ipAddress : Option String

/-- What was done to which row. -/
def AuditTask.entry (task : AuditTask) : AuditAction × String × String :=
  (task.action, task.modelName, task.objectId)

/-- `_thread_local` -/
structure ThreadLocal where
  ipAddress : Option String
  currentUser : Option User

/-- Nothing was stored in this thread yet. -/
def ThreadLocal.empty : ThreadLocal := ⟨none, none⟩

def auditPostSave (context : ThreadLocal) (sender : ModelClass) (pk : Nat) (created : Bool) : Option AuditTask :=
  if sender ∈ trackedModels then
    some {
      userId := context.currentUser.map User.id
      action := if created then .create else .update
      modelName := sender.name
      objectId := toString pk
      details := some (.object [("created", .bool created)])
      ipAddress := context.ipAddress }
  else none

def auditPostDelete (context : ThreadLocal) (sender : ModelClass) (pk : Nat) : Option AuditTask :=
  if sender ∈ trackedModels then
    some {
      userId := context.currentUser.map User.id
      action := .delete
      modelName := sender.name
      objectId := toString pk
      details := none
      ipAddress := context.ipAddress }
  else none

/-! ## Workers -/

/-- A change of one row of a tracked model. -/
inductive RowChange where
  | saved (model : ModelClass) (pk : Nat) (created : Bool)
  | deleted (model : ModelClass) (pk : Nat)
  deriving DecidableEq, Repr

def RowChange.entry : RowChange → AuditAction × String × String
  | saved model pk created => (if created then .create else .update, model.name, toString pk)
  | deleted model pk => (.delete, model.name, toString pk)

/-- The model whose row changed. -/
def RowChange.model : RowChange → ModelClass
  | saved model _ _ => model
  | deleted model _ => model

structure Worker where
  world : World
  -- the changes that stand, in order
  journal : List RowChange
  published : List AuditTask
  threadLocal : ThreadLocal

/-- A worker that has served nothing yet. -/
def Worker.start (w : World) : Worker := ⟨w, [], [], .empty⟩

def worldPart : Part Worker World := ⟨Worker.world, fun world worker => { worker with world }, fun _ _ => rfl⟩

/-- A computation that sends signals. -/
abbrev Audited := EStateM PyExn Worker

section Statements

variable {ε α : Type}

/-- Nothing in this part sends a signal of a tracked model. -/
def quietly (program : EStateM ε World α) : EStateM ε Worker α := focusing worldPart program

/-- `with transaction.atomic():`; tasks are out already. -/
def auditedAtomic (body : EStateM ε Worker α) : EStateM ε Worker α :=
  atomic (fun before after =>
    { after with world := { after.world with db := before.world.db }, journal := before.journal }) body

/-- `post_save.send(sender, instance, created)` -/
def sendPostSave (sender : ModelClass) (pk : Nat) (created : Bool) : EStateM ε Worker Unit :=
  writing fun worker => { worker with
    published := worker.published ++ (auditPostSave worker.threadLocal sender pk created).toList }

/-- `post_delete.send(sender, instance)` for each instance. -/
def sendPostDelete (instances : List (ModelClass × Nat)) : EStateM ε Worker Unit :=
  writing fun worker => { worker with
    published := worker.published ++ instances.filterMap fun (sender, pk) => auditPostDelete worker.threadLocal sender pk }

/-- The database logs the changes of a statement. -/
def record (changes : List RowChange) : EStateM ε Worker Unit :=
  writing fun worker => { worker with journal := worker.journal ++ changes }

end Statements

/-! ## Saves -/

section Saves

variable {α : Type} [Keyed α]

/-- `objects.create(...)`, or `save()` of an instance without a key. -/
def insertRow (sender : ModelClass) (model : Model α) (make : Nat → α) (keyedMake : ∀ i, key (make i) = i) :
    Audited α := do
  let row ← quietly (model.insert make keyedMake)
  record [.saved sender (key row) true]
  sendPostSave sender (key row) true
  return row

def updateRow (sender : ModelClass) (model : Model α) (id : Nat) (assign : α → α)
    (keepsKey : ∀ row, key (assign row) = key row) : Audited Unit := do
  quietly (model.update id assign keepsKey)
  record [.saved sender id false]
  sendPostSave sender id false

/-- `save(update_fields=[])` returns before its signal. -/
def saveFields (isEmpty : Bool) (update : Audited Unit) : Audited Unit :=
  if isEmpty then pure () else update

/-- `instance.save()`: an `UPDATE`, or an `INSERT` when it finds no row. -/
def saveSurvey (row : Survey) : Audited Unit := do
  let created ← quietly (query fun db => .ok (db.surveys.get row.id).isNone)
  quietly (Surveys.saveSurvey row)
  record [.saved .surveys row.id created]
  sendPostSave .surveys row.id created

end Saves

/-! ## Deletes -/

/-- The keys of the selected rows. -/
def keysWhere {α : Type} [Keyed α] (table : Table α) (selected : α → Bool) : List Nat :=
  (table.rows.filter selected).map key

/-- A row of this model with this key is stored. -/
def stores (db : Database) : ModelClass → Nat → Bool
  | .surveys, id => (db.surveys.get id).isSome
  | .sections, id => (db.sections.get id).isSome
  | .fields, id => (db.fields.get id).isSome
  | .conditionalRules, id => (db.conditionalRules.get id).isSome
  | .fieldDependencies, id => (db.fieldDependencies.get id).isSome
  | .responses, id => (db.responses.get id).isSome
  | .fieldResponses, id => (db.fieldResponses.get id).isSome

/-- The keys of all rows of a model. -/
def storedKeys (db : Database) : ModelClass → List Nat
  | .surveys => db.surveys.rows.map key
  | .sections => db.sections.rows.map key
  | .fields => db.fields.rows.map key
  | .conditionalRules => db.conditionalRules.rows.map key
  | .fieldDependencies => db.fieldDependencies.rows.map key
  | .responses => db.responses.rows.map key
  | .fieldResponses => db.fieldResponses.rows.map key

/-- The rows of tracked models that are gone. -/
def deletions (before after : Database) : List RowChange :=
  trackedModels.flatMap fun model =>
    ((storedKeys before model).filter fun id => !stores after model id).map (.deleted model)

/-! ### `Collector` -/

/-- An instance that `collect` came to. -/
structure Collected where
  -- the model it was reached from, unless the foreign key is nullable
  source : Option ModelClass
  model : ModelClass
  pk : Nat

/-- The instances that one relation leads to. -/
def reached (source : Option ModelClass) (model : ModelClass) (keys : List Nat) : List Collected :=
  keys.map (⟨source, model, ·⟩)

/-! `collect`: the instances themselves, then what refers to them with `on_delete=CASCADE`. -/

def collectFields (source : Option ModelClass) (gone : Nat → Bool) (db : Database) : List Collected :=
  reached source .fields (keysWhere db.fields fun row => gone row.id) ++
    reached none .conditionalRules (keysWhere db.conditionalRules fun row => row.targetFieldId.any gone) ++
    reached (some .fields) .conditionalRules (keysWhere db.conditionalRules fun row => gone row.dependsOnFieldId) ++
    reached (some .fields) .fieldDependencies (keysWhere db.fieldDependencies fun row => gone row.dependentFieldId) ++
    reached (some .fields) .fieldDependencies (keysWhere db.fieldDependencies fun row => gone row.dependsOnFieldId) ++
    reached (some .fields) .fieldResponses (keysWhere db.fieldResponses fun row => gone row.fieldId)

def collectSections (source : Option ModelClass) (gone : Nat → Bool) (db : Database) : List Collected :=
  reached source .sections (keysWhere db.sections fun row => gone row.id) ++
    collectFields (some .sections) (fun id => (db.fields.get id).any fun row => gone row.sectionId) db ++
    reached none .conditionalRules (keysWhere db.conditionalRules fun row => row.targetSectionId.any gone)

def collectResponses (source : Option ModelClass) (gone : Nat → Bool) (db : Database) : List Collected :=
  reached source .responses (keysWhere db.responses fun row => gone row.id) ++
    reached (some .responses) .fieldResponses (keysWhere db.fieldResponses fun row => gone row.surveyResponseId)

def collectSurvey (surveyId : Nat) (db : Database) : List Collected :=
  reached none .surveys (keysWhere db.surveys fun row => row.id = surveyId) ++
    collectSections (some .surveys) (fun id => (db.sections.get id).any (·.surveyId = surveyId)) db ++
    reached (some .surveys) .conditionalRules (keysWhere db.conditionalRules fun row => row.surveyId = surveyId) ++
    reached (some .surveys) .fieldDependencies (keysWhere db.fieldDependencies fun row => row.surveyId = surveyId) ++
    collectResponses (some .surveys) (fun id => (db.responses.get id).any (·.surveyId = surveyId)) db

/-- A pass of `sort`: a model is taken when no collected model that it is the source of is left. -/
def sortPass (collected : List Collected) (models sorted : List ModelClass) : List ModelClass :=
  models.foldl (fun sorted model =>
    if model ∈ sorted || collected.any fun item => item.source = some model && item.model ∉ sorted then sorted
    else sorted ++ [model]) sorted

/-- `sort`: dependents first. -/
def sortModels (collected : List Collected) : List ModelClass :=
  let models := (collected.map Collected.model).eraseDups
  -- no two models wait for each other, so each pass takes one
  models.foldl (fun sorted _ => sortPass collected models sorted) []

/-- Models as they are sorted, and the instances of one from the last key down. -/
def SentBefore (sorted : List ModelClass) (a b : ModelClass × Nat) : Prop :=
  sorted.idxOf a.1 < sorted.idxOf b.1 ∨ a.1 = b.1 ∧ b.2 ≤ a.2

instance (sorted : List ModelClass) : DecidableRel (SentBefore sorted) := fun _ _ =>
  inferInstanceAs (Decidable (_ ∨ _))

/-- The instances in the order of their signals; one that is reached twice is collected once. -/
def signalled (collected : List Collected) : List (ModelClass × Nat) :=
  ((collected.map fun item => (item.model, item.pk)).dedup).insertionSort (SentBefore (sortModels collected))

/-- `instance.delete()`: the collected rows go, and each instance has its signal. -/
def deleteRows (collect : Database → List Collected) (change : Database → Database) : Audited Unit := do
  let before ← quietly (query fun db => .ok db)
  quietly (statement change)
  record (deletions before (change before))
  sendPostDelete (signalled (collect before))

/-! ## `AuditIPMiddleware` -/

/-- What the server knows of a request before any view runs: two entries of
`request.META`, the user of the session, and the user of the bearer token. -/
structure HttpRequest where
  forwardedFor : Option String
  remoteAddr : Option String
  session : Option User
  bearer : Option User

/-- `x_forwarded_for.split(",")[0].strip()` -/
def firstEntry (header : String) : String :=
  strip (String.ofList (header.toList.takeWhile (· != ',')))

/-- The address taken from the request. -/
def HttpRequest.clientIp (http : HttpRequest) : Option String :=
  match http.forwardedFor with
  | some header => if header = "" then http.remoteAddr else some (firstEntry header)
  | none => http.remoteAddr

/-- `AuditIPMiddleware.__call__` up to `get_response`; `request.user` is the user of the session. -/
def auditIPMiddleware (http : HttpRequest) (worker : Worker) : Worker :=
  { worker with threadLocal := { ipAddress := http.clientIp, currentUser := http.session } }

end SurveyPlatform.Audit

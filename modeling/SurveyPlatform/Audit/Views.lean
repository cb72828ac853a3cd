import SurveyPlatform.Api
import SurveyPlatform.Audit.Signals

/-! # Requests with their signals

The services and views once more, with the signal after every save and delete.
What sends none is run `quietly`; `quietly` apart, each definition reads as the
one of the same name without signals.
-/

namespace SurveyPlatform.Audit

open SurveyPlatform.Library SurveyPlatform.Library.Program SurveyPlatform.Python
open SurveyPlatform.Surveys SurveyPlatform.Responses

/-! ## Surveys -/

def saveStatus (surveyId : Nat) (status : SurveyStatus) : Audited Unit :=
  updateRow .surveys surveyModel surveyId (·.withStatus status) (Survey.key_withStatus status)

def transitionTo (current : Survey) (newStatus : SurveyStatus) : Audited Survey := do
  quietly (query fun db => checkTransition db current newStatus)
  saveStatus current.id newStatus
  return current.withStatus newStatus

def validateStatus (current : Option Survey) (value : SurveyStatus) : Audited (Option Survey) :=
  match current with
  | none => quietly (Surveys.validateStatus none value)
  | some survey => do
    if value ≠ survey.status then
      let survey ← transitionTo survey value
      return some survey
    else return some survey

def collecting {α : Type} (body : Audited α) : Audited (Except String α) := fun worker =>
  match body worker with
  | .ok value worker' => .ok (.ok value) worker'
  | .error (.validationError message) worker' => .ok (.error message) worker'
  | .error exn worker' => .error exn worker'

def runStatusField (current : Option Survey) : Submitted SurveyStatus → Audited (Except String (Option Survey))
  | .missing => return .ok current
  | .refused message => return .error message
  | .given value => collecting (validateStatus current value)

def validateSurvey (isPartial : Bool) (current : Option Survey) (body : SurveyBody) :
    Audited (SurveyData × Option Survey) := do
  let status ← runStatusField current body.status
  match status with
  | .ok current =>
    quietly (query fun _ => raiseErrors [("title", body.title.error? !isPartial),
      ("description", body.description.error? false)])
    return (⟨body.title.value?, body.description.value?, body.status.value?⟩, current)
  | .error message =>
    quietly (query fun _ => raiseErrors [("title", body.title.error? !isPartial),
      ("description", body.description.error? false), ("status", some message)])
    return (⟨none, none, none⟩, current)

def surveyCreate (user : User) (body : SurveyBody) : Audited Survey := do
  quietly (requireAdmin user)
  let (data, _) ← validateSurvey false none body
  let new := data.assign ⟨0, "", "", user.id, .draft⟩
  insertRow .surveys surveyModel new.withId new.key_withId

def surveyPerformUpdate (data : SurveyData) (current : Survey) : Audited Survey := do
  let survey := data.assign current
  saveSurvey survey
  quietly (invalidateStructure (toString survey.id))
  return survey

def surveyUpdate (user : User) (pk : Nat) (isPartial : Bool) (body : SurveyBody) : Audited Survey := do
  quietly (requireAdmin user)
  let current ← quietly (getOr404 fun db => db.surveys.get pk)
  -- a new status is saved, and signalled, during validation
  let (data, current) ← validateSurvey isPartial (some current) body
  match current with
  | some current => surveyPerformUpdate data current
  | none => throw .attributeError

def surveyDestroy (user : User) (pk : Nat) : Audited Unit := do
  quietly (requireAdmin user)
  let current ← quietly (getOr404 fun db => db.surveys.get pk)
  deleteRows (collectSurvey current.id) fun db => db.deleteSurvey current.id
  quietly (invalidateStructure "None")

/-! ## Sections -/

def updateSection (current : Section) (data : SectionData) : Audited Section := do
  translating (onIntegrityError (.validationError "A section with this order already exists in this survey.")) <|
    auditedAtomic do
      saveFields data.isEmpty (updateRow .sections sectionModel current.id data.assign data.key_assign)
      -- the signal is sent, and the check may still undo the save
      quietly (query fun db =>
        if data.order.any (· != current.order) then revalidateOrderingForSurvey db current.surveyId else .ok ())
  quietly (invalidateStructure (toString current.surveyId))
  return data.assign current

def deleteSection (current : Section) : Audited Unit := do
  quietly (invalidateStructure (toString current.surveyId))
  deleteRows (collectSections none (· == current.id)) fun db => db.deleteSections (· == current.id)

def sectionInsert (survey : Survey) (data : SectionData) : Audited Section := do
  let order ← quietly (query fun db =>
    return data.order.getD (nextOrder ((db.sectionsOf survey.id).map Section.order)))
  let new := { data with order := some order }.assign ⟨0, survey.id, "", "", 0⟩
  let row ← translating
    (onIntegrityError (.apiValidationError [("order", "A section with this order already exists in this survey.")]))
    (insertRow .sections sectionModel new.withId new.key_withId)
  quietly (invalidateStructure (toString survey.id))
  return row

def sectionCreate (user : User) (surveyPk : Nat) (body : SectionBody) : Audited Section := do
  quietly (requireAdmin user)
  let data ← quietly (query fun _ => validateSection false body)
  let survey ← quietly (getOr404 fun db => db.surveys.get surveyPk)
  quietly (query fun _ => ensureDraftSurvey survey)
  sectionInsert survey data

def sectionUpdate (user : User) (surveyPk pk : Nat) (isPartial : Bool) (body : SectionBody) : Audited Section := do
  quietly (requireAdmin user)
  let _ ← quietly (getOr404 fun db => db.surveys.get surveyPk)
  let current ← quietly (getOr404 (getSection surveyPk pk))
  let data ← quietly (query fun _ => validateSection isPartial body)
  quietly (ensureDraftSurveyOf current.surveyId)
  translating (underField "detail") (updateSection current data)

def sectionDestroy (user : User) (surveyPk pk : Nat) : Audited Unit := do
  quietly (requireAdmin user)
  let _ ← quietly (getOr404 fun db => db.surveys.get surveyPk)
  let current ← quietly (getOr404 (getSection surveyPk pk))
  quietly (ensureDraftSurveyOf current.surveyId)
  deleteSection current

/-! ## Fields -/

def createField (parent : Section) (data : FieldData) : Audited Field := do
  let new := data.assign (blankField parent.id)
  let field ← translating
    (onIntegrityError (.validationErrorDict "order" "A field with this order already exists in this section."))
    (insertRow .fields fieldModel new.withId new.key_withId)
  quietly (invalidateStructure (toString parent.surveyId))
  return field

def updateField (py : Interpreter) (current : PlacedField) (data : FieldData) : Audited Field := do
  let oldOptions ← quietly (query fun _ =>
    if current.options.truthy then current.options.iterate else .ok [])
  let updated := data.assign current.toField
  translating (onIntegrityError (.validationError "A field with this order already exists in this section.")) <|
    auditedAtomic do
      saveFields data.isEmpty (updateRow .fields fieldModel current.id data.assign data.key_assign)
      let typeChanged := data.fieldType.any (· != current.fieldType)
      let optionsChanged := data.options.any fun options => !options.pyEq (.list oldOptions)
      quietly (query fun db =>
        if typeChanged || optionsChanged then revalidateRulesForField py db updated else .ok ())
  quietly (invalidateStructure (toString current.surveyId))
  return updated

def deleteField (current : PlacedField) : Audited Unit := do
  quietly (invalidateStructure (toString current.surveyId))
  deleteRows (collectFields none (· == current.id)) fun db => db.deleteFields (· == current.id)

def fieldInsert (parent : Section) (data : FieldData) : Audited Field := do
  let order ← quietly (query fun db =>
    return data.order.getD (nextOrder ((db.fieldsOf parent.id).map Field.order)))
  translating underMessageDict (createField parent { data with order := some order })

def fieldCreate (py : Interpreter) (user : User) (surveyPk sectionPk : Nat) (body : FieldBody) : Audited Field := do
  quietly (requireAdmin user)
  let data ← quietly (query fun _ => validateField py false (blankField sectionPk) body)
  let _ ← quietly (getOr404 fun db => db.surveys.get surveyPk)
  let parent ← quietly (getOr404 (getSection surveyPk sectionPk))
  quietly (ensureDraftSurveyOf parent.surveyId)
  fieldInsert parent data

def fieldUpdate (py : Interpreter) (user : User) (surveyPk sectionPk pk : Nat) (isPartial : Bool)
    (body : FieldBody) : Audited Field := do
  quietly (requireAdmin user)
  let _ ← quietly (getOr404 fun db => db.surveys.get surveyPk)
  let _ ← quietly (getOr404 (getSection surveyPk sectionPk))
  let current ← quietly (getOr404 (getField sectionPk pk))
  let data ← quietly (query fun _ => validateField py isPartial current.toField body)
  quietly (ensureDraftSurveyOf current.surveyId)
  translating (underField "detail") (updateField py current data)

def fieldDestroy (user : User) (surveyPk sectionPk pk : Nat) : Audited Unit := do
  quietly (requireAdmin user)
  let _ ← quietly (getOr404 fun db => db.surveys.get surveyPk)
  let _ ← quietly (getOr404 (getSection surveyPk sectionPk))
  let current ← quietly (getOr404 (getField sectionPk pk))
  quietly (ensureDraftSurveyOf current.surveyId)
  deleteField current

/-! ## Conditional rules -/

def createConditionalRule (data : ConditionalRuleData) (surveyPk : Nat) : Audited ConditionalRule := do
  let new := data.assign (blankConditionalRule surveyPk)
  let rule ← insertRow .conditionalRules conditionalRuleModel new.withId new.key_withId
  quietly (invalidateStructure (toString surveyPk))
  return rule

def updateConditionalRule (current : ConditionalRule) (data : ConditionalRuleData) (surveyPk : Nat) :
    Audited ConditionalRule := do
  saveFields data.isEmpty (updateRow .conditionalRules conditionalRuleModel current.id data.assign data.key_assign)
  quietly (invalidateStructure (toString surveyPk))
  return data.assign current

def deleteConditionalRule (current : ConditionalRule) (surveyPk : Nat) : Audited Unit := do
  quietly (invalidateStructure (toString surveyPk))
  deleteRows (fun _ => [⟨none, .conditionalRules, current.id⟩]) fun db =>
    { db with conditionalRules := db.conditionalRules.deleteWhere (·.id == current.id) }

def conditionalRulePerformCreate (order : SetOrder) (survey : Option Survey) (data : ConditionalRuleData) :
    Audited ConditionalRule :=
  match survey with
  | none => throw .attributeError
  | some survey => do
    quietly (query fun _ => ensureDraftSurvey survey)
    quietly (query fun db => checkCircularCr order db data none)
    createConditionalRule data survey.id

def conditionalRuleCreate (py : Interpreter) (order : SetOrder) (user : User) (surveyPk : Nat)
    (body : ConditionalRuleBody) : Audited ConditionalRule := do
  quietly (requireAdmin user)
  let data ← quietly (query fun db => validateConditionalRule py db surveyPk false body)
  conditionalRulePerformCreate order none data

def conditionalRuleUpdate (py : Interpreter) (order : SetOrder) (user : User) (surveyPk pk : Nat)
    (isPartial : Bool) (body : ConditionalRuleBody) : Audited ConditionalRule := do
  quietly (requireAdmin user)
  let current ← quietly (getOr404 (getConditionalRule surveyPk pk))
  let data ← quietly (query fun db => validateConditionalRule py db surveyPk isPartial body)
  let survey ← quietly (getOr404 fun db => db.surveys.get surveyPk)
  quietly (query fun _ => ensureDraftSurvey survey)
  quietly (query fun db => checkCircularCr order db data (some current.id))
  updateConditionalRule current data surveyPk

def conditionalRuleDestroy (user : User) (surveyPk pk : Nat) : Audited Unit := do
  quietly (requireAdmin user)
  let current ← quietly (getOr404 (getConditionalRule surveyPk pk))
  let survey ← quietly (getOr404 fun db => db.surveys.get surveyPk)
  quietly (query fun _ => ensureDraftSurvey survey)
  deleteConditionalRule current surveyPk

/-! ## Field dependencies -/

def createFieldDependency (data : FieldDependencyData) (surveyPk : Nat) : Audited FieldDependency := do
  let new := data.assign (blankFieldDependency surveyPk)
  let dep ← insertRow .fieldDependencies fieldDependencyModel new.withId new.key_withId
  quietly (invalidateStructure (toString surveyPk))
  return dep

def updateFieldDependency (current : FieldDependency) (data : FieldDependencyData) (surveyPk : Nat) :
    Audited FieldDependency := do
  saveFields data.isEmpty (updateRow .fieldDependencies fieldDependencyModel current.id data.assign data.key_assign)
  quietly (invalidateStructure (toString surveyPk))
  return data.assign current

def deleteFieldDependency (current : FieldDependency) (surveyPk : Nat) : Audited Unit := do
  quietly (invalidateStructure (toString surveyPk))
  deleteRows (fun _ => [⟨none, .fieldDependencies, current.id⟩]) fun db =>
    { db with fieldDependencies := db.fieldDependencies.deleteWhere (·.id == current.id) }

def fieldDependencyCreate (py : Interpreter) (order : SetOrder) (user : User) (surveyPk : Nat)
    (body : FieldDependencyBody) : Audited FieldDependency := do
  quietly (requireAdmin user)
  let data ← quietly (query fun db => validateFieldDependency py db surveyPk false body)
  let survey ← quietly (getOr404 fun db => db.surveys.get surveyPk)
  quietly (query fun _ => ensureDraftSurvey survey)
  quietly (query fun db => checkCircularFd order db data none)
  createFieldDependency data surveyPk

def fieldDependencyUpdate (py : Interpreter) (order : SetOrder) (user : User) (surveyPk pk : Nat)
    (isPartial : Bool) (body : FieldDependencyBody) : Audited FieldDependency := do
  quietly (requireAdmin user)
  let current ← quietly (getOr404 (getFieldDependency surveyPk pk))
  let data ← quietly (query fun db => validateFieldDependency py db surveyPk isPartial body)
  let survey ← quietly (getOr404 fun db => db.surveys.get surveyPk)
  quietly (query fun _ => ensureDraftSurvey survey)
  quietly (query fun db => checkCircularFd order db data (some current.id))
  updateFieldDependency current data surveyPk

def fieldDependencyDestroy (user : User) (surveyPk pk : Nat) : Audited Unit := do
  quietly (requireAdmin user)
  let current ← quietly (getOr404 (getFieldDependency surveyPk pk))
  let survey ← quietly (getOr404 fun db => db.surveys.get surveyPk)
  quietly (query fun _ => ensureDraftSurvey survey)
  deleteFieldDependency current surveyPk

/-! ## Submissions -/

/-- `bulk_create` sends no signal, and `FieldResponse` is not tracked. -/
def createSubmission (py : Interpreter) (encryptValue : Encryption) (survey : Survey) (user : User)
    (cleanedAnswers : Dict String Json) (surveyFields : Nat → Option Field) :
    EStateM SubmissionExn Worker SurveyResponse :=
  translating onDuplicate <| auditedAtomic do
    let new : SurveyResponse := ⟨0, survey.id, user.id⟩
    let surveyResponse ← EStateM.adaptExcept SubmissionExn.raised
      (insertRow .responses surveyResponseModel new.withId new.key_withId)
    -- the task of the parent row is out before the answers are prepared
    let fieldResponses ← quietly (reading fun _ =>
      prepareFieldResponses py encryptValue surveyFields cleanedAnswers.entries)
    quietly (raising (createFieldResponses surveyResponse.id fieldResponses))
    return surveyResponse

def respondErrors (body : EStateM SubmissionExn Worker SubmitResponse) : Audited SubmitResponse := fun worker =>
  match body worker with
  | .ok response worker' => .ok response worker'
  | .error (.invalid errors) worker' => .ok (.errors errors) worker'
  | .error (.raised exn) worker' => .error exn worker'

def submit (py : Interpreter) (order : SetOrder) (encryptValue : Encryption) (user : User) (surveyPk : Nat)
    (answers : Submitted (List Answer)) : Audited SubmitResponse := do
  quietly (query fun _ => if user.role = .customer then .ok () else .error .permissionDenied)
  let survey ← quietly (getOr404 fun db => (db.surveys.get surveyPk).filter (·.status = .published))
  let answers ← quietly (query fun db => validateAnswers db answers)
  let db ← quietly (query fun db => .ok db)
  match answersDict db survey.id answers Dict.empty with
  | .error errors => return .errors errors
  | .ok answers =>
    respondErrors do
      let cleaned ← quietly (reading fun w =>
        validateSubmission py order (prefetchSurveyStructure w.db survey.id) answers)
      let surveyResponse ← createSubmission py encryptValue survey user cleaned
        fun id => fieldOfSurvey db survey.id id
      return .created surveyResponse.id

/-! ## Requests -/

/-- The view of a call, with its signals. -/
def audited (py : Interpreter) (call : Call) : Audited Unit :=
  match call.request with
  | .createSurvey body => do let _ ← surveyCreate call.user body
  | .updateSurvey pk isPartial body => do let _ ← surveyUpdate call.user pk isPartial body
  | .destroySurvey pk => surveyDestroy call.user pk
  | .createSection surveyPk body => do let _ ← sectionCreate call.user surveyPk body
  | .updateSection surveyPk pk isPartial body => do let _ ← sectionUpdate call.user surveyPk pk isPartial body
  | .destroySection surveyPk pk => sectionDestroy call.user surveyPk pk
  | .createField surveyPk sectionPk body => do let _ ← fieldCreate py call.user surveyPk sectionPk body
  | .updateField surveyPk sectionPk pk isPartial body => do
    let _ ← fieldUpdate py call.user surveyPk sectionPk pk isPartial body
  | .destroyField surveyPk sectionPk pk => fieldDestroy call.user surveyPk sectionPk pk
  | .createConditionalRule surveyPk body => do
    let _ ← conditionalRuleCreate py call.order call.user surveyPk body
  | .updateConditionalRule surveyPk pk isPartial body => do
    let _ ← conditionalRuleUpdate py call.order call.user surveyPk pk isPartial body
  | .destroyConditionalRule surveyPk pk => conditionalRuleDestroy call.user surveyPk pk
  | .createFieldDependency surveyPk body => do
    let _ ← fieldDependencyCreate py call.order call.user surveyPk body
  | .updateFieldDependency surveyPk pk isPartial body => do
    let _ ← fieldDependencyUpdate py call.order call.user surveyPk pk isPartial body
  | .destroyFieldDependency surveyPk pk => fieldDependencyDestroy call.user surveyPk pk
  | .submit surveyPk answers => do let _ ← submit py call.order call.encryptValue call.user surveyPk answers

/-- A request to one of the API's views. -/
structure ApiRequest extends HttpRequest where
  order : SetOrder
  encryptValue : Encryption
  request : Request

/-- The call the view makes for the user `JWTAuthentication` returns. -/
def ApiRequest.call (request : ApiRequest) (user : User) : Call :=
  ⟨user, request.order, request.encryptValue, request.request⟩

/-- The middleware, and then the view, which authenticates by the token alone. -/
def ApiRequest.serve (py : Interpreter) (worker : Worker) (request : ApiRequest) : Worker :=
  let worker := auditIPMiddleware request.toHttpRequest worker
  match request.bearer with
  -- 401: every one of these views wants a user
  | none => worker
  | some user => final (audited py (request.call user)) worker

/-- A page of the admin site: the rows it leaves, and the saves and deletes it makes. -/
structure AdminPage where
  rows : Database → Database
  changes : Database → List RowChange
  -- saves and deletes that a transaction of the page takes back
  undone : Database → List RowChange

/-- The signals of a list of changes. -/
def sendSignals : List RowChange → Audited Unit
  | [] => pure ()
  | .saved model pk created :: rest => do
    sendPostSave model pk created
    sendSignals rest
  | .deleted model pk :: rest => do
    sendPostDelete [(model, pk)]
    sendSignals rest

def AdminPage.perform (page : AdminPage) : Audited Unit := do
  let db ← quietly (query fun db => .ok db)
  quietly (statement page.rows)
  record (page.changes db)
  sendSignals (page.undone db ++ page.changes db)

/-- A request to the API or to the admin site. -/
inductive Visit where
  | api (request : ApiRequest)
  | admin (http : HttpRequest) (page : AdminPage)

def Visit.http : Visit → HttpRequest
  | api request => request.toHttpRequest
  | admin http _ => http

/-- The user a request is authenticated as when it writes. -/
def Visit.actor : Visit → Option User
  | api request => request.bearer
  -- the admin site knows the session only
  | admin http _ => http.session

def Visit.serve (py : Interpreter) (worker : Worker) : Visit → Worker
  | api request => request.serve py worker
  | admin http page =>
    let worker := auditIPMiddleware http worker
    match http.session with
    -- without a user the page redirects to the login form
    | none => worker
    | some _ => final page.perform worker

/-- The tasks published while a request is served. -/
def dispatched (py : Interpreter) (worker : Worker) (visit : Visit) : List AuditTask :=
  (visit.serve py worker).published.drop worker.published.length

/-- The changes of the request that stand. -/
def committed (py : Interpreter) (worker : Worker) (visit : Visit) : List RowChange :=
  (visit.serve py worker).journal.drop worker.journal.length

end SurveyPlatform.Audit

import SurveyPlatform.Surveys.Serializers

/-! # Views

The write actions of the view sets of `apps/surveys/views.py`: the permission
check, the lookup of the object, the serializer, and `perform_create`,
`perform_update` or `perform_destroy`.  Every action runs without a transaction
around it, so an exception leaves earlier writes in place.

`isPartial` tells PATCH from PUT.
-/

namespace SurveyPlatform.Surveys

open SurveyPlatform.Library SurveyPlatform.Library.Program SurveyPlatform.Python

/-! ## Users -/

inductive Role where
  | admin | dataAnalyst | dataViewer | customer
  deriving DecidableEq, Repr

structure User where
  id : Nat
  role : Role
  deriving DecidableEq, Repr

def administrator : User := ⟨1, .admin⟩

/-- `IsAdmin`, and `IsAdminOrReadOnly` for an unsafe method. -/
def requireAdmin (user : User) : Procedure Unit :=
  query fun _ => if user.role = .admin then .ok () else .error .permissionDenied

/-- `get_object_or_404` -/
def getOr404 {α : Type} (find : Database → Option α) : Procedure α :=
  query fun db =>
    match find db with
    | some row => .ok row
    | none => .error .http404

theorem requireAdmin_bind_eq_ok_iff {β : Type} {user : User} {next : Unit → Procedure β} {w w' : World} {b : β} :
    (requireAdmin user >>= next) w = .ok b w' ↔ user.role = .admin ∧ next () w = .ok b w' := by
  rw [requireAdmin, check_bind_eq_ok_iff]
  by_cases admin : user.role = .admin <;> simp [admin]

theorem getOr404_bind_eq_ok_iff {α β : Type} {find : Database → Option α} {next : α → Procedure β}
    {w w' : World} {b : β} :
    (getOr404 find >>= next) w = .ok b w' ↔ ∃ row, find w.db = some row ∧ next row w = .ok b w' := by
  rw [getOr404, query_bind_eq_ok_iff]
  cases find w.db <;> simp

theorem requireAdmin_bind_of_admin {β : Type} {user : User} {next : Unit → Procedure β} {w : World}
    (admin : user.role = .admin) : (requireAdmin user >>= next) w = next () w :=
  query_bind_of_ok (if_pos admin)

theorem getOr404_bind_of_some {α β : Type} {find : Database → Option α} {next : α → Procedure β} {w : World}
    {row : α} (found : find w.db = some row) : (getOr404 find >>= next) w = next row w :=
  query_bind_of_ok (by rw [found])

theorem getOr404_bind_of_none {α β : Type} {find : Database → Option α} {next : α → Procedure β} {w : World}
    (missing : find w.db = none) : (getOr404 find >>= next) w = .error .http404 w :=
  query_bind_of_error (by rw [missing])

theorem getOr404_bind_congr {α β : Type} {find : Database → Option α} {next next' : α → Procedure β} {w : World}
    (agree : ∀ row, find w.db = some row → next row w = next' row w) :
    (getOr404 find >>= next) w = (getOr404 find >>= next') w := by
  cases found : find w.db with
  | none => rw [getOr404_bind_of_none found, getOr404_bind_of_none found]
  | some row => rw [getOr404_bind_of_some found, getOr404_bind_of_some found, agree row found]

theorem outcome_getOr404_bind_congr {α β : Type} {find : Database → Option α} {next next' : α → Procedure β}
    {w w' : World} (sameFind : find w'.db = find w.db)
    (agree : ∀ row, find w.db = some row → outcome (next' row) w' = outcome (next row) w) :
    outcome (getOr404 find >>= next') w' = outcome (getOr404 find >>= next) w := by
  refine outcome_query_bind_congr (by rw [sameFind]) fun row found => agree row ?_
  cases isFound : find w.db with
  | none =>
    rw [isFound] at found
    cases found
  | some other =>
    rw [isFound] at found
    cases found
    rfl

/-- The status code `custom_exception_handler` answers an exception with. -/
def statusCode : PyExn → Nat
  | .apiValidationError _ | .integrityError => 400
  | .permissionDenied => 403
  | .http404 => 404
  | _ => 500

/-- The request is answered with a 4xx status. -/
def ClientError (exn : PyExn) : Prop := 400 ≤ statusCode exn ∧ statusCode exn < 500

theorem clientError_http404 : ClientError .http404 := by
  simp [ClientError, statusCode]

theorem clientError_apiValidationError (errors : List (String × String)) :
    ClientError (.apiValidationError errors) := by
  simp [ClientError, statusCode]

theorem not_clientError_attributeError : ¬ ClientError .attributeError := by
  simp [ClientError, statusCode]

/-- `_ensure_draft_survey` -/
def ensureDraftSurvey (survey : Survey) : Except PyExn Unit :=
  translated (underField "detail") (validateSurveyIsDraft survey)

theorem ensureDraftSurvey_eq_ok {survey : Survey} : ensureDraftSurvey survey = .ok () ↔ survey.status = .draft := by
  simp [ensureDraftSurvey, validateSurveyIsDraft]

theorem ensureDraftSurvey_of_ne {survey : Survey} (notDraft : survey.status ≠ .draft) :
    ∃ message, ensureDraftSurvey survey = .error (.apiValidationError [("detail", message)]) := by
  rw [ensureDraftSurvey, validateSurveyIsDraft, rejectIf, if_pos notDraft]
  exact ⟨_, rfl⟩

/-- `_ensure_draft_survey(instance.survey)`: the survey is read again. -/
def ensureDraftSurveyOf (surveyId : Nat) : Procedure Unit :=
  query fun db =>
    match db.surveys.get surveyId with
    | some survey => ensureDraftSurvey survey
    | none => .error .attributeError

/-- `(aggregate(Max("order"))["order__max"] or 0) + 1` -/
def nextOrder (orders : List Nat) : Nat := orders.foldr max 0 + 1

/-! ## Surveys -/

def surveyCreate (user : User) (body : SurveyBody) : Procedure Survey := do
  requireAdmin user
  -- without an instance nothing is written during validation
  let (data, _) ← validateSurvey false none body
  let new := data.assign ⟨0, "", "", user.id, .draft⟩
  surveyModel.insert new.withId new.key_withId

/-- `serializer.save()` writes every column of the instance. -/
def surveyPerformUpdate (data : SurveyData) (current : Survey) : Procedure Survey := do
  -- the instance may be older than the row it replaces
  let survey := data.assign current
  saveSurvey survey
  invalidateStructure (toString survey.id)
  return survey

def surveyUpdate (user : User) (pk : Nat) (isPartial : Bool) (body : SurveyBody) : Procedure Survey := do
  requireAdmin user
  let current ← getOr404 fun db => db.surveys.get pk
  let (data, current) ← validateSurvey isPartial (some current) body
  match current with
  | some current => surveyPerformUpdate data current
  | none => throw .attributeError

/-- After `instance.delete()` the id of the instance is `None`. -/
def surveyDestroy (user : User) (pk : Nat) : Procedure Unit := do
  requireAdmin user
  let current ← getOr404 fun db => db.surveys.get pk
  statement fun db => db.deleteSurvey current.id
  -- the structure key of the deleted survey is not the one cleared
  invalidateStructure "None"

/-! ## Sections -/

def getSection (surveyPk pk : Nat) (db : Database) : Option Section :=
  (db.sections.get pk).filter (·.surveyId = surveyPk)

/-- `perform_create` after its draft check. -/
def sectionInsert (survey : Survey) (data : SectionData) : Procedure Section := do
  let order ← query fun db =>
    return data.order.getD (nextOrder ((db.sectionsOf survey.id).map Section.order))
  let new := { data with order := some order }.assign ⟨0, survey.id, "", "", 0⟩
  let row ← translating
    (onIntegrityError (.apiValidationError [("order", "A section with this order already exists in this survey.")]))
    (sectionModel.insert new.withId new.key_withId)
  invalidateStructure (toString survey.id)
  return row

def sectionPerformCreate (surveyPk : Nat) (data : SectionData) : Procedure Section := do
  let survey ← getOr404 fun db => db.surveys.get surveyPk
  query fun _ => ensureDraftSurvey survey
  sectionInsert survey data

def sectionCreate (user : User) (surveyPk : Nat) (body : SectionBody) : Procedure Section := do
  requireAdmin user
  let data ← query fun _ => validateSection false body
  sectionPerformCreate surveyPk data

def sectionUpdate (user : User) (surveyPk pk : Nat) (isPartial : Bool) (body : SectionBody) : Procedure Section := do
  requireAdmin user
  let _ ← getOr404 fun db => db.surveys.get surveyPk
  let current ← getOr404 (getSection surveyPk pk)
  let data ← query fun _ => validateSection isPartial body
  ensureDraftSurveyOf current.surveyId
  translating (underField "detail") (updateSection current data)

def sectionDestroy (user : User) (surveyPk pk : Nat) : Procedure Unit := do
  requireAdmin user
  let _ ← getOr404 fun db => db.surveys.get surveyPk
  let current ← getOr404 (getSection surveyPk pk)
  ensureDraftSurveyOf current.surveyId
  deleteSection current

/-! ## Fields -/

def getField (sectionPk pk : Nat) (db : Database) : Option PlacedField :=
  (db.placedField pk).filter (·.sectionId = sectionPk)

/-- `perform_create` after its draft check. -/
def fieldInsert (parent : Section) (data : FieldData) : Procedure Field := do
  let order ← query fun db =>
    return data.order.getD (nextOrder ((db.fieldsOf parent.id).map Field.order))
  translating underMessageDict (createField parent { data with order := some order })

def fieldPerformCreate (surveyPk sectionPk : Nat) (data : FieldData) : Procedure Field := do
  let _ ← getOr404 fun db => db.surveys.get surveyPk
  let parent ← getOr404 (getSection surveyPk sectionPk)
  ensureDraftSurveyOf parent.surveyId
  fieldInsert parent data

def fieldCreate (py : Interpreter) (user : User) (surveyPk sectionPk : Nat) (body : FieldBody) :
    Procedure Field := do
  requireAdmin user
  let data ← query fun _ => validateField py false (blankField sectionPk) body
  fieldPerformCreate surveyPk sectionPk data

def fieldUpdate (py : Interpreter) (user : User) (surveyPk sectionPk pk : Nat) (isPartial : Bool)
    (body : FieldBody) : Procedure Field := do
  requireAdmin user
  let _ ← getOr404 fun db => db.surveys.get surveyPk
  let _ ← getOr404 (getSection surveyPk sectionPk)
  -- the field is looked up under the section of the URL
  let current ← getOr404 (getField sectionPk pk)
  let data ← query fun _ => validateField py isPartial current.toField body
  ensureDraftSurveyOf current.surveyId
  translating (underField "detail") (updateField py current data)

def fieldDestroy (user : User) (surveyPk sectionPk pk : Nat) : Procedure Unit := do
  requireAdmin user
  let _ ← getOr404 fun db => db.surveys.get surveyPk
  let _ ← getOr404 (getSection surveyPk sectionPk)
  let current ← getOr404 (getField sectionPk pk)
  ensureDraftSurveyOf current.surveyId
  deleteField current

/-! ## Conditional rules -/

def getConditionalRule (surveyPk pk : Nat) (db : Database) : Option ConditionalRule :=
  (db.conditionalRules.get pk).filter (·.surveyId = surveyPk)

/-- `_check_circular_cr` -/
def checkCircularCr (order : SetOrder) (db : Database) (data : ConditionalRuleData) (excludeRuleId : Option Nat) :
    Except PyExn Unit :=
  translated (underField "detail")
    (detectCircularDependenciesCr order db data.dependsOnField data.targetField.join excludeRuleId)

/-- `survey` is the attribute `self.survey` of the view set, if there is one. -/
def conditionalRulePerformCreate (order : SetOrder) (survey : Option Survey) (data : ConditionalRuleData) :
    Procedure ConditionalRule :=
  match survey with
  | none => throw .attributeError
  | some survey => do
    query fun _ => ensureDraftSurvey survey
    query fun db => checkCircularCr order db data none
    createConditionalRule data survey.id

/-- No method of the view set assigns `self.survey`. -/
def conditionalRuleCreate (py : Interpreter) (order : SetOrder) (user : User) (surveyPk : Nat)
    (body : ConditionalRuleBody) : Procedure ConditionalRule := do
  requireAdmin user
  let data ← query fun db => validateConditionalRule py db surveyPk false body
  -- the body is valid, and only then `self.survey` is read
  conditionalRulePerformCreate order none data

def conditionalRulePerformUpdate (order : SetOrder) (surveyPk : Nat) (current : ConditionalRule)
    (data : ConditionalRuleData) : Procedure ConditionalRule := do
  let survey ← getOr404 fun db => db.surveys.get surveyPk
  query fun _ => ensureDraftSurvey survey
  -- the check sees the submitted keys only, not the row they are written over
  query fun db => checkCircularCr order db data (some current.id)
  updateConditionalRule current data surveyPk

def conditionalRuleUpdate (py : Interpreter) (order : SetOrder) (user : User) (surveyPk pk : Nat)
    (isPartial : Bool) (body : ConditionalRuleBody) : Procedure ConditionalRule := do
  requireAdmin user
  let current ← getOr404 (getConditionalRule surveyPk pk)
  let data ← query fun db => validateConditionalRule py db surveyPk isPartial body
  conditionalRulePerformUpdate order surveyPk current data

def conditionalRuleDestroy (user : User) (surveyPk pk : Nat) : Procedure Unit := do
  requireAdmin user
  let current ← getOr404 (getConditionalRule surveyPk pk)
  let survey ← getOr404 fun db => db.surveys.get surveyPk
  query fun _ => ensureDraftSurvey survey
  deleteConditionalRule current surveyPk

/-! ## Field dependencies -/

def getFieldDependency (surveyPk pk : Nat) (db : Database) : Option FieldDependency :=
  (db.fieldDependencies.get pk).filter (·.surveyId = surveyPk)

/-- `_check_circular_fd` -/
def checkCircularFd (order : SetOrder) (db : Database) (data : FieldDependencyData) (excludeDepId : Option Nat) :
    Except PyExn Unit :=
  translated (underField "detail")
    (detectCircularDependenciesFd order db data.dependsOnField data.dependentField excludeDepId)

def fieldDependencyPerformCreate (order : SetOrder) (surveyPk : Nat) (data : FieldDependencyData) :
    Procedure FieldDependency := do
  let survey ← getOr404 fun db => db.surveys.get surveyPk
  query fun _ => ensureDraftSurvey survey
  query fun db => checkCircularFd order db data none
  createFieldDependency data surveyPk

def fieldDependencyCreate (py : Interpreter) (order : SetOrder) (user : User) (surveyPk : Nat)
    (body : FieldDependencyBody) : Procedure FieldDependency := do
  requireAdmin user
  let data ← query fun db => validateFieldDependency py db surveyPk false body
  fieldDependencyPerformCreate order surveyPk data

def fieldDependencyPerformUpdate (order : SetOrder) (surveyPk : Nat) (current : FieldDependency)
    (data : FieldDependencyData) : Procedure FieldDependency := do
  let survey ← getOr404 fun db => db.surveys.get surveyPk
  query fun _ => ensureDraftSurvey survey
  query fun db => checkCircularFd order db data (some current.id)
  updateFieldDependency current data surveyPk

def fieldDependencyUpdate (py : Interpreter) (order : SetOrder) (user : User) (surveyPk pk : Nat)
    (isPartial : Bool) (body : FieldDependencyBody) : Procedure FieldDependency := do
  requireAdmin user
  let current ← getOr404 (getFieldDependency surveyPk pk)
  let data ← query fun db => validateFieldDependency py db surveyPk isPartial body
  fieldDependencyPerformUpdate order surveyPk current data

def fieldDependencyDestroy (user : User) (surveyPk pk : Nat) : Procedure Unit := do
  requireAdmin user
  let current ← getOr404 (getFieldDependency surveyPk pk)
  let survey ← getOr404 fun db => db.surveys.get surveyPk
  query fun _ => ensureDraftSurvey survey
  deleteFieldDependency current surveyPk

end SurveyPlatform.Surveys

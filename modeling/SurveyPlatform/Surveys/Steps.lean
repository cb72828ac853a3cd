import SurveyPlatform.Surveys.Views

/-! # Requests in steps

Requests are not wrapped in a transaction and take no locks, so between two
statements of one request another may run.  Here a survey update, and the
requests that create and delete sections and fields, are cut at these points:
a stage is what the request holds in memory before its next statement.

The updates of one field are cut at the instance: it is loaded, the body is
validated over it, and the submitted columns are written.
-/

namespace SurveyPlatform.Surveys

open SurveyPlatform.Library SurveyPlatform.Library.Program SurveyPlatform.Python

/-! ## Survey updates -/

structure UpdateRequest where
  user : User
  isPartial : Bool
  body : SurveyBody

inductive UpdateStage where
  | received
  | loaded (current : Survey)
  -- `transition_to` has checked the transition and writes the status next
  | accepted (current : Survey) (value : SurveyStatus)
  -- the body is valid and the instance is saved next
  | validated (data : SurveyData) (left : Survey)
  | finished

namespace UpdateRequest

/-- The rest of the validation, once the status field has run. -/
def afterStatus (request : UpdateRequest) (left : Survey) : UpdateStage :=
  match raiseErrors [("title", request.body.title.error? !request.isPartial),
      ("description", request.body.description.error? false)] with
  | .ok _ => .validated ⟨request.body.title.value?, request.body.description.value?, request.body.status.value?⟩ left
  | .error _ => .finished

def step (request : UpdateRequest) (pk : Nat) (w : World) : UpdateStage → World × UpdateStage
  | .received =>
    if request.user.role = .admin then
      match w.db.surveys.get pk with
      | some current => (w, .loaded current)
      | none => (w, .finished)
    else (w, .finished)
  | .loaded current =>
    match request.body.status with
    | .missing => (w, request.afterStatus current)
    | .refused _ => (w, .finished)
    | .given value =>
      -- no transition is asked for: nothing is checked
      if value = current.status then (w, request.afterStatus current)
      else
        match checkTransition w.db current value with
        | .ok _ => (w, .accepted current value)
        | .error _ => (w, .finished)
  | .accepted current value =>
    match saveStatus current.id value w with
    | .ok _ w' => (w', request.afterStatus (current.withStatus value))
    -- the survey was deleted in between
    | .error _ w' => (w', .finished)
  | .validated data left => (final (surveyPerformUpdate data left) w, .finished)
  | .finished => (w, .finished)

theorem afterStatus_cases (request : UpdateRequest) (left : Survey) :
    request.afterStatus left = .validated
        ⟨request.body.title.value?, request.body.description.value?, request.body.status.value?⟩ left ∨
      request.afterStatus left = .finished := by
  unfold afterStatus
  split
  · exact Or.inl rfl
  · exact Or.inr rfl

theorem step_received_world (request : UpdateRequest) (pk : Nat) (w : World) :
    (request.step pk w .received).1 = w := by
  simp only [step]
  split
  · split <;> rfl
  · rfl

theorem step_loaded_world (request : UpdateRequest) (pk : Nat) (w : World) (current : Survey) :
    (request.step pk w (.loaded current)).1 = w := by
  simp only [step]
  split
  · rfl
  · rfl
  · split
    · rfl
    · split <;> rfl

end UpdateRequest

/-! ## Section and field requests -/

inductive EditRequest where
  | createSection (user : User) (body : SectionBody)
  | destroySection (user : User) (pk : Nat)
  | createField (user : User) (sectionPk : Nat) (body : FieldBody)
  | destroyField (user : User) (sectionPk pk : Nat)

/-- What is left to do after the draft check. -/
inductive PendingWrite where
  | createSection (survey : Survey) (data : SectionData)
  | deleteSection (current : Section)
  | createField (parent : Section) (data : FieldData)
  | deleteField (current : PlacedField)

inductive EditStage where
  | received
  | checked (write : PendingWrite)
  | finished

namespace EditRequest

/-- The view of a request on a survey. -/
def perform (py : Interpreter) (surveyPk : Nat) : EditRequest → Procedure Unit
  | createSection user body => do
    let _ ← sectionCreate user surveyPk body
  | destroySection user pk => sectionDestroy user surveyPk pk
  | createField user sectionPk body => do
    let _ ← fieldCreate py user surveyPk sectionPk body
  | destroyField user sectionPk pk => fieldDestroy user surveyPk sectionPk pk

/-- The view up to its draft check. -/
def check (py : Interpreter) (surveyPk : Nat) : EditRequest → Procedure PendingWrite
  | createSection user body => do
    requireAdmin user
    let data ← query fun _ => validateSection false body
    let survey ← getOr404 fun db => db.surveys.get surveyPk
    query fun _ => ensureDraftSurvey survey
    return .createSection survey data
  | destroySection user pk => do
    requireAdmin user
    let _ ← getOr404 fun db => db.surveys.get surveyPk
    let current ← getOr404 (getSection surveyPk pk)
    ensureDraftSurveyOf current.surveyId
    return .deleteSection current
  | createField user sectionPk body => do
    requireAdmin user
    let data ← query fun _ => validateField py false (blankField sectionPk) body
    let _ ← getOr404 fun db => db.surveys.get surveyPk
    let parent ← getOr404 (getSection surveyPk sectionPk)
    ensureDraftSurveyOf parent.surveyId
    return .createField parent data
  | destroyField user sectionPk pk => do
    requireAdmin user
    let _ ← getOr404 fun db => db.surveys.get surveyPk
    let _ ← getOr404 (getSection surveyPk sectionPk)
    let current ← getOr404 (getField sectionPk pk)
    ensureDraftSurveyOf current.surveyId
    return .deleteField current

end EditRequest

/-- The view from its draft check on. -/
def PendingWrite.perform : PendingWrite → Procedure Unit
  | createSection survey data => do
    let _ ← sectionInsert survey data
  | deleteSection current => Surveys.deleteSection current
  | createField parent data => do
    let _ ← fieldInsert parent data
  | deleteField current => Surveys.deleteField current

def EditRequest.step (request : EditRequest) (py : Interpreter) (surveyPk : Nat) (w : World) :
    EditStage → World × EditStage
  | .received =>
    match request.check py surveyPk w with
    | .ok write w' => (w', .checked write)
    | .error _ w' => (w', .finished)
  -- the survey may have been published since the check
  | .checked write => (final write.perform w, .finished)
  | .finished => (w, .finished)

/-- The steps of a request are those of its view. -/
theorem EditRequest.perform_eq (py : Interpreter) (surveyPk : Nat) (request : EditRequest) :
    request.perform py surveyPk = request.check py surveyPk >>= PendingWrite.perform := by
  cases request <;> simp [perform, check, sectionCreate, sectionPerformCreate, sectionDestroy, fieldCreate,
    fieldPerformCreate, fieldDestroy, PendingWrite.perform]

/-! ## Updates of a field -/

structure FieldRequest where
  user : User
  isPartial : Bool
  body : FieldBody

inductive FieldStage where
  | received
  | loaded (current : PlacedField)
  -- the submitted columns are written next
  | validated (current : PlacedField) (data : FieldData)
  | finished

namespace FieldRequest

/-- The view up to its instance. -/
def load (request : FieldRequest) (surveyPk sectionPk pk : Nat) : Procedure PlacedField := do
  requireAdmin request.user
  let _ ← getOr404 fun db => db.surveys.get surveyPk
  let _ ← getOr404 (getSection surveyPk sectionPk)
  getOr404 (getField sectionPk pk)

/-- `perform_update` -/
def write (py : Interpreter) (current : PlacedField) (data : FieldData) : Procedure Field := do
  ensureDraftSurveyOf current.surveyId
  translating (underField "detail") (updateField py current data)

def step (request : FieldRequest) (py : Interpreter) (surveyPk sectionPk pk : Nat) (w : World) :
    FieldStage → World × FieldStage
  | .received =>
    match request.load surveyPk sectionPk pk w with
    | .ok current w' => (w', .loaded current)
    | .error _ w' => (w', .finished)
  | .loaded current =>
    -- validation looks at the instance, not at the rows
    match validateField py request.isPartial current.toField request.body with
    | .ok data => (w, .validated current data)
    | .error _ => (w, .finished)
  | .validated current data => (final (write py current data) w, .finished)
  | .finished => (w, .finished)

/-- The view of the request is these three steps. -/
theorem fieldUpdate_eq (request : FieldRequest) (py : Interpreter) (surveyPk sectionPk pk : Nat) :
    fieldUpdate py request.user surveyPk sectionPk pk request.isPartial request.body = (do
      let current ← request.load surveyPk sectionPk pk
      let data ← query fun _ => validateField py request.isPartial current.toField request.body
      write py current data) := by
  simp only [fieldUpdate, load, write, bind_assoc]

end FieldRequest

end SurveyPlatform.Surveys

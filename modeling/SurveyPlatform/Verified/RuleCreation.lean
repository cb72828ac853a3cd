import SurveyPlatform.Verified.RuleUpdates

/-! # Creating rules and dependencies

Both create endpoints should add the submitted row when the survey is a draft
and the new edge closes no cycle, and otherwise refuse with a client error and
change nothing (`CreatesAsAsked`).  The rule endpoint never does: its view reads
an attribute nobody assigns.  The dependency endpoint does unless the stored
rows already had a cycle that the search runs into (`create_asAsked_iff`).
-/

namespace SurveyPlatform.Verified

open SurveyPlatform.Library SurveyPlatform.Library.Cycles SurveyPlatform.Library.Program
open SurveyPlatform.Python SurveyPlatform.Surveys
open Relation (ReflTransGen TransGen)

/-! ## Requests -/

inductive CreateRequest where
  | rule (body : ConditionalRuleBody)
  | dependency (body : FieldDependencyBody)

namespace CreateRequest

def perform (py : Interpreter) (order : SetOrder) (user : User) (surveyPk : Nat) : CreateRequest → Procedure Unit
  | rule body => do
    let _ ← conditionalRuleCreate py order user surveyPk body
  | dependency body => do
    let _ ← fieldDependencyCreate py order user surveyPk body

/-- The serializer accepts the body. -/
def Accepted (py : Interpreter) (db : Database) (surveyPk : Nat) : CreateRequest → Prop
  | rule body => ∃ data, validateConditionalRule py db surveyPk false body = .ok data
  | dependency body => ∃ data, validateFieldDependency py db surveyPk false body = .ok data

/-- The edge of the new row, from the field it is about to the field it reads. -/
def edge? : CreateRequest → Option (Nat × Nat)
  | rule body => do return (← body.targetField.value?.join, ← body.dependsOnField.value?)
  | dependency body => do return (← body.dependentField.value?, ← body.dependsOnField.value?)

/-- The edges of the stored rows of the same kind. -/
def edges (db : Database) (surveyPk : Nat) : CreateRequest → List (Nat × Nat)
  | rule _ => conditionalRuleEdges db surveyPk none
  | dependency _ => fieldDependencyEdges db surveyPk none

/-- The field the new row reads already leads to the field it is about. -/
def ClosesCycle (db : Database) (surveyPk : Nat) (request : CreateRequest) : Prop :=
  ∃ target source, request.edge? = some (target, source) ∧
    ReflTransGen (HasEdge (request.edges db surveyPk)) source target

/-- A stored cycle can be reached from one of the two fields of the new row. -/
def MeetsCycle (db : Database) (surveyPk : Nat) (request : CreateRequest) : Prop :=
  ∃ target source, request.edge? = some (target, source) ∧
    ∃ c, (ReflTransGen (HasEdge (request.edges db surveyPk)) target c ∨
      ReflTransGen (HasEdge (request.edges db surveyPk)) source c) ∧
        TransGen (HasEdge (request.edges db surveyPk)) c c

/-- The row has the columns of the body and the survey of the URL. -/
structure CarriesRule (body : ConditionalRuleBody) (surveyPk : Nat) (row : ConditionalRule) : Prop where
  survey : row.surveyId = surveyPk
  targetSection : row.targetSectionId = body.targetSection.value?.join
  targetField : row.targetFieldId = body.targetField.value?.join
  dependsOnField : some row.dependsOnFieldId = body.dependsOnField.value?
  operator : some row.operator = body.operator.value?
  value : some row.value = body.value.value?

structure CarriesDependency (body : FieldDependencyBody) (surveyPk : Nat) (row : FieldDependency) : Prop where
  survey : row.surveyId = surveyPk
  dependentField : some row.dependentFieldId = body.dependentField.value?
  dependsOnField : some row.dependsOnFieldId = body.dependsOnField.value?
  operator : some row.operator = body.operator.value?
  value : some row.value = body.value.value?
  action : some row.action = body.action.value?
  actionValue : some row.actionValue = body.actionValue.value?

/-- One row with the columns of the body is added, and nothing else changes. -/
def Adds (surveyPk : Nat) (before after : Database) : CreateRequest → Prop
  | rule body => ∃ row, CarriesRule body surveyPk row ∧ after = { before with
      conditionalRules := before.conditionalRules.insert row.withId row.key_withId }
  | dependency body => ∃ row, CarriesDependency body surveyPk row ∧ after = { before with
      fieldDependencies := before.fieldDependencies.insert row.withId row.key_withId }

end CreateRequest

/-- The survey of the URL is a draft and the new edge closes no cycle. -/
def MayCreate (db : Database) (surveyPk : Nat) (request : CreateRequest) : Prop :=
  (∃ survey, db.surveys.get surveyPk = some survey ∧ survey.status = .draft) ∧ ¬ request.ClosesCycle db surveyPk

/-- What a create request should do. -/
structure CreatesAsAsked (surveyPk : Nat) (request : CreateRequest) (w : World)
    (result : EStateM.Result PyExn World Unit) : Prop where
  added : MayCreate w.db surveyPk request → ∃ w', result = .ok () w' ∧ request.Adds surveyPk w.db w'.db
  refused : ¬ MayCreate w.db surveyPk request → ∃ exn w', result = .error exn w' ∧ ClientError exn ∧ w'.db = w.db

/-- When it does. -/
def CreateRequest.Works (db : Database) (surveyPk : Nat) : CreateRequest → Prop
  | .rule _ => False
  | .dependency body => MayCreate db surveyPk (.dependency body) →
      ¬ CreateRequest.MeetsCycle db surveyPk (.dependency body)

section Creation

variable {py : Interpreter} (order : SetOrder) {user : User} {surveyPk : Nat} {w : World}

/-! ## What an accepted dependency body holds -/

/-- The body of a create request that passed its declared fields has every key. -/
structure DependencyGiven (db : Database) (body : FieldDependencyBody) (dependent dependsOn : PlacedField)
    (data : FieldDependencyData) : Prop where
  dependentFound : db.placedField dependent.id = some dependent
  dependsOnFound : db.placedField dependsOn.id = some dependsOn
  columns : ∃ operator value action actionValue,
    body = ⟨.given dependent.id, .given dependsOn.id, .given operator, .given value, .given action,
      .given actionValue⟩ ∧
    data = ⟨some dependent, some dependsOn, some operator, some value, some action, some actionValue⟩

theorem fieldDependencyFields_given {db : Database} {body : FieldDependencyBody} {data : FieldDependencyData}
    (fields : fieldDependencyFields db false body = .ok data) :
    ∃ dependent dependsOn, DependencyGiven db body dependent dependsOn data := by
  simp only [fieldDependencyFields, bind_eq_ok, Bool.not_false, pure_eq_ok] at fields
  obtain ⟨⟨⟩, passed, rfl⟩ := fields
  simp only [raiseErrors_eq_ok, List.forall_mem_cons] at passed
  obtain ⟨noDependent, noDependsOn, noOperator, noValue, noAction, noActionValue, _⟩ := passed
  obtain ⟨dependent, isDependent⟩ := error?_required noDependent
  obtain ⟨dependsOn, isDependsOn⟩ := error?_required noDependsOn
  obtain ⟨operator, isOperator⟩ := error?_required noOperator
  obtain ⟨value, isValue⟩ := error?_required noValue
  obtain ⟨action, isAction⟩ := error?_required noAction
  obtain ⟨actionValue, isActionValue⟩ := error?_required noActionValue
  obtain ⟨dependentPk, dependentGiven, dependentFound⟩ := convert_eq_given isDependent
  obtain ⟨dependsOnPk, dependsOnGiven, dependsOnFound⟩ := convert_eq_given isDependsOn
  obtain ⟨valueJson, valueGiven, sameValue⟩ := convert_eq_given isValue
  obtain ⟨actionJson, actionGiven, sameAction⟩ := convert_eq_given isActionValue
  rw [related_eq_ok] at dependentFound dependsOnFound
  have dependentId := placedField_id dependentFound
  have dependsOnId := placedField_id dependsOnFound
  subst dependentId dependsOnId
  refine ⟨dependent, dependsOn, dependentFound, dependsOnFound, operator, value, action, actionValue, ?_, ?_⟩
  · rw [← dependentGiven, ← dependsOnGiven, ← isOperator, ← notNull_eq_ok sameValue, ← valueGiven, ← isAction,
      ← notNull_eq_ok sameAction, ← actionGiven]
  · rw [isDependent, isDependsOn, isOperator, isValue, isAction, isActionValue]
    rfl

/-! ## The two endpoints -/

/-- The view reads `self.survey`, which no method assigns. -/
theorem conditionalRuleCreate_raises {body : ConditionalRuleBody} {data : ConditionalRuleData}
    (admin : user.role = .admin) (accepted : validateConditionalRule py w.db surveyPk false body = .ok data) :
    conditionalRuleCreate py order user surveyPk body w = .error .attributeError w := by
  rw [conditionalRuleCreate, requireAdmin_bind_of_admin admin, query_bind_of_ok accepted]
  rfl

theorem fieldDependencyCreate_eq {body : FieldDependencyBody} {data : FieldDependencyData}
    (admin : user.role = .admin) (accepted : validateFieldDependency py w.db surveyPk false body = .ok data) :
    fieldDependencyCreate py order user surveyPk body w = fieldDependencyPerformCreate order surveyPk data w := by
  rw [fieldDependencyCreate, requireAdmin_bind_of_admin admin, query_bind_of_ok accepted]

theorem fieldDependencyPerformCreate_notDraft (data : FieldDependencyData)
    (notDraft : ¬ ∃ survey, w.db.surveys.get surveyPk = some survey ∧ survey.status = .draft) :
    ∃ exn, fieldDependencyPerformCreate order surveyPk data w = .error exn w ∧ ClientError exn := by
  rw [fieldDependencyPerformCreate]
  cases found : w.db.surveys.get surveyPk with
  -- no such survey: 404; a survey that is no draft: 400
  | none =>
    exact ⟨_, getOr404_bind_of_none found, clientError_http404⟩
  | some survey =>
    have bad : survey.status ≠ .draft := fun draft => notDraft ⟨survey, found, draft⟩
    obtain ⟨message, raised⟩ := ensureDraftSurvey_of_ne bad
    rw [getOr404_bind_of_some found, query_bind_of_error raised]
    exact ⟨_, rfl, clientError_apiValidationError _⟩

theorem cycleFrom_dependency_iff (surveyPk : Nat) {body : FieldDependencyBody} {dependent dependsOn : PlacedField}
    {data : FieldDependencyData} (given : DependencyGiven w.db body dependent dependsOn data) :
    cycleFrom order ((dependent.id, dependsOn.id) :: fieldDependencyEdges w.db surveyPk none) dependent.id = true ↔
      CreateRequest.ClosesCycle w.db surveyPk (.dependency body) ∨
        CreateRequest.MeetsCycle w.db surveyPk (.dependency body) := by
  obtain ⟨operator, value, action, actionValue, rfl, _⟩ := given.columns
  rw [cycleFrom_iff, hasEdge_cons, cycle_withEdge_iff]
  simp [CreateRequest.ClosesCycle, CreateRequest.MeetsCycle, CreateRequest.edge?, CreateRequest.edges,
    Submitted.value?]

/-- Every foreign key of a new dependency is in place. -/
theorem fieldDependencyConstraints_given {body : FieldDependencyBody} {dependent dependsOn : PlacedField}
    {data : FieldDependencyData} {survey : Survey} (found : w.db.surveys.get surveyPk = some survey)
    (given : DependencyGiven w.db body dependent dependsOn data) (id : Nat) :
    w.db.fieldDependencyConstraints ((data.assign (blankFieldDependency surveyPk)).withId id) = .ok () := by
  obtain ⟨_, _, _, _, _, rfl⟩ := given.columns
  have isDependent := (Database.placedField_eq_some.mp given.dependentFound).1
  have isDependsOn := (Database.placedField_eq_some.mp given.dependsOnFound).1
  simp [Database.fieldDependencyConstraints, Database.requireRow, FieldDependencyData.assign, blankFieldDependency,
    FieldDependency.withId, found, isDependent, isDependsOn, seq_eq_ok]

theorem carriesDependency_assign {body : FieldDependencyBody} {dependent dependsOn : PlacedField}
    {data : FieldDependencyData} (given : DependencyGiven w.db body dependent dependsOn data) :
    CreateRequest.CarriesDependency body surveyPk (data.assign (blankFieldDependency surveyPk)) := by
  obtain ⟨_, _, _, _, rfl, rfl⟩ := given.columns
  exact ⟨rfl, rfl, rfl, rfl, rfl, rfl, rfl⟩

/-- In a draft the cycle search decides: it refuses, or the row is added. -/
theorem fieldDependencyPerformCreate_draft {body : FieldDependencyBody} {dependent dependsOn : PlacedField}
    {data : FieldDependencyData} {survey : Survey} (found : w.db.surveys.get surveyPk = some survey)
    (draft : survey.status = .draft) (given : DependencyGiven w.db body dependent dependsOn data)
    (inSurvey : dependsOn.surveyId = surveyPk) :
    if cycleFrom order ((dependent.id, dependsOn.id) :: fieldDependencyEdges w.db surveyPk none) dependent.id = true
    then ∃ exn, fieldDependencyPerformCreate order surveyPk data w = .error exn w ∧ ClientError exn
    else ∃ row w', fieldDependencyPerformCreate order surveyPk data w = .ok row w' ∧
      CreateRequest.Adds surveyPk w.db w'.db (.dependency body) := by
  have isDependent : data.dependentField = some dependent := by
    obtain ⟨_, _, _, _, _, rfl⟩ := given.columns
    rfl
  have isDependsOn : data.dependsOnField = some dependsOn := by
    obtain ⟨_, _, _, _, _, rfl⟩ := given.columns
    rfl
  rw [fieldDependencyPerformCreate, getOr404_bind_of_some found,
    query_bind_of_ok (ensureDraftSurvey_eq_ok.mpr draft)]
  split
  · rename_i cycle
    -- the search found a cycle
    have raised : checkCircularFd order w.db data none = .error (.apiValidationError
        [("detail", "Adding this dependency would create a circular dependency.")]) := by
      simp [checkCircularFd, isDependent, isDependsOn, detectCircularDependenciesFd, inSurvey, rejectIf, cycle,
        reject, translated, underField]
    rw [query_bind_of_error raised]
    exact ⟨_, rfl, clientError_apiValidationError _⟩
  · rename_i noCycle
    have passed : checkCircularFd order w.db data none = .ok () := by
      simp [checkCircularFd, isDependent, isDependsOn, detectCircularDependenciesFd, inSurvey, rejectIf, noCycle]
    rw [query_bind_of_ok passed, createFieldDependency,
      bind_of_ok (Model.insert_of_constraints _ (fieldDependencyConstraints_given found given _))]
    exact ⟨_, _, rfl, _, carriesDependency_assign given, rfl⟩

/-! ## When the endpoints work -/

theorem createsAsAsked_clientError_iff {request : CreateRequest} {exn : PyExn} (client : ClientError exn) :
    CreatesAsAsked surveyPk request w (.error exn w) ↔ ¬ MayCreate w.db surveyPk request := by
  constructor
  · intro asAsked may
    obtain ⟨w', result, _⟩ := asAsked.added may
    cases result
  · intro mayNot
    exact ⟨fun may => absurd may mayNot, fun _ => ⟨exn, w, rfl, client, rfl⟩⟩

theorem not_createsAsAsked_serverError {request : CreateRequest} {exn : PyExn} (server : ¬ ClientError exn) :
    ¬ CreatesAsAsked surveyPk request w (.error exn w) := by
  intro asAsked
  by_cases may : MayCreate w.db surveyPk request
  · obtain ⟨w', result, _⟩ := asAsked.added may
    cases result
  · obtain ⟨_, w', result, client, _⟩ := asAsked.refused may
    cases result
    exact server client

/-- A create request accepted by its serializer does what it should exactly when it
is about a dependency, and no stored cycle is met by a row that may be created. -/
theorem create_asAsked_iff {request : CreateRequest} (admin : user.role = .admin)
    (accepted : request.Accepted py w.db surveyPk) :
    CreatesAsAsked surveyPk request w (request.perform py order user surveyPk w) ↔
      request.Works w.db surveyPk := by
  cases request with
  | rule body =>
    obtain ⟨data, accepted⟩ := accepted
    -- the answer is 500, which neither clause of the promise allows
    have raises : (CreateRequest.rule body).perform py order user surveyPk w = .error .attributeError w :=
      bind_of_error (conditionalRuleCreate_raises order admin accepted)
    rw [raises]
    exact iff_of_false (not_createsAsAsked_serverError not_clientError_attributeError) id
  | dependency body =>
    obtain ⟨data, accepted⟩ := accepted
    have creates := fieldDependencyCreate_eq order admin accepted
    simp only [validateFieldDependency, bind_eq_ok, translated_eq_ok, pure_eq_ok] at accepted
    obtain ⟨_, fields, _, valid, rfl⟩ := accepted
    obtain ⟨dependent, dependsOn, given⟩ := fieldDependencyFields_given fields
    -- the graph is built for the survey of `depends_on_field`, which is the one of the URL
    have inSurvey : dependsOn.surveyId = surveyPk := by
      obtain ⟨_, _, _, _, _, rfl⟩ := given.columns
      exact (validateFieldDependencyData_eq_ok.mp valid).dependsOnSurvey dependsOn rfl
    by_cases isDraft : ∃ survey, w.db.surveys.get surveyPk = some survey ∧ survey.status = .draft
    · obtain ⟨survey, found, draft⟩ := isDraft
      have decides := fieldDependencyPerformCreate_draft order found draft given inSurvey
      have cycle_iff := cycleFrom_dependency_iff order surveyPk given
      split at decides
      · rename_i cycle
        obtain ⟨exn, raised, client⟩ := decides
        rw [show (CreateRequest.dependency body).perform py order user surveyPk w = .error exn w from
          bind_of_error (creates.trans raised), createsAsAsked_clientError_iff client]
        -- a cycle was found: the new edge closes it, or it was stored before
        have closesOrMeets := cycle_iff.mp cycle
        constructor
        · intro mayNot may
          exact absurd may mayNot
        · intro works may
          exact closesOrMeets.elim may.2 (works may)
      · rename_i noCycle
        obtain ⟨row, w', returned, adds⟩ := decides
        rw [show (CreateRequest.dependency body).perform py order user surveyPk w = .ok () w' from
          bind_of_ok (creates.trans returned)]
        -- no cycle anywhere in reach, so the row was rightly added
        rw [cycle_iff, not_or] at noCycle
        refine iff_of_true ⟨fun _ => ⟨w', rfl, adds⟩, fun mayNot => ?_⟩ fun _ => noCycle.2
        exact absurd ⟨⟨survey, found, draft⟩, noCycle.1⟩ mayNot
    · obtain ⟨exn, raised, client⟩ := fieldDependencyPerformCreate_notDraft order data isDraft
      rw [show (CreateRequest.dependency body).perform py order user surveyPk w = .error exn w from
        bind_of_error (creates.trans raised), createsAsAsked_clientError_iff client]
      exact iff_of_true (fun may => isDraft may.1) fun may => absurd may.1 isDraft

end Creation

/-! ## Creating in the small draft -/

/-- `POST {"dependent_field": 2, "depends_on_field": 1, …}` -/
def newDependencyBody : FieldDependencyBody :=
  ⟨.given 2, .given 1, .given .equals, .given (.str "a"), .given .hideOptions, .given (.list [.str "d"])⟩

theorem create_asAsked_newDependency :
    (CreateRequest.dependency newDependencyBody).Accepted bareInterpreter draftWorld.db 1 ∧
      (CreatesAsAsked 1 (.dependency newDependencyBody) draftWorld
        ((CreateRequest.dependency newDependencyBody).perform bareInterpreter .ascending administrator 1 draftWorld) ↔
      CreateRequest.Works draftWorld.db 1 (.dependency newDependencyBody)) :=
  ⟨⟨_, rfl⟩, create_asAsked_iff .ascending rfl ⟨_, rfl⟩⟩

/-- `POST {"target_field": 2, "depends_on_field": 1, "operator": "equals", "value": "b"}` -/
def newRuleBody : ConditionalRuleBody := ⟨.missing, .given (some 2), .given 1, .given .equals, .given (.str "b")⟩

/-- The serializer accepts the rule, the survey is a draft, the edge closes no
cycle; yet the request is answered with 500. -/
theorem create_rule_fails : (CreateRequest.rule newRuleBody).Accepted bareInterpreter draftWorld.db 1 ∧
    MayCreate draftWorld.db 1 (.rule newRuleBody) ∧
    ∃ exn w', (CreateRequest.rule newRuleBody).perform bareInterpreter .ascending administrator 1 draftWorld =
      .error exn w' ∧ statusCode exn = 500 ∧
      ¬ CreateRequest.Adds 1 draftWorld.db w'.db (.rule newRuleBody) := by
  have stored : conditionalRuleEdges draftWorld.db 1 none = [(2, 1)] := rfl
  refine ⟨⟨_, rfl⟩, ⟨⟨_, rfl, rfl⟩, ?_⟩, _, _, rfl, rfl, ?_⟩
  · intro holds
    obtain ⟨target, source, isEdge, path⟩ := holds
    cases isEdge
    -- no stored edge leaves field 1, which the new rule would read
    cases path.cases_head with
    | inl same => cases same
    | inr step =>
      obtain ⟨next, edge, _⟩ := step
      simp [HasEdge, CreateRequest.edges, stored] at edge
  · intro holds
    obtain ⟨row, _, same⟩ := holds
    have sameNext := congrArg (·.conditionalRules.next) same
    cases sameNext

end SurveyPlatform.Verified

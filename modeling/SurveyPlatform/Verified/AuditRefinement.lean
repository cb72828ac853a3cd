import SurveyPlatform.Audit.Views

/-! # Signals leave the world alone

Every view with its signals does to the world what the view without them does,
and returns or raises the same (`audited_follows`): one lemma for each kind of
statement, and then one for each view, in the order of its lines.
-/

namespace SurveyPlatform.Verified

open SurveyPlatform.Library SurveyPlatform.Library.Program SurveyPlatform.Python
open SurveyPlatform.Surveys SurveyPlatform.Responses
open SurveyPlatform.Audit (Audited Worker worldPart quietly auditedAtomic)

/-! ## Statements -/

section Statements

variable {ε α : Type}

theorem quietly_follows (program : EStateM ε World α) : Follows worldPart (quietly program) program :=
  follows_focusing program

theorem quietly_bind_follows {β : Type} (program : EStateM ε World α) {next : α → EStateM ε Worker β}
    {nextModel : α → EStateM ε World β} (rest : ∀ a, Follows worldPart (next a) (nextModel a)) :
    Follows worldPart (quietly program >>= next) (program >>= nextModel) :=
  follows_bind (quietly_follows program) rest

/-- The four checks before a write. -/
theorem guarded_follows {β γ δ η : Type} {p : EStateM ε World α} {q : α → EStateM ε World β}
    {r : α → β → EStateM ε World γ} {s : α → β → γ → EStateM ε World δ} {next : α → β → γ → δ → EStateM ε Worker η}
    {nextModel : α → β → γ → δ → EStateM ε World η}
    (rest : ∀ a b c d, Follows worldPart (next a b c d) (nextModel a b c d)) :
    Follows worldPart (do
        let a ← quietly p
        let b ← quietly (q a)
        let c ← quietly (r a b)
        let d ← quietly (s a b c)
        next a b c d)
      (do
        let a ← p
        let b ← q a
        let c ← r a b
        let d ← s a b c
        nextModel a b c d) :=
  quietly_bind_follows _ fun _ => quietly_bind_follows _ fun _ =>
    quietly_bind_follows _ fun _ => quietly_bind_follows _ fun _ => rest _ _ _ _

/-- A write and the clearing of the cache. -/
theorem cleared_follows {β γ : Type} {program : EStateM ε Worker α} {model : EStateM ε World α}
    {clear : α → EStateM ε World β} {result : α → γ} (written : Follows worldPart program model) :
    Follows worldPart (do
        let a ← program
        let _ ← quietly (clear a)
        return result a)
      (do
        let a ← model
        let _ ← clear a
        return result a) :=
  follows_bind written fun _ => quietly_bind_follows _ fun _ => follows_pure _

/-- Tasks and log entries after a statement. -/
theorem signals_follow {program : EStateM ε World Unit} {body : EStateM ε Worker Unit}
    (unseen : Follows worldPart body (pure ())) : Follows worldPart (do quietly program; body) program := by
  have follows := quietly_bind_follows program fun _ => unseen
  rwa [bind_pure_unit] at follows

theorem record_sendPostSave_follows (changes : List Audit.RowChange) (sender : Audit.ModelClass) (pk : Nat)
    (created : Bool) : Follows worldPart
      (do Audit.record changes; Audit.sendPostSave sender pk created : EStateM ε Worker Unit) (pure ()) := fun _ => rfl

variable [Keyed α]

theorem insertRow_follows (sender : Audit.ModelClass) (model : Model α) (make : Nat → α)
    (keyedMake : ∀ i, key (make i) = i) :
    Follows worldPart (Audit.insertRow sender model make keyedMake) (model.insert make keyedMake) := by
  have follows : Follows worldPart (Audit.insertRow sender model make keyedMake)
      (model.insert make keyedMake >>= pure) := by
    apply quietly_bind_follows
    intro row
    exact fun _ => rfl
  rwa [bind_pure] at follows

theorem updateRow_follows (sender : Audit.ModelClass) (model : Model α) (id : Nat) (assign : α → α)
    (keepsKey : ∀ row, key (assign row) = key row) :
    Follows worldPart (Audit.updateRow sender model id assign keepsKey) (model.update id assign keepsKey) :=
  signals_follow (record_sendPostSave_follows _ _ _ _)

theorem saveFields_follows (isEmpty : Bool) {update : Audited Unit} {model : Procedure Unit}
    (follows : Follows worldPart update model) :
    Follows worldPart (Audit.saveFields isEmpty update) (saveFields isEmpty model) :=
  follows_ite (follows_pure ()) follows

theorem saveSurvey_follows (row : Survey) : Follows worldPart (Audit.saveSurvey row) (saveSurvey row) := fun _ => rfl

theorem deleteRows_follows (collect : Database → List Audit.Collected) (change : Database → Database) :
    Follows worldPart (Audit.deleteRows collect change) (statement change) := fun _ => rfl

theorem auditedAtomic_follows {β : Type} {body : EStateM ε Worker β} {model : EStateM ε World β}
    (follows : Follows worldPart body model) :
    Follows worldPart (auditedAtomic body) (atomic (fun before after => { after with db := before.db }) model) :=
  follows_atomic follows fun _ _ => rfl

end Statements

/-! ## Surveys -/

section Views

variable {py : Interpreter} {order : SetOrder} {user : User}

theorem collecting_follows {α : Type} {body : Audited α} {model : Procedure α} (follows : Follows worldPart body model) :
    Follows worldPart (Audit.collecting body) (collecting model) := by
  intro worker
  have same := follows worker
  unfold Audit.collecting collecting
  rw [← same]
  cases body worker with
  | ok value worker' => rfl
  | error exn worker' => cases exn <;> rfl

theorem transitionTo_follows (current : Survey) (newStatus : SurveyStatus) :
    Follows worldPart (Audit.transitionTo current newStatus) (transitionTo current newStatus) :=
  quietly_bind_follows _ fun _ => follows_bind (updateRow_follows _ _ _ _ _) fun _ => follows_pure _

theorem validateStatus_follows (current : Option Survey) (value : SurveyStatus) :
    Follows worldPart (Audit.validateStatus current value) (validateStatus current value) := by
  cases current with
  | none => exact quietly_follows _
  | some survey =>
    exact follows_ite (follows_bind (transitionTo_follows survey value) fun _ => follows_pure _) (follows_pure _)

theorem runStatusField_follows (current : Option Survey) (status : Submitted SurveyStatus) :
    Follows worldPart (Audit.runStatusField current status) (runStatusField current status) := by
  cases status with
  | missing => exact follows_pure _
  | refused message => exact follows_pure _
  | given value => exact collecting_follows (validateStatus_follows current value)

theorem validateSurvey_follows (isPartial : Bool) (current : Option Survey) (body : SurveyBody) :
    Follows worldPart (Audit.validateSurvey isPartial current body) (validateSurvey isPartial current body) := by
  apply follows_bind (runStatusField_follows current body.status)
  intro status
  cases status with
  | ok current => exact quietly_bind_follows _ fun _ => follows_pure _
  | error message => exact quietly_bind_follows _ fun _ => follows_pure _

theorem surveyCreate_follows (body : SurveyBody) :
    Follows worldPart (Audit.surveyCreate user body) (surveyCreate user body) :=
  quietly_bind_follows _ fun _ => follows_bind (validateSurvey_follows _ _ _) fun _ => insertRow_follows _ _ _ _

theorem surveyUpdate_follows (pk : Nat) (isPartial : Bool) (body : SurveyBody) :
    Follows worldPart (Audit.surveyUpdate user pk isPartial body) (surveyUpdate user pk isPartial body) := by
  apply quietly_bind_follows
  intro _
  apply quietly_bind_follows
  intro current
  apply follows_bind (validateSurvey_follows _ _ _)
  intro validated
  obtain ⟨data, left⟩ := validated
  cases left with
  | none => exact follows_throw _
  | some left =>
    exact cleared_follows (saveSurvey_follows _)

theorem surveyDestroy_follows (pk : Nat) : Follows worldPart (Audit.surveyDestroy user pk) (surveyDestroy user pk) :=
  quietly_bind_follows _ fun _ => quietly_bind_follows _ fun _ =>
    follows_bind (deleteRows_follows _ _) fun _ => quietly_follows _

/-! ## Sections -/

theorem updateSection_follows (current : Section) (data : SectionData) :
    Follows worldPart (Audit.updateSection current data) (updateSection current data) := by
  apply cleared_follows
  apply follows_translating
  apply auditedAtomic_follows
  exact follows_bind (saveFields_follows _ (updateRow_follows _ _ _ _ _)) fun _ => quietly_follows _

theorem sectionInsert_follows (survey : Survey) (data : SectionData) :
    Follows worldPart (Audit.sectionInsert survey data) (sectionInsert survey data) :=
  quietly_bind_follows _ fun _ => cleared_follows (follows_translating (insertRow_follows _ _ _ _))

theorem sectionCreate_follows (surveyPk : Nat) (body : SectionBody) :
    Follows worldPart (Audit.sectionCreate user surveyPk body) (sectionCreate user surveyPk body) :=
  guarded_follows fun _ _ _ _ => sectionInsert_follows _ _

theorem sectionUpdate_follows (surveyPk pk : Nat) (isPartial : Bool) (body : SectionBody) :
    Follows worldPart (Audit.sectionUpdate user surveyPk pk isPartial body)
      (sectionUpdate user surveyPk pk isPartial body) :=
  guarded_follows fun _ _ _ _ => quietly_bind_follows _ fun _ => follows_translating (updateSection_follows _ _)

theorem sectionDestroy_follows (surveyPk pk : Nat) :
    Follows worldPart (Audit.sectionDestroy user surveyPk pk) (sectionDestroy user surveyPk pk) :=
  guarded_follows fun _ _ _ _ => quietly_bind_follows _ fun _ => deleteRows_follows _ _

/-! ## Fields -/

theorem updateField_follows (current : PlacedField) (data : FieldData) :
    Follows worldPart (Audit.updateField py current data) (updateField py current data) := by
  apply quietly_bind_follows
  intro oldOptions
  apply cleared_follows
  apply follows_translating
  apply auditedAtomic_follows
  exact follows_bind (saveFields_follows _ (updateRow_follows _ _ _ _ _)) fun _ => quietly_follows _

theorem fieldInsert_follows (parent : Section) (data : FieldData) :
    Follows worldPart (Audit.fieldInsert parent data) (fieldInsert parent data) :=
  quietly_bind_follows _ fun _ =>
    follows_translating (cleared_follows (follows_translating (insertRow_follows _ _ _ _)))

theorem fieldCreate_follows (surveyPk sectionPk : Nat) (body : FieldBody) :
    Follows worldPart (Audit.fieldCreate py user surveyPk sectionPk body) (fieldCreate py user surveyPk sectionPk body) :=
  guarded_follows fun _ _ _ _ => quietly_bind_follows _ fun _ => fieldInsert_follows _ _

theorem fieldUpdate_follows (surveyPk sectionPk pk : Nat) (isPartial : Bool) (body : FieldBody) :
    Follows worldPart (Audit.fieldUpdate py user surveyPk sectionPk pk isPartial body)
      (fieldUpdate py user surveyPk sectionPk pk isPartial body) :=
  guarded_follows fun _ _ _ _ => quietly_bind_follows _ fun _ => quietly_bind_follows _ fun _ =>
    follows_translating (updateField_follows _ _)

theorem fieldDestroy_follows (surveyPk sectionPk pk : Nat) :
    Follows worldPart (Audit.fieldDestroy user surveyPk sectionPk pk) (fieldDestroy user surveyPk sectionPk pk) :=
  guarded_follows fun _ _ _ _ => quietly_bind_follows _ fun _ => quietly_bind_follows _ fun _ =>
    deleteRows_follows _ _

/-! ## Rules and dependencies -/

/-- No rule is ever created, so neither is a signal sent. -/
theorem conditionalRuleCreate_follows (surveyPk : Nat) (body : ConditionalRuleBody) :
    Follows worldPart (Audit.conditionalRuleCreate py order user surveyPk body)
      (conditionalRuleCreate py order user surveyPk body) :=
  quietly_bind_follows _ fun _ => quietly_bind_follows _ fun _ => follows_throw _

theorem conditionalRuleUpdate_follows (surveyPk pk : Nat) (isPartial : Bool) (body : ConditionalRuleBody) :
    Follows worldPart (Audit.conditionalRuleUpdate py order user surveyPk pk isPartial body)
      (conditionalRuleUpdate py order user surveyPk pk isPartial body) :=
  guarded_follows fun _ _ _ _ => quietly_bind_follows _ fun _ => quietly_bind_follows _ fun _ =>
    cleared_follows (saveFields_follows _ (updateRow_follows _ _ _ _ _))

theorem conditionalRuleDestroy_follows (surveyPk pk : Nat) :
    Follows worldPart (Audit.conditionalRuleDestroy user surveyPk pk) (conditionalRuleDestroy user surveyPk pk) :=
  guarded_follows fun _ _ _ _ => quietly_bind_follows _ fun _ => deleteRows_follows _ _

theorem fieldDependencyCreate_follows (surveyPk : Nat) (body : FieldDependencyBody) :
    Follows worldPart (Audit.fieldDependencyCreate py order user surveyPk body)
      (fieldDependencyCreate py order user surveyPk body) :=
  guarded_follows fun _ _ _ _ => quietly_bind_follows _ fun _ => cleared_follows (insertRow_follows _ _ _ _)

theorem fieldDependencyUpdate_follows (surveyPk pk : Nat) (isPartial : Bool) (body : FieldDependencyBody) :
    Follows worldPart (Audit.fieldDependencyUpdate py order user surveyPk pk isPartial body)
      (fieldDependencyUpdate py order user surveyPk pk isPartial body) :=
  guarded_follows fun _ _ _ _ => quietly_bind_follows _ fun _ => quietly_bind_follows _ fun _ =>
    cleared_follows (saveFields_follows _ (updateRow_follows _ _ _ _ _))

theorem fieldDependencyDestroy_follows (surveyPk pk : Nat) :
    Follows worldPart (Audit.fieldDependencyDestroy user surveyPk pk) (fieldDependencyDestroy user surveyPk pk) :=
  guarded_follows fun _ _ _ _ => quietly_bind_follows _ fun _ => deleteRows_follows _ _

/-! ## Submissions -/

theorem createSubmission_follows (encryptValue : Encryption) (survey : Survey) (cleanedAnswers : Dict String Json)
    (surveyFields : Nat → Option Field) :
    Follows worldPart (Audit.createSubmission py encryptValue survey user cleanedAnswers surveyFields)
      (createSubmission py encryptValue survey user cleanedAnswers surveyFields) := by
  apply follows_translating
  apply auditedAtomic_follows
  apply follows_bind (follows_adaptExcept (insertRow_follows _ _ _ _))
  intro surveyResponse
  exact quietly_bind_follows _ fun _ => quietly_bind_follows _ fun _ => follows_pure _

theorem respondErrors_follows {body : EStateM SubmissionExn Worker SubmitResponse}
    {model : EStateM SubmissionExn World SubmitResponse} (follows : Follows worldPart body model) :
    Follows worldPart (Audit.respondErrors body) (respondErrors model) := by
  intro worker
  have same := follows worker
  unfold Audit.respondErrors respondErrors
  rw [← same]
  cases body worker with
  | ok response worker' => rfl
  | error exn worker' => cases exn <;> rfl

theorem submit_follows (encryptValue : Encryption) (surveyPk : Nat) (answers : Submitted (List Answer)) :
    Follows worldPart (Audit.submit py order encryptValue user surveyPk answers)
      (submit py order encryptValue user surveyPk answers) := by
  apply quietly_bind_follows
  intro _
  apply quietly_bind_follows
  intro survey
  apply quietly_bind_follows
  intro given
  apply quietly_bind_follows
  intro db
  cases answersDict db survey.id given Dict.empty with
  | error errors => exact follows_pure _
  | ok answers =>
    apply respondErrors_follows
    apply quietly_bind_follows
    intro cleaned
    exact follows_bind (createSubmission_follows _ _ _ _) fun _ => follows_pure _

theorem discard_follows {α : Type} {program : Audited α} {model : Procedure α} (follows : Follows worldPart program model) :
    Follows worldPart (do let _ ← program) (do let _ ← model) :=
  follows_bind follows fun _ => follows_pure ()

end Views

/-! ## Requests -/

/-- Every view with its signals follows the view. -/
theorem audited_follows (py : Interpreter) (call : Call) :
    Follows worldPart (Audit.audited py call) (call.procedure py) := by
  obtain ⟨user, order, encryptValue, request⟩ := call
  cases request with
  | createSurvey body => exact discard_follows (surveyCreate_follows body)
  | updateSurvey pk isPartial body => exact discard_follows (surveyUpdate_follows pk isPartial body)
  | destroySurvey pk => exact surveyDestroy_follows pk
  | createSection surveyPk body => exact discard_follows (sectionCreate_follows surveyPk body)
  | updateSection surveyPk pk isPartial body => exact discard_follows (sectionUpdate_follows surveyPk pk isPartial body)
  | destroySection surveyPk pk => exact sectionDestroy_follows surveyPk pk
  | createField surveyPk sectionPk body => exact discard_follows (fieldCreate_follows surveyPk sectionPk body)
  | updateField surveyPk sectionPk pk isPartial body =>
    exact discard_follows (fieldUpdate_follows surveyPk sectionPk pk isPartial body)
  | destroyField surveyPk sectionPk pk => exact fieldDestroy_follows surveyPk sectionPk pk
  | createConditionalRule surveyPk body => exact discard_follows (conditionalRuleCreate_follows surveyPk body)
  | updateConditionalRule surveyPk pk isPartial body =>
    exact discard_follows (conditionalRuleUpdate_follows surveyPk pk isPartial body)
  | destroyConditionalRule surveyPk pk => exact conditionalRuleDestroy_follows surveyPk pk
  | createFieldDependency surveyPk body => exact discard_follows (fieldDependencyCreate_follows surveyPk body)
  | updateFieldDependency surveyPk pk isPartial body =>
    exact discard_follows (fieldDependencyUpdate_follows surveyPk pk isPartial body)
  | destroyFieldDependency surveyPk pk => exact fieldDependencyDestroy_follows surveyPk pk
  | submit surveyPk answers => exact discard_follows (submit_follows encryptValue surveyPk answers)

/-- A served request leaves the world as its call does. -/
theorem serve_world (py : Interpreter) (worker : Worker) (request : Audit.ApiRequest) :
    (request.serve py worker).world =
      (request.bearer.elim worker.world fun user => handle py worker.world (request.call user)) := by
  unfold Audit.ApiRequest.serve
  cases request.bearer with
  | none => rfl
  | some user => exact (audited_follows py (request.call user)).final _

end SurveyPlatform.Verified

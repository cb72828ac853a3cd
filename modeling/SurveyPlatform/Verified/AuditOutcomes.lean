import SurveyPlatform.Verified.AuditSteps

/-! # What each view publishes

Every view is accounted, or rolls back: a section or a field is saved and then
refused by the check of its rules, or a response is saved and then one of its
answers cannot be prepared.  `RollsBack` names these requests by the rows and the
body alone (`accounted_audited`, `rolledBack_audited`).
-/

namespace SurveyPlatform.Verified

open SurveyPlatform.Library SurveyPlatform.Library.Program SurveyPlatform.Python
open SurveyPlatform.Surveys SurveyPlatform.Responses
open SurveyPlatform.Audit (Audited Worker quietly ModelClass trackedModels)

section Views

variable {py : Interpreter} {order : SetOrder} {encryptValue : Encryption} {user : User} {worker : Worker}
  {surveyPk sectionPk pk : Nat} {isPartial : Bool}

/-! ## Surveys -/

theorem accounted_transitionTo (current : Survey) (newStatus : SurveyStatus) :
    Accounted worker (final (Audit.transitionTo current newStatus) worker) := by
  apply accounted_quietly_bind
  intro _ t
  exact accounted_bind (accounted_updateRow (by decide) _ _ _) fun _ t _ => Accounted.refl t

theorem accounted_validateStatus (current : Option Survey) (value : SurveyStatus) :
    Accounted worker (final (Audit.validateStatus current value) worker) := by
  cases current with
  | none => exact accounted_quietly _
  | some survey =>
    by_cases different : value ≠ survey.status
    · simp only [Audit.validateStatus, if_pos different]
      exact accounted_bind (accounted_transitionTo survey value) fun _ t _ => Accounted.refl t
    · simp only [Audit.validateStatus, if_neg different]
      exact Accounted.refl worker

theorem accounted_runStatusField (current : Option Survey) (status : Submitted SurveyStatus) :
    Accounted worker (final (Audit.runStatusField current status) worker) := by
  cases status with
  | missing => exact Accounted.refl worker
  | refused message => exact Accounted.refl worker
  | given value =>
    rw [Audit.runStatusField, final_collecting]
    exact accounted_validateStatus current value

theorem accounted_validateSurvey (current : Option Survey) (body : SurveyBody) :
    Accounted worker (final (Audit.validateSurvey isPartial current body) worker) := by
  apply accounted_bind (accounted_runStatusField current body.status)
  intro status t _
  cases status with
  | ok current => exact accounted_quietly_bind _ fun _ t => Accounted.refl t
  | error message => exact accounted_quietly_bind _ fun _ t => Accounted.refl t

theorem accounted_surveyCreate (body : SurveyBody) : Accounted worker (final (Audit.surveyCreate user body) worker) := by
  apply accounted_quietly_bind
  intro _ t
  apply accounted_bind (accounted_validateSurvey none body)
  intro _ t _
  exact accounted_insertRow (by decide) _ _

/-- Both saves of a body with a new status stand, and so does the first alone. -/
theorem accounted_surveyUpdate (body : SurveyBody) :
    Accounted worker (final (Audit.surveyUpdate user pk isPartial body) worker) := by
  apply accounted_quietly_bind
  intro _ t
  apply accounted_quietly_bind
  intro current t
  apply accounted_bind (accounted_validateSurvey (some current) body)
  intro validated t _
  obtain ⟨data, left⟩ := validated
  cases left with
  | none => exact Accounted.refl t
  | some left =>
    exact accounted_cleared (accounted_saveSurvey _)

theorem accounted_surveyDestroy : Accounted worker (final (Audit.surveyDestroy user pk) worker) := by
  apply accounted_quietly_bind
  intro _ t
  apply accounted_quietly_bind
  intro current t
  apply accounted_bind (accounted_deleteRows (collectSurvey_collects t.world.db current.id))
  exact fun _ t _ => accounted_quietly _

/-! ## Sections -/

theorem accounted_sectionInsert (survey : Survey) (data : SectionData) :
    Accounted worker (final (Audit.sectionInsert survey data) worker) := by
  apply accounted_quietly_bind
  intro newOrder t
  exact accounted_cleared (accounted_translating (accounted_insertRow (by decide) _ _))

theorem accounted_sectionCreate (body : SectionBody) :
    Accounted worker (final (Audit.sectionCreate user surveyPk body) worker) :=
  accounted_guarded fun _ _ _ _ _ => accounted_sectionInsert _ _

theorem accounted_sectionDestroy : Accounted worker (final (Audit.sectionDestroy user surveyPk pk) worker) :=
  accounted_guarded fun _ _ _ _ _ => accounted_quietly_bind _ fun _ t =>
    accounted_deleteRows (collectSections_collects t.world.db _)

/-! ## Fields -/

theorem accounted_fieldInsert (parent : Section) (data : FieldData) :
    Accounted worker (final (Audit.fieldInsert parent data) worker) := by
  apply accounted_quietly_bind
  intro newOrder t
  exact accounted_translating (accounted_cleared (accounted_translating (accounted_insertRow (by decide) _ _)))

theorem accounted_fieldCreate (body : FieldBody) :
    Accounted worker (final (Audit.fieldCreate py user surveyPk sectionPk body) worker) :=
  accounted_guarded fun _ _ _ _ _ => accounted_quietly_bind _ fun _ _ => accounted_fieldInsert _ _

theorem accounted_fieldDestroy : Accounted worker (final (Audit.fieldDestroy user surveyPk sectionPk pk) worker) :=
  accounted_guarded fun _ _ _ _ _ => accounted_quietly_bind _ fun _ _ => accounted_quietly_bind _ fun _ t =>
    accounted_deleteRows (collectFields_collects t.world.db _)

/-! ## Rules and dependencies -/

theorem accounted_conditionalRuleCreate (body : ConditionalRuleBody) :
    Accounted worker (final (Audit.conditionalRuleCreate py order user surveyPk body) worker) :=
  accounted_quietly_bind _ fun _ _ => accounted_quietly_bind _ fun _ t => Accounted.refl t

theorem accounted_conditionalRuleUpdate (body : ConditionalRuleBody) :
    Accounted worker (final (Audit.conditionalRuleUpdate py order user surveyPk pk isPartial body) worker) :=
  accounted_guarded fun _ _ _ _ _ => accounted_quietly_bind _ fun _ _ => accounted_quietly_bind _ fun _ _ =>
    accounted_cleared (accounted_saveFields (accounted_updateRow (by decide) _ _ _))

theorem accounted_conditionalRuleDestroy :
    Accounted worker (final (Audit.conditionalRuleDestroy user surveyPk pk) worker) := by
  apply accounted_requireAdmin_bind
  intro _
  apply accounted_getOr404_bind
  intro current found
  apply accounted_getOr404_bind
  intro survey _
  apply accounted_query_bind
  intro _ _
  apply accounted_bind (accounted_quietly _)
  intro _ t cleared
  -- the rows are those in which the rule was found
  cases cleared
  exact accounted_deleteRows (conditionalRule_collects (getConditionalRule_stored found).1)

theorem accounted_fieldDependencyCreate (body : FieldDependencyBody) :
    Accounted worker (final (Audit.fieldDependencyCreate py order user surveyPk body) worker) :=
  accounted_guarded fun _ _ _ _ _ => accounted_quietly_bind _ fun _ _ =>
    accounted_cleared (accounted_insertRow (by decide) _ _)

theorem accounted_fieldDependencyUpdate (body : FieldDependencyBody) :
    Accounted worker (final (Audit.fieldDependencyUpdate py order user surveyPk pk isPartial body) worker) :=
  accounted_guarded fun _ _ _ _ _ => accounted_quietly_bind _ fun _ _ => accounted_quietly_bind _ fun _ _ =>
    accounted_cleared (accounted_saveFields (accounted_updateRow (by decide) _ _ _))

theorem accounted_fieldDependencyDestroy :
    Accounted worker (final (Audit.fieldDependencyDestroy user surveyPk pk) worker) := by
  apply accounted_requireAdmin_bind
  intro _
  apply accounted_getOr404_bind
  intro current found
  apply accounted_getOr404_bind
  intro survey _
  apply accounted_query_bind
  intro _ _
  apply accounted_bind (accounted_quietly _)
  intro _ t cleared
  cases cleared
  exact accounted_deleteRows (fieldDependency_collects (getFieldDependency_stored found).1)

end Views

/-! ## Saves that are refused -/

/-- The section can be saved with its new order, and then the rules refuse that order. -/
structure SectionRefused (db : Database) (current : Section) (data : SectionData) : Prop where
  submitted : data.isEmpty = false
  allowed : db.sectionConstraints (data.assign current) = .ok ()
  reordered : data.order.any (· != current.order) = true
  refused : ∃ exn, revalidateOrderingForSurvey (sectionEdited db current data) current.surveyId = .error exn

/-- The field can be saved, and then the rules refuse its new type or options. -/
structure FieldRefused (py : Interpreter) (db : Database) (current : PlacedField) (data : FieldData) : Prop where
  submitted : data.isEmpty = false
  allowed : db.fieldConstraints (data.assign current.toField) = .ok ()
  changed : ∃ old, listedOptions current = .ok old ∧ ChangesTypeOrOptions current old data
  refused : ∃ exn, revalidateRulesForField py (fieldEdited db current data) (data.assign current.toField) = .error exn

/-- The response can be saved, and then one of its answers cannot be prepared for storing. -/
structure SubmissionRefused (py : Interpreter) (encryptValue : Encryption) (db : Database) (survey : Survey) (user : User)
    (cleaned : Dict String Json) : Prop where
  allowed : surveyResponseConstraints db ⟨db.responses.next, survey.id, user.id⟩ = .ok ()
  refused : ∃ exn, prepareFieldResponses py encryptValue (fun id => fieldOfSurvey db survey.id id) cleaned.entries =
    .error exn

section Refused

variable {py : Interpreter} {encryptValue : Encryption} {user : User} {worker : Worker}

theorem checkIf_ok_or_error {changed : Bool} {check : Except PyExn Unit} :
    (if changed = true then check else .ok ()) = .ok () ∨ changed = true ∧ ∃ exn, check = .error exn := by
  cases changed with
  | false => exact Or.inl rfl
  | true =>
    cases check with
    | ok _ => exact Or.inl rfl
    | error exn => exact Or.inr ⟨rfl, exn, rfl⟩

theorem accounted_updateSection {current : Section} {data : SectionData}
    (stored : worker.world.db.sections.get current.id = some current)
    (accepted : ¬ SectionRefused worker.world.db current data) :
    Accounted worker (final (Audit.updateSection current data) worker) := by
  apply accounted_cleared
  apply @accounted_checkedUpdate _ _ sectionModel .sections worker current _ _ _ _ _ (by decide) stored
  intro submitted allowed
  cases checkIf_ok_or_error with
  | inl passed => exact passed
  | inr refused => exact absurd ⟨submitted, allowed, refused.1, refused.2⟩ accepted

theorem rolledBack_updateSection {current : Section} {data : SectionData}
    (stored : worker.world.db.sections.get current.id = some current)
    (refused : SectionRefused worker.world.db current data) :
    ∃ exn t, Audit.updateSection current data worker = .error exn t ∧ RolledBack worker t := by
  obtain ⟨submitted, allowed, reordered, exn, raised⟩ := refused
  obtain ⟨t, ends, rolledBack⟩ := @rolledBack_checkedUpdate _ _ sectionModel .sections worker current _ data.key_assign
    (fun db => if data.order.any (· != current.order) then revalidateOrderingForSurvey db current.surveyId else .ok ())
    (onIntegrityError (.validationError "A section with this order already exists in this survey."))
    (by decide) stored allowed exn ((if_pos reordered).trans raised)
  rw [Audit.updateSection, submitted]
  exact ⟨_, t, bind_of_error ends, rolledBack⟩

theorem accounted_updateField {current : PlacedField} {data : FieldData}
    (stored : worker.world.db.fields.get current.id = some current.toField)
    (accepted : ¬ FieldRefused py worker.world.db current data) :
    Accounted worker (final (Audit.updateField py current data) worker) := by
  apply accounted_query_bind
  intro old listed
  apply accounted_cleared
  apply @accounted_checkedUpdate _ _ fieldModel .fields worker current.toField _ _ _ _ _ (by decide) stored
  intro submitted allowed
  cases checkIf_ok_or_error with
  | inl passed => exact passed
  | inr refused =>
    have changed := changesTypeOrOptions_iff.mp refused.1
    exact absurd ⟨submitted, allowed, ⟨old, listed, changed⟩, refused.2⟩ accepted

theorem rolledBack_updateField {current : PlacedField} {data : FieldData}
    (stored : worker.world.db.fields.get current.id = some current.toField)
    (refused : FieldRefused py worker.world.db current data) :
    ∃ exn t, Audit.updateField py current data worker = .error exn t ∧ RolledBack worker t := by
  obtain ⟨submitted, allowed, ⟨old, listed, changed⟩, exn, raised⟩ := refused
  obtain ⟨t, ends, rolledBack⟩ := @rolledBack_checkedUpdate _ _ fieldModel .fields worker current.toField _
    data.key_assign
    (fun db => if data.fieldType.any (· != current.fieldType) ||
        data.options.any (fun options => !options.pyEq (.list old)) then
      revalidateRulesForField py db (data.assign current.toField) else .ok ())
    (onIntegrityError (.validationError "A field with this order already exists in this section."))
    (by decide) stored allowed exn ((if_pos (changesTypeOrOptions_iff.mpr changed)).trans raised)
  rw [Audit.updateField, quietly_query_bind_of_ok (show _ = Except.ok old from listed), submitted]
  exact ⟨_, t, bind_of_error ends, rolledBack⟩

/-! ### Submissions -/

section Submissions

variable {survey : Survey} {cleaned : Dict String Json}

theorem adaptExcept_of_ok {ε ε' σ α : Type} {adapt : ε → ε'} {program : EStateM ε σ α} {s t : σ} {a : α}
    (returned : program s = .ok a t) : EStateM.adaptExcept adapt program s = .ok a t := by
  rw [EStateM.adaptExcept, returned]

theorem adaptExcept_of_error {ε ε' σ α : Type} {adapt : ε → ε'} {program : EStateM ε σ α} {s t : σ} {e : ε}
    (raised : program s = .error e t) : EStateM.adaptExcept adapt program s = .error (adapt e) t := by
  rw [EStateM.adaptExcept, raised]

theorem final_adaptExcept {ε ε' σ α : Type} (adapt : ε → ε') (program : EStateM ε σ α) (s : σ) :
    final (EStateM.adaptExcept adapt program) s = final program s := by
  unfold final EStateM.adaptExcept
  cases program s <;> rfl

/-- The transaction once its parent row is saved. -/
def storeAnswers (row : SurveyResponse) (prepare : Except SubmissionExn (List (Nat × String))) :
    EStateM SubmissionExn Worker SurveyResponse := do
  let fieldResponses ← quietly (reading fun _ => prepare)
  quietly (raising (createFieldResponses row.id fieldResponses))
  return row

theorem storeAnswers_of_stored {after t : Worker} {row : SurveyResponse} {prepared : List (Nat × String)}
    {exn : SubmissionExn} (stored : fieldsStored after.world.db prepared = true) :
    storeAnswers row (.ok prepared) after ≠ .error exn t := by
  have created := (createFieldResponses_eq row.id prepared after.world).trans (if_pos stored)
  have begun : quietly (reading fun _ : World => (.ok prepared : Except SubmissionExn _)) after = .ok prepared after := rfl
  have ended : quietly (raising (createFieldResponses row.id prepared)) after = _ :=
    focusing_of_ok (raising_of_ok created)
  intro raised
  rw [storeAnswers, bind_of_ok begun, bind_of_ok ended] at raised
  cases raised

theorem createSubmission_of_inserted {surveyFields : Nat → Option Field} {row : SurveyResponse} {saved : Worker}
    (inserted : Audit.insertRow .responses surveyResponseModel (SurveyResponse.withId ⟨0, survey.id, user.id⟩)
      (SurveyResponse.key_withId _) worker = .ok row saved) {exn : SubmissionExn}
    (failed : prepareFieldResponses py encryptValue surveyFields cleaned.entries = .error exn) :
    Audit.createSubmission py encryptValue survey user cleaned surveyFields worker = .error (onDuplicate exn)
      { saved with world := { saved.world with db := worker.world.db }, journal := worker.journal } := by
  apply translating_of_error
  apply atomic_of_error
  apply (bind_of_ok (adaptExcept_of_ok inserted)).trans
  change storeAnswers row (prepareFieldResponses _ _ _ _) saved = _
  rw [failed]
  rfl

theorem accounted_createSubmission
    (accepted : ¬ SubmissionRefused py encryptValue worker.world.db survey user cleaned) :
    Accounted worker (final (Audit.createSubmission py encryptValue survey user cleaned
      fun id => fieldOfSurvey worker.world.db survey.id id) worker) := by
  apply accounted_translating
  apply relates_atomic
  · intro row t returned
    rw [← final_of_ok returned]
    apply accounted_bind
    · rw [final_adaptExcept]
      exact accounted_insertRow (by decide) _ _
    · exact fun _ t _ => accounted_quietly_bind _ fun _ t => accounted_quietly_bind _ fun _ t => Accounted.refl t
  · intro exn t raised
    let row : SurveyResponse := ⟨worker.world.db.responses.next, survey.id, user.id⟩
    cases allowed : surveyResponseConstraints worker.world.db row with
    | error refused =>
      have failed := @insertRow_of_error _ worker _ surveyResponseModel .responses _
        (SurveyResponse.key_withId ⟨0, survey.id, user.id⟩) _ _ (Model.insert_of_error _ allowed)
      rw [bind_of_error (adaptExcept_of_error failed)] at raised
      cases raised
      exact Accounted.of_same rfl rfl rfl
    | ok _ =>
      have inserted := @insertRow_of_ok _ worker _ surveyResponseModel .responses _
        (SurveyResponse.key_withId ⟨0, survey.id, user.id⟩) _ _ (Model.insert_of_constraints _ allowed)
      rw [bind_of_ok (adaptExcept_of_ok inserted)] at raised
      change storeAnswers row (prepareFieldResponses _ _ _ _) _ = _ at raised
      cases ready : prepareFieldResponses py encryptValue (fun id => fieldOfSurvey worker.world.db survey.id id)
          cleaned.entries with
      | error refused => exact absurd ⟨allowed, refused, ready⟩ accepted
      | ok prepared =>
        rw [ready] at raised
        -- every field is still stored, so nothing is raised
        have stored : fieldsStored worker.world.db prepared = true := by
          apply fieldsStored_of_prepareFieldResponses _ ready
          intro id field found
          obtain ⟨isStored, rfl, _⟩ := fieldOfSurvey_eq_some found
          exact Option.isSome_of_eq_some isStored
        exact absurd raised (storeAnswers_of_stored stored)

theorem rolledBack_createSubmission (refused : SubmissionRefused py encryptValue worker.world.db survey user cleaned) :
    ∃ exn t, Audit.createSubmission py encryptValue survey user cleaned
      (fun id => fieldOfSurvey worker.world.db survey.id id) worker = .error exn t ∧ RolledBack worker t := by
  obtain ⟨allowed, exn, failed⟩ := refused
  have inserted := @insertRow_of_ok _ worker _ surveyResponseModel .responses _
    (SurveyResponse.key_withId ⟨0, survey.id, user.id⟩) _ _ (Model.insert_of_constraints _ allowed)
  obtain ⟨task, sent, _, origin⟩ := auditPostSave_of_tracked (show ModelClass.responses ∈ trackedModels by decide)
    worker.threadLocal worker.world.db.responses.next true
  refine ⟨_, _, createSubmission_of_inserted inserted failed, rfl, rfl, task, ?_, origin⟩
  rw [← Option.toList_some, ← sent]
  rfl

end Submissions

end Refused

/-! ## Requests that roll back -/

/-- An update of a section that passes every check before its save. -/
structure SectionReached (db : Database) (user : User) (surveyPk pk : Nat) (isPartial : Bool) (body : SectionBody)
    (current : Section) (data : SectionData) : Prop where
  admin : user.role = .admin
  survey : ∃ survey, db.surveys.get surveyPk = some survey
  found : getSection surveyPk pk db = some current
  valid : validateSection isPartial body = .ok data
  draft : IsDraft db current.surveyId

/-- The same for a field. -/
structure FieldReached (py : Interpreter) (db : Database) (user : User) (surveyPk sectionPk pk : Nat) (isPartial : Bool)
    (body : FieldBody) (current : PlacedField) (data : FieldData) : Prop where
  admin : user.role = .admin
  survey : ∃ survey, db.surveys.get surveyPk = some survey
  parent : ∃ parent, getSection surveyPk sectionPk db = some parent
  found : getField sectionPk pk db = some current
  valid : validateField py isPartial current.toField body = .ok data
  draft : IsDraft db current.surveyId

/-- A submission whose answers are cleaned. -/
structure SubmissionReached (py : Interpreter) (order : SetOrder) (w : World) (user : User) (surveyPk : Nat)
    (answers : Submitted (List Answer)) (survey : Survey) (cleaned : Dict String Json) : Prop where
  customer : user.role = .customer
  found : (w.db.surveys.get surveyPk).filter (·.status = .published) = some survey
  accepted : CleanedAnswers py order w surveyPk answers cleaned

/-- The request saves a row inside a transaction that is then rolled back. -/
inductive RollsBack (py : Interpreter) (w : World) (call : Call) : Prop where
  | sectionUpdate {surveyPk pk : Nat} {isPartial : Bool} {body : SectionBody} {current : Section} {data : SectionData}
      (request : call.request = .updateSection surveyPk pk isPartial body)
      (reached : SectionReached w.db call.user surveyPk pk isPartial body current data)
      (refused : SectionRefused w.db current data)
  | fieldUpdate {surveyPk sectionPk pk : Nat} {isPartial : Bool} {body : FieldBody} {current : PlacedField}
      {data : FieldData} (request : call.request = .updateField surveyPk sectionPk pk isPartial body)
      (reached : FieldReached py w.db call.user surveyPk sectionPk pk isPartial body current data)
      (refused : FieldRefused py w.db current data)
  | submission {surveyPk : Nat} {answers : Submitted (List Answer)} {survey : Survey} {cleaned : Dict String Json}
      (request : call.request = .submit surveyPk answers)
      (reached : SubmissionReached py call.order w call.user surveyPk answers survey cleaned)
      (refused : SubmissionRefused py call.encryptValue w.db survey call.user cleaned)

section Requests

variable {py : Interpreter} {order : SetOrder} {encryptValue : Encryption} {user : User} {worker : Worker}
  {surveyPk sectionPk pk : Nat} {isPartial : Bool}

theorem quietly_getOr404_bind {α β : Type} {find : Database → Option α} {next : α → Audited β} {row : α}
    (found : find worker.world.db = some row) : (quietly (getOr404 find) >>= next) worker = next row worker :=
  quietly_query_bind_of_ok (by rw [found])

theorem quietly_ensureDraftSurveyOf_bind {β : Type} {surveyId : Nat} {next : Unit → Audited β}
    (draft : IsDraft worker.world.db surveyId) :
    (quietly (ensureDraftSurveyOf surveyId) >>= next) worker = next () worker := by
  obtain ⟨survey, stored, isDraft⟩ := draft
  apply quietly_query_bind_of_ok
  simp only [stored]
  exact ensureDraftSurvey_eq_ok.mpr isDraft

theorem accounted_sectionUpdate {body : SectionBody}
    (accepted : ∀ current data, SectionReached worker.world.db user surveyPk pk isPartial body current data →
      ¬ SectionRefused worker.world.db current data) :
    Accounted worker (final (Audit.sectionUpdate user surveyPk pk isPartial body) worker) := by
  apply accounted_requireAdmin_bind
  intro admin
  apply accounted_getOr404_bind
  intro survey foundSurvey
  apply accounted_getOr404_bind
  intro current found
  apply accounted_query_bind
  intro data valid
  apply accounted_ensureDraftSurveyOf_bind
  intro draft
  apply accounted_translating
  apply accounted_updateSection (getSection_eq_some found).1
  exact accepted current data ⟨admin, ⟨survey, foundSurvey⟩, found, valid, draft⟩

theorem rolledBack_sectionUpdate {body : SectionBody} {current : Section} {data : SectionData}
    (reached : SectionReached worker.world.db user surveyPk pk isPartial body current data)
    (refused : SectionRefused worker.world.db current data) :
    RolledBack worker (final (Audit.sectionUpdate user surveyPk pk isPartial body) worker) := by
  obtain ⟨admin, ⟨survey, foundSurvey⟩, found, valid, draft⟩ := reached
  obtain ⟨exn, t, raised, rolledBack⟩ := rolledBack_updateSection (getSection_eq_some found).1 refused
  have ends : Audit.sectionUpdate user surveyPk pk isPartial body worker = .error (underField "detail" exn) t := by
    rw [Audit.sectionUpdate, requireAdmin, quietly_query_bind_of_ok (if_pos admin), quietly_getOr404_bind foundSurvey,
      quietly_getOr404_bind found, quietly_query_bind_of_ok valid, quietly_ensureDraftSurveyOf_bind draft]
    exact translating_of_error raised
  rwa [final_of_error ends]

theorem accounted_fieldUpdate {body : FieldBody}
    (accepted : ∀ current data, FieldReached py worker.world.db user surveyPk sectionPk pk isPartial body current data →
      ¬ FieldRefused py worker.world.db current data) :
    Accounted worker (final (Audit.fieldUpdate py user surveyPk sectionPk pk isPartial body) worker) := by
  apply accounted_requireAdmin_bind
  intro admin
  apply accounted_getOr404_bind
  intro survey foundSurvey
  apply accounted_getOr404_bind
  intro parent foundParent
  apply accounted_getOr404_bind
  intro current found
  apply accounted_query_bind
  intro data valid
  apply accounted_ensureDraftSurveyOf_bind
  intro draft
  apply accounted_translating
  apply accounted_updateField (Database.placedField_eq_some.mp (getField_eq_some found).1).1
  exact accepted current data ⟨admin, ⟨survey, foundSurvey⟩, ⟨parent, foundParent⟩, found, valid, draft⟩

theorem rolledBack_fieldUpdate {body : FieldBody} {current : PlacedField} {data : FieldData}
    (reached : FieldReached py worker.world.db user surveyPk sectionPk pk isPartial body current data)
    (refused : FieldRefused py worker.world.db current data) :
    RolledBack worker (final (Audit.fieldUpdate py user surveyPk sectionPk pk isPartial body) worker) := by
  obtain ⟨admin, ⟨survey, foundSurvey⟩, ⟨parent, foundParent⟩, found, valid, draft⟩ := reached
  have stored := (Database.placedField_eq_some.mp (getField_eq_some found).1).1
  obtain ⟨exn, t, raised, rolledBack⟩ := rolledBack_updateField stored refused
  have ends : Audit.fieldUpdate py user surveyPk sectionPk pk isPartial body worker =
      .error (underField "detail" exn) t := by
    rw [Audit.fieldUpdate, requireAdmin, quietly_query_bind_of_ok (if_pos admin), quietly_getOr404_bind foundSurvey,
      quietly_getOr404_bind foundParent, quietly_getOr404_bind found, quietly_query_bind_of_ok valid,
      quietly_ensureDraftSurveyOf_bind draft]
    exact translating_of_error raised
  rwa [final_of_error ends]

theorem final_auditedRespondErrors (body : EStateM SubmissionExn Worker SubmitResponse) (worker : Worker) :
    final (Audit.respondErrors body) worker = final body worker := by
  unfold final Audit.respondErrors
  cases body worker with
  | ok response t => rfl
  | error exn t => cases exn <;> rfl

/-- The view once the answers are gathered. -/
def recordAnswers (py : Interpreter) (order : SetOrder) (encryptValue : Encryption) (user : User) (survey : Survey)
    (answers : Dict String Json) (surveyFields : Nat → Option Field) : EStateM SubmissionExn Worker SubmitResponse := do
  let cleaned ← quietly (reading fun w =>
    validateSubmission py order (prefetchSurveyStructure w.db survey.id) answers)
  let surveyResponse ← Audit.createSubmission py encryptValue survey user cleaned surveyFields
  return .created surveyResponse.id

theorem accounted_submit {answers : Submitted (List Answer)}
    (accepted : ∀ survey cleaned, SubmissionReached py order worker.world user surveyPk answers survey cleaned →
      ¬ SubmissionRefused py encryptValue worker.world.db survey user cleaned) :
    Accounted worker (final (Audit.submit py order encryptValue user surveyPk answers) worker) := by
  apply accounted_query_bind
  intro _ permitted
  apply accounted_getOr404_bind
  intro survey found
  apply accounted_query_bind
  intro given validated
  apply accounted_query_bind
  intro db same
  cases same
  have sameKey : survey.id = surveyPk :=
    worker.world.db.surveys.keyed surveyPk survey (Option.filter_eq_some_iff.mp found).1
  cases built : answersDict worker.world.db survey.id given Dict.empty with
  | error errors => exact Accounted.refl worker
  | ok dict =>
    show Accounted worker (final (Audit.respondErrors _) worker)
    rw [final_auditedRespondErrors]
    apply accounted_bind (accounted_quietly _)
    intro cleaned t returned
    obtain ⟨w, read, rfl⟩ := focusing_eq_ok returned
    obtain ⟨passed, rfl⟩ := reading_eq_ok_iff.mp read
    subst sameKey
    have reached : CleanedAnswers py order worker.world survey.id answers cleaned := ⟨given, dict, validated, built, passed⟩
    have customer : user.role = .customer := by
      by_contra other
      rw [if_neg other] at permitted
      cases permitted
    apply accounted_bind
    · exact accounted_createSubmission (accepted survey cleaned ⟨customer, found, reached⟩)
    · exact fun _ t _ => Accounted.refl t

theorem rolledBack_submit {answers : Submitted (List Answer)} {survey : Survey} {cleaned : Dict String Json}
    (reached : SubmissionReached py order worker.world user surveyPk answers survey cleaned)
    (refused : SubmissionRefused py encryptValue worker.world.db survey user cleaned) :
    RolledBack worker (final (Audit.submit py order encryptValue user surveyPk answers) worker) := by
  obtain ⟨customer, found, given, dict, validated, built, passed⟩ := reached
  have sameKey : survey.id = surveyPk :=
    worker.world.db.surveys.keyed surveyPk survey (Option.filter_eq_some_iff.mp found).1
  subst sameKey
  obtain ⟨exn, t, raised, rolledBack⟩ := rolledBack_createSubmission refused
  have view : Audit.submit py order encryptValue user survey.id answers worker = Audit.respondErrors
      (recordAnswers py order encryptValue user survey dict fun id => fieldOfSurvey worker.world.db survey.id id)
      worker := by
    rw [Audit.submit, quietly_query_bind_of_ok (if_pos customer), quietly_getOr404_bind found,
      quietly_query_bind_of_ok validated, quietly_query_bind_of_ok rfl]
    simp only [built]
    rfl
  have recorded : recordAnswers py order encryptValue user survey dict
      (fun id => fieldOfSurvey worker.world.db survey.id id) worker = .error exn t := by
    have cleans : quietly (reading fun w : World =>
        validateSubmission py order (prefetchSurveyStructure w.db survey.id) dict) worker = .ok cleaned worker :=
      focusing_of_ok (reading_eq_ok_iff.mpr ⟨passed, rfl⟩)
    exact (bind_of_ok cleans).trans (bind_of_error raised)
  have ends : final (Audit.submit py order encryptValue user survey.id answers) worker = t := by
    rw [final, view, ← final, final_auditedRespondErrors, final_of_error recorded]
  rwa [ends]

/-- The answer of the view is dropped. -/
theorem final_discard {α : Type} (program : Audited α) (worker : Worker) :
    final (do let _ ← program) worker = final program worker :=
  final_bind_same fun _ _ => rfl

/-- Every request is accounted, unless it saves a row and rolls back. -/
theorem accounted_audited (py : Interpreter) (worker : Worker) (call : Call)
    (keeps : ¬ RollsBack py worker.world call) : Accounted worker (final (Audit.audited py call) worker) := by
  obtain ⟨user, order, encryptValue, request⟩ := call
  cases request with
  | createSurvey body => exact (final_discard _ worker).symm ▸ accounted_surveyCreate body
  | updateSurvey pk isPartial body => exact (final_discard _ worker).symm ▸ accounted_surveyUpdate body
  | destroySurvey pk => exact accounted_surveyDestroy
  | createSection surveyPk body => exact (final_discard _ worker).symm ▸ accounted_sectionCreate body
  | updateSection surveyPk pk isPartial body =>
    refine (final_discard _ worker).symm ▸ accounted_sectionUpdate fun current data reached refused => ?_
    exact keeps (.sectionUpdate rfl reached refused)
  | destroySection surveyPk pk => exact accounted_sectionDestroy
  | createField surveyPk sectionPk body => exact (final_discard _ worker).symm ▸ accounted_fieldCreate body
  | updateField surveyPk sectionPk pk isPartial body =>
    refine (final_discard _ worker).symm ▸ accounted_fieldUpdate fun current data reached refused => ?_
    exact keeps (.fieldUpdate rfl reached refused)
  | destroyField surveyPk sectionPk pk => exact accounted_fieldDestroy
  | createConditionalRule surveyPk body => exact (final_discard _ worker).symm ▸ accounted_conditionalRuleCreate body
  | updateConditionalRule surveyPk pk isPartial body =>
    exact (final_discard _ worker).symm ▸ accounted_conditionalRuleUpdate body
  | destroyConditionalRule surveyPk pk => exact accounted_conditionalRuleDestroy
  | createFieldDependency surveyPk body => exact (final_discard _ worker).symm ▸ accounted_fieldDependencyCreate body
  | updateFieldDependency surveyPk pk isPartial body =>
    exact (final_discard _ worker).symm ▸ accounted_fieldDependencyUpdate body
  | destroyFieldDependency surveyPk pk => exact accounted_fieldDependencyDestroy
  | submit surveyPk answers =>
    refine (final_discard _ worker).symm ▸ accounted_submit fun survey cleaned reached refused => ?_
    exact keeps (.submission rfl reached refused)

theorem rolledBack_audited (py : Interpreter) (worker : Worker) (call : Call)
    (rollsBack : RollsBack py worker.world call) : RolledBack worker (final (Audit.audited py call) worker) := by
  obtain ⟨user, order, encryptValue, request⟩ := call
  cases rollsBack with
  | sectionUpdate same reached refused =>
    cases same
    exact (final_discard _ worker).symm ▸ rolledBack_sectionUpdate reached refused
  | fieldUpdate same reached refused =>
    cases same
    exact (final_discard _ worker).symm ▸ rolledBack_fieldUpdate reached refused
  | submission same reached refused =>
    cases same
    exact (final_discard _ worker).symm ▸ rolledBack_submit reached refused

end Requests

end SurveyPlatform.Verified

import SurveyPlatform.Api
import SurveyPlatform.Verified.SurveyUpdates

/-! # What one request does

`Change` lists everything a call of the API can do to the world, each with what
was checked before: the rows it writes and the cache entry it clears.  Every call
makes one change (`handle_change`), whatever it returns or raises; what holds of
all runs is proved from this list.
-/

namespace SurveyPlatform.Verified

open SurveyPlatform.Library SurveyPlatform.Library.Program SurveyPlatform.Python
open SurveyPlatform.Surveys SurveyPlatform.Responses

/-! ## Changes -/

def IsDraft (db : Database) (surveyId : Nat) : Prop :=
  ∃ survey, db.surveys.get surveyId = some survey ∧ survey.status = .draft

def Published (pk : Nat) (db : Database) : Prop :=
  ∃ survey, db.surveys.get pk = some survey ∧ survey.status = .published

/-- The world with other rows. -/
def withDb (w : World) (db : Database) : World := { w with db }

/-- The world after `invalidate_structure`. -/
def invalidated (objectId : String) (w : World) : World :=
  { w with cache := fun key => if key = structureKey objectId then none else w.cache key }

/-- `withDb` and then `invalidate_structure(survey_id)`. -/
def refreshed (surveyId : Nat) (w : World) (db : Database) : World := invalidated (toString surveyId) (withDb w db)

/-- A field other than the status is refused. -/
def BodyRefused (isPartial : Bool) (body : SurveyBody) : Prop :=
  (body.title.error? !isPartial).isSome = true ∨ (body.description.error? false).isSome = true

inductive Change (w : World) (call : Call) : World → Prop where
  | quiet : Change w call w
  | cleared (surveyId : Nat) : Change w call (invalidated (toString surveyId) w)
  | surveyCreated {row : Survey} (draft : row.status = .draft) :
      Change w call (withDb w { w.db with surveys := w.db.surveys.insert row.withId row.key_withId })
  -- an update that is refused after `validate_status`
  | surveyMoved {survey : Survey} {status : SurveyStatus} {isPartial : Bool} {body : SurveyBody}
      (admin : call.user.role = .admin) (request : call.request = .updateSurvey survey.id isPartial body)
      (refused : BodyRefused isPartial body) (stored : w.db.surveys.get survey.id = some survey)
      (writes : WritesStatus w.db survey body.status status) :
      Change w call (withDb w (w.db.setStatus survey.id status))
  | surveySaved {row old : Survey} (stored : w.db.surveys.get row.id = some old) (sameStatus : row.status = old.status) :
      Change w call (refreshed row.id w { w.db with surveys := w.db.surveys.save row })
  | surveyMovedSaved {survey row : Survey} {status : SurveyStatus} (stored : w.db.surveys.get survey.id = some survey)
      (accepted : checkTransition w.db survey status = .ok ()) (sameKey : row.id = survey.id)
      (sameStatus : row.status = status) :
      Change w call (refreshed row.id w { w.db with surveys := (w.db.setStatus survey.id status).surveys.save row })
  | surveyDeleted {survey : Survey} (admin : call.user.role = .admin)
      (request : call.request = .destroySurvey survey.id) (stored : w.db.surveys.get survey.id = some survey) :
      Change w call (invalidated "None" (withDb w (w.db.deleteSurvey survey.id)))
  | sectionCreated {row : Section} (draft : IsDraft w.db row.surveyId) :
      Change w call (refreshed row.surveyId w
        { w.db with sections := w.db.sections.insert row.withId row.key_withId })
  | sectionUpdated {row : Section} (data : SectionData) (stored : w.db.sections.get row.id = some row)
      (draft : IsDraft w.db row.surveyId) :
      Change w call (refreshed row.surveyId w
        { w.db with sections := w.db.sections.modify row.id data.assign data.key_assign })
  | sectionDeleted {row : Section} (admin : call.user.role = .admin)
      (request : call.request = .destroySection row.surveyId row.id) (stored : w.db.sections.get row.id = some row)
      (draft : IsDraft w.db row.surveyId) :
      Change w call (refreshed row.surveyId w (w.db.deleteSections (· == row.id)))
  | fieldCreated {row : Field} {parent : Section} (stored : w.db.sections.get row.sectionId = some parent)
      (draft : IsDraft w.db parent.surveyId) :
      Change w call (refreshed parent.surveyId w { w.db with fields := w.db.fields.insert row.withId row.key_withId })
  | fieldUpdated {row : PlacedField} (data : FieldData) (stored : w.db.placedField row.id = some row)
      (draft : IsDraft w.db row.surveyId) :
      Change w call (refreshed row.surveyId w
        { w.db with fields := w.db.fields.modify row.id data.assign data.key_assign })
  | fieldDeleted {row : PlacedField} (admin : call.user.role = .admin)
      (request : call.request = .destroyField row.surveyId row.sectionId row.id)
      (stored : w.db.placedField row.id = some row) (draft : IsDraft w.db row.surveyId) :
      Change w call (refreshed row.surveyId w (w.db.deleteFields (· == row.id)))
  | ruleUpdated {row : ConditionalRule} (data : ConditionalRuleData)
      (stored : w.db.conditionalRules.get row.id = some row) (draft : IsDraft w.db row.surveyId) :
      Change w call (refreshed row.surveyId w
        { w.db with conditionalRules := w.db.conditionalRules.modify row.id data.assign data.key_assign })
  | ruleDeleted {row : ConditionalRule} (stored : w.db.conditionalRules.get row.id = some row)
      (draft : IsDraft w.db row.surveyId) :
      Change w call (refreshed row.surveyId w
        { w.db with conditionalRules := w.db.conditionalRules.deleteWhere (·.id == row.id) })
  | dependencyCreated {row : FieldDependency} (draft : IsDraft w.db row.surveyId) :
      Change w call (refreshed row.surveyId w
        { w.db with fieldDependencies := w.db.fieldDependencies.insert row.withId row.key_withId })
  | dependencyUpdated {row : FieldDependency} (data : FieldDependencyData)
      (stored : w.db.fieldDependencies.get row.id = some row) (draft : IsDraft w.db row.surveyId) :
      Change w call (refreshed row.surveyId w
        { w.db with fieldDependencies := w.db.fieldDependencies.modify row.id data.assign data.key_assign })
  | dependencyDeleted {row : FieldDependency} (stored : w.db.fieldDependencies.get row.id = some row)
      (draft : IsDraft w.db row.surveyId) :
      Change w call (refreshed row.surveyId w
        { w.db with fieldDependencies := w.db.fieldDependencies.deleteWhere (·.id == row.id) })
  | submitted {row : SurveyResponse} (fieldResponses : List (Nat × String)) (new : row.id = w.db.responses.next)
      (isPublished : Published row.surveyId w.db) :
      Change w call (withDb w (bulkCreate row.id fieldResponses { w.db with responses := w.db.responses.save row }))

/-! ## Rules for programs -/

section Rules

variable {α β : Type} {w : World} {call : Call}

theorem change_query_bind {look : Database → Except PyExn α} {next : α → Procedure β}
    (rest : ∀ a, look w.db = .ok a → Change w call (final (next a) w)) : Change w call (final (query look >>= next) w) :=
  @relates_reading_bind _ _ _ _ (fun w w' => Change w call w') (fun _ => .quiet) _ _ w rest

theorem change_requireAdmin_bind {user : User} {next : Unit → Procedure β}
    (rest : user.role = .admin → Change w call (final (next ()) w)) :
    Change w call (final (requireAdmin user >>= next) w) := by
  apply change_query_bind
  intro _ permitted
  refine rest ?_
  by_contra notAdmin
  rw [if_neg notAdmin] at permitted
  cases permitted

theorem change_getOr404_bind {find : Database → Option α} {next : α → Procedure β}
    (rest : ∀ row, find w.db = some row → Change w call (final (next row) w)) :
    Change w call (final (getOr404 find >>= next) w) := by
  apply change_query_bind
  intro row result
  refine rest row ?_
  cases found : find w.db with
  | none => rw [found] at result; cases result
  | some other => rw [found] at result; cases result; rfl

theorem change_ensureDraftSurveyOf_bind {surveyId : Nat} {next : Unit → Procedure β}
    (rest : IsDraft w.db surveyId → Change w call (final (next ()) w)) :
    Change w call (final (ensureDraftSurveyOf surveyId >>= next) w) := by
  apply change_query_bind
  intro _ result
  refine rest ?_
  cases found : w.db.surveys.get surveyId with
  | none => rw [found] at result; cases result
  | some survey => rw [found] at result; exact ⟨survey, found, ensureDraftSurvey_eq_ok.mp result⟩

/-- A program that raises without a trace, or returns and then clears an entry. -/
theorem change_bind_invalidate {program : Procedure α} {next : α → Procedure β} {objectId : String}
    (clears : ∀ a t, final (next a) t = invalidated objectId t)
    (raised : ∀ exn t, program w = .error exn t → t = w)
    (returned : ∀ a t, program w = .ok a t → Change w call (invalidated objectId t)) :
    Change w call (final (program >>= next) w) := by
  cases result : program w with
  | ok a t =>
    have ends : final (program >>= next) w = final (next a) t := by simp only [final, bind_of_ok result]
    rw [ends, clears]
    exact returned a t result
  | error exn t =>
    rw [final_of_error (bind_of_error result), raised exn t result]
    exact .quiet

end Rules

/-! ## Statements -/

section Statements

variable {α : Type} [Keyed α] {model : Model α} {w w' : World} {exn : PyExn}

theorem insert_eq_error {make : Nat → α} {keyedMake : ∀ i, key (make i) = i}
    (raised : model.insert make keyedMake w = .error exn w') : w' = w := by
  cases checked : model.constraints w.db (make (model.table w.db).next) with
  | ok _ => rw [Model.insert_of_constraints keyedMake checked] at raised; cases raised
  | error _ => rw [Model.insert_of_error keyedMake checked] at raised; cases raised; rfl

theorem update_eq_error {id : Nat} {assign : α → α} {keepsKey : ∀ row, key (assign row) = key row}
    (raised : model.update id assign keepsKey w = .error exn w') : w' = w := by
  unfold Model.update query at raised
  rw [reading_bind] at raised
  split at raised
  · cases raised
  · cases raised
    rfl

theorem saveFields_eq_error {isEmpty : Bool} {id : Nat} {assign : α → α} {keepsKey : ∀ row, key (assign row) = key row}
    (raised : saveFields isEmpty (model.update id assign keepsKey) w = .error exn w') : w' = w := by
  cases isEmpty with
  | false => exact update_eq_error raised
  | true => cases raised

/-- The row is updated, or no key was submitted. -/
theorem saveFields_eq_ok {isEmpty : Bool} {id : Nat} {assign : α → α} {keepsKey : ∀ row, key (assign row) = key row}
    {u : Unit} (returned : saveFields isEmpty (model.update id assign keepsKey) w = .ok u w') :
    w' = w ∨ w' = withDb w (model.store w.db ((model.table w.db).modify id assign keepsKey)) := by
  cases isEmpty with
  | true => cases returned; exact Or.inl rfl
  | false =>
    obtain ⟨_, _, _, updated⟩ := Model.update_eq_ok_iff.mp returned
    exact Or.inr updated

theorem translating_insert_eq_error {translate : PyExn → PyExn} {make : Nat → α} {keyedMake : ∀ i, key (make i) = i}
    (raised : translating translate (model.insert make keyedMake) w = .error exn w') : w' = w := by
  obtain ⟨_, raised, _⟩ := translating_eq_error_iff.mp raised
  exact insert_eq_error raised

/-- An update and a check in a transaction: an exception of either takes the update back. -/
theorem atomic_update_eq_error {translate : PyExn → PyExn} {isEmpty : Bool} {id : Nat} {assign : α → α}
    {keepsKey : ∀ row, key (assign row) = key row} {check : Database → Except PyExn Unit}
    (raised : translating translate (atomicBlock do
      saveFields isEmpty (model.update id assign keepsKey)
      query check) w = .error exn w') : w' = w := by
  simp only [atomicBlock, translating_eq_error_iff, atomic_eq_error_iff] at raised
  obtain ⟨_, ⟨between, raised, rfl⟩, _⟩ := raised
  -- the cache of the world in between is the one at the start
  have sameCache : between.cache = w.cache := by
    cases saved : saveFields isEmpty (model.update id assign keepsKey) w with
    | error exn t =>
      rw [bind_of_error saved] at raised
      cases raised
      rw [saveFields_eq_error saved]
    | ok u t =>
      rw [bind_of_ok saved] at raised
      have unchanged : between = t := by
        simp only [query, reading] at raised
        split at raised
        · cases raised
        · cases raised
          rfl
      rw [unchanged]
      cases saveFields_eq_ok saved with
      | inl same => rw [same]
      | inr updated => rw [updated]; rfl
  rw [sameCache]

theorem atomic_update_eq_ok {translate : PyExn → PyExn} {isEmpty : Bool} {id : Nat} {assign : α → α}
    {keepsKey : ∀ row, key (assign row) = key row} {check : Database → Except PyExn Unit} {u : Unit}
    (returned : translating translate (atomicBlock do
      saveFields isEmpty (model.update id assign keepsKey)
      query check) w = .ok u w') :
    w' = w ∨ w' = withDb w (model.store w.db ((model.table w.db).modify id assign keepsKey)) := by
  simp only [atomicBlock, translating_eq_ok_iff, atomic_eq_ok_iff, bind_eq_ok_iff, query_eq_ok_iff] at returned
  obtain ⟨_, between, saved, _, rfl⟩ := returned
  exact saveFields_eq_ok saved

end Statements

/-! ## Writes of sections and fields -/

section Writes

variable {w : World} {call : Call}

theorem change_sectionInsert {survey : Survey} (draft : IsDraft w.db survey.id) (data : SectionData) :
    Change w call (final (sectionInsert survey data) w) := by
  rw [sectionInsert, final_query_pure_bind]
  apply change_bind_invalidate (fun _ _ => rfl) (fun _ _ => translating_insert_eq_error)
  intro row t returned
  obtain ⟨_, _, rfl⟩ := Model.insert_eq_ok_iff.mp (translating_eq_ok_iff.mp returned)
  exact @Change.sectionCreated w call _ draft

theorem change_fieldInsert {parent : Section} (stored : w.db.sections.get parent.id = some parent)
    (draft : IsDraft w.db parent.surveyId) (data : FieldData) : Change w call (final (fieldInsert parent data) w) := by
  rw [fieldInsert, final_query_pure_bind, final_translating, createField]
  apply change_bind_invalidate (fun _ _ => rfl) (fun _ _ => translating_insert_eq_error)
  intro row t returned
  obtain ⟨_, _, rfl⟩ := Model.insert_eq_ok_iff.mp (translating_eq_ok_iff.mp returned)
  exact @Change.fieldCreated w call _ parent stored draft

theorem change_updateSection {current : Section} (stored : w.db.sections.get current.id = some current)
    (draft : IsDraft w.db current.surveyId) (data : SectionData) :
    Change w call (final (updateSection current data) w) := by
  apply change_bind_invalidate (fun _ _ => rfl) (fun _ _ => atomic_update_eq_error)
  intro _ t returned
  cases atomic_update_eq_ok returned with
  | inl same => rw [same]; exact .cleared current.surveyId
  | inr updated => rw [updated]; exact .sectionUpdated data stored draft

theorem change_updateField {py : Interpreter} {current : PlacedField}
    (stored : w.db.placedField current.id = some current) (draft : IsDraft w.db current.surveyId)
    (data : FieldData) : Change w call (final (updateField py current data) w) := by
  apply change_query_bind
  intro oldOptions _
  apply change_bind_invalidate (fun _ _ => rfl) (fun _ _ => atomic_update_eq_error)
  intro _ t returned
  cases atomic_update_eq_ok returned with
  | inl same => rw [same]; exact .cleared current.surveyId
  | inr updated => rw [updated]; exact .fieldUpdated data stored draft

end Writes

/-! ## Surveys -/

section Surveys

variable {w : World} {call : Call} {user : User} {order : SetOrder} {encryptValue : Encryption} {isPartial : Bool}
  {body : SurveyBody} {pk : Nat}

/-- Without an instance only `draft` passes. -/
theorem runStatusField_none (status : Submitted SurveyStatus) (w : World) :
    ∃ result, runStatusField none status w = .ok result w ∧
      ∀ left, result = .ok left → status.value?.getD .draft = .draft := by
  cases status with
  | missing => exact ⟨_, rfl, fun _ _ => rfl⟩
  | refused message => exact ⟨_, rfl, fun _ same => by cases same⟩
  | given value =>
    by_cases draft : value = .draft
    · subst draft
      exact ⟨_, rfl, fun _ _ => rfl⟩
    · refine ⟨.error "New surveys must be created with 'draft' status.", ?_, fun _ same => by cases same⟩
      have raised : rejectIf (value ≠ .draft) "New surveys must be created with 'draft' status." =
          .error (.validationError "New surveys must be created with 'draft' status.") := by
        rw [rejectIf, if_pos draft, reject]
      have refused : validateStatus none value w =
          .error (.validationError "New surveys must be created with 'draft' status.") w :=
        query_bind_of_error raised
      simp [runStatusField, collecting, refused]

theorem change_surveyCreate : Change w call (final (surveyCreate user body) w) := by
  obtain ⟨result, ran, draft⟩ := runStatusField_none body.status w
  apply change_requireAdmin_bind
  intro admin
  cases validateSurvey_of_status false ran with
  | inl refused =>
    obtain ⟨_, refused⟩ := refused
    rw [final_of_error (bind_of_error refused)]
    exact .quiet
  | inr accepted =>
    obtain ⟨left, rfl, accepted⟩ := accepted
    rw [final, bind_of_ok accepted]
    show Change w call (final (surveyModel.insert _ _) w)
    rw [final_of_ok (Model.insert_of_constraints _ rfl)]
    exact .surveyCreated (draft left rfl)

/-- With the status accepted, only a refused title or description ends the validation. -/
theorem validateSurvey_of_accepted {instance? left : Option Survey} {w' : World}
    (ran : runStatusField instance? body.status w = .ok (.ok left) w') (accepted : ¬ BodyRefused isPartial body) :
    validateSurvey isPartial instance? body w =
      .ok (⟨body.title.value?, body.description.value?, body.status.value?⟩, left) w' := by
  simp only [BodyRefused, not_or, Bool.not_eq_true, Option.isSome_eq_false_iff, Option.isNone_iff_eq_none] at accepted
  have passed : raiseErrors [("title", body.title.error? !isPartial),
      ("description", body.description.error? false)] = .ok () :=
    raiseErrors_eq_ok.mpr (by simp [accepted])
  rw [validateSurvey, bind_of_ok ran]
  exact query_bind_of_ok passed

theorem change_surveyUpdate : Change w ⟨user, order, encryptValue, .updateSurvey pk isPartial body⟩
    (final (surveyUpdate user pk isPartial body) w) := by
  apply change_requireAdmin_bind
  intro admin
  apply change_getOr404_bind
  intro current found
  have sameKey : current.id = pk := w.db.surveys.keyed pk current found
  have stored : w.db.surveys.get current.id = some current := sameKey ▸ found
  cases statusField_cases ⟨user, isPartial, body⟩ current.id w current with
  | inl written =>
    obtain ⟨value, writes, _⟩ := written
    have ran := runStatusField_of_writes stored writes
    cases validateSurvey_of_status isPartial ran with
    | inl refused =>
      -- the transition is in the database, whatever becomes of the other fields
      obtain ⟨_, refused⟩ := refused
      have bodyRefused : BodyRefused isPartial body := by
        by_contra accepted
        rw [validateSurvey_of_accepted ran accepted] at refused
        cases refused
      rw [final_of_error (bind_of_error refused)]
      subst sameKey
      exact .surveyMoved admin rfl bodyRefused stored writes
    | inr accepted =>
      obtain ⟨_, same, accepted⟩ := accepted
      cases same
      have given : body.status = .given value := writes.1
      rw [final, bind_of_ok accepted]
      exact .surveyMovedSaved stored writes.2.2 rfl
        (by simp [SurveyData.assign, given, Submitted.value?, Survey.withStatus])
  | inr kept =>
    obtain ⟨_, result, ran, kept⟩ := kept
    cases validateSurvey_of_status isPartial ran with
    | inl refused =>
      obtain ⟨_, refused⟩ := refused
      rw [final_of_error (bind_of_error refused)]
      exact .quiet
    | inr accepted =>
      obtain ⟨_, rfl, accepted⟩ := accepted
      cases kept with
      | inl passed =>
        obtain ⟨same, sameStatus, _⟩ := passed
        cases same
        rw [final, bind_of_ok accepted]
        exact .surveySaved stored sameStatus
      | inr refused =>
        obtain ⟨_, same⟩ := refused.1
        cases same

theorem change_surveyDestroy :
    Change w ⟨user, order, encryptValue, .destroySurvey pk⟩ (final (surveyDestroy user pk) w) := by
  apply change_requireAdmin_bind
  intro admin
  apply change_getOr404_bind
  intro current found
  have sameKey : current.id = pk := w.db.surveys.keyed pk current found
  subst sameKey
  exact .surveyDeleted admin rfl found

end Surveys

/-! ## Every call -/

section Calls

variable {py : Interpreter} {call : Call} {order : SetOrder} {encryptValue : Encryption} {user : User} {w : World}
  {surveyPk sectionPk pk : Nat}

theorem getSection_eq_some {db : Database} {row : Section} (found : getSection surveyPk pk db = some row) :
    db.sections.get row.id = some row ∧ row.surveyId = surveyPk ∧ row.id = pk := by
  obtain ⟨stored, inSurvey⟩ := Option.filter_eq_some_iff.mp found
  have sameKey : row.id = pk := db.sections.keyed pk row stored
  exact ⟨sameKey ▸ stored, by simpa using inSurvey, sameKey⟩

theorem getField_eq_some {db : Database} {row : PlacedField} (found : getField sectionPk pk db = some row) :
    db.placedField row.id = some row ∧ row.sectionId = sectionPk ∧ row.id = pk := by
  obtain ⟨stored, inSection⟩ := Option.filter_eq_some_iff.mp found
  have sameKey : row.id = pk := db.fields.keyed pk row.toField (Database.placedField_eq_some.mp stored).1
  exact ⟨sameKey ▸ stored, by simpa using inSection, sameKey⟩

theorem getConditionalRule_stored {db : Database} {row : ConditionalRule}
    (found : getConditionalRule surveyPk pk db = some row) :
    db.conditionalRules.get row.id = some row ∧ row.surveyId = surveyPk := by
  obtain ⟨stored, inSurvey⟩ := Option.filter_eq_some_iff.mp found
  rw [show row.id = pk from db.conditionalRules.keyed pk row stored]
  exact ⟨stored, by simpa using inSurvey⟩

theorem getFieldDependency_stored {db : Database} {row : FieldDependency}
    (found : getFieldDependency surveyPk pk db = some row) :
    db.fieldDependencies.get row.id = some row ∧ row.surveyId = surveyPk := by
  obtain ⟨stored, inSurvey⟩ := Option.filter_eq_some_iff.mp found
  rw [show row.id = pk from db.fieldDependencies.keyed pk row stored]
  exact ⟨stored, by simpa using inSurvey⟩

/-- The survey of the URL, found and a draft. -/
theorem change_draftSurvey_bind {β : Type} {next : Survey → Procedure β}
    (rest : IsDraft w.db surveyPk → ∀ survey, Change w call (final (next survey) w)) :
    Change w call (final (do
      let survey ← getOr404 fun db => db.surveys.get surveyPk
      query fun _ => ensureDraftSurvey survey
      next survey) w) := by
  apply change_getOr404_bind
  intro survey found
  apply change_query_bind
  intro _ checked
  exact rest ⟨survey, found, ensureDraftSurvey_eq_ok.mp checked⟩ survey

theorem change_sectionCreate {body : SectionBody} : Change w call (final (sectionCreate user surveyPk body) w) := by
  apply change_requireAdmin_bind
  intro admin
  apply change_query_bind
  intro data _
  apply change_getOr404_bind
  intro survey found
  apply change_query_bind
  intro _ draft
  have sameKey : survey.id = surveyPk := w.db.surveys.keyed surveyPk survey found
  exact change_sectionInsert ⟨survey, sameKey ▸ found, ensureDraftSurvey_eq_ok.mp draft⟩ data

theorem change_sectionUpdate {isPartial : Bool} {body : SectionBody} :
    Change w call (final (sectionUpdate user surveyPk pk isPartial body) w) := by
  -- the walk follows the view: what it asks, and what the answer tells
  apply change_requireAdmin_bind
  intro admin
  apply change_getOr404_bind
  intro _ _
  apply change_getOr404_bind
  intro current found
  apply change_query_bind
  intro data _
  apply change_ensureDraftSurveyOf_bind
  intro draft
  rw [final_translating]
  exact change_updateSection (getSection_eq_some found).1 draft data

theorem change_sectionDestroy :
    Change w ⟨user, order, encryptValue, .destroySection surveyPk pk⟩ (final (sectionDestroy user surveyPk pk) w) := by
  apply change_requireAdmin_bind
  intro admin
  apply change_getOr404_bind
  intro _ _
  apply change_getOr404_bind
  intro current found
  apply change_ensureDraftSurveyOf_bind
  intro draft
  obtain ⟨stored, rfl, rfl⟩ := getSection_eq_some found
  exact .sectionDeleted admin rfl stored draft

theorem change_fieldCreate {body : FieldBody} :
    Change w call (final (fieldCreate py user surveyPk sectionPk body) w) := by
  apply change_requireAdmin_bind
  intro admin
  apply change_query_bind
  intro data _
  apply change_getOr404_bind
  intro _ _
  apply change_getOr404_bind
  intro parent found
  apply change_ensureDraftSurveyOf_bind
  intro draft
  exact change_fieldInsert (getSection_eq_some found).1 draft data

theorem change_fieldUpdate {isPartial : Bool} {body : FieldBody} :
    Change w call (final (fieldUpdate py user surveyPk sectionPk pk isPartial body) w) := by
  apply change_requireAdmin_bind
  intro admin
  apply change_getOr404_bind
  intro _ _
  apply change_getOr404_bind
  intro _ _
  apply change_getOr404_bind
  intro current found
  apply change_query_bind
  intro data _
  apply change_ensureDraftSurveyOf_bind
  intro draft
  rw [final_translating]
  exact change_updateField (getField_eq_some found).1 draft data

theorem change_fieldDestroy : Change w ⟨user, order, encryptValue, .destroyField surveyPk sectionPk pk⟩
    (final (fieldDestroy user surveyPk sectionPk pk) w) := by
  apply change_requireAdmin_bind
  intro admin
  apply change_getOr404_bind
  intro _ _
  apply change_getOr404_bind
  intro parent parentFound
  apply change_getOr404_bind
  intro current found
  apply change_ensureDraftSurveyOf_bind
  intro draft
  obtain ⟨parentStored, rfl, rfl⟩ := getSection_eq_some parentFound
  obtain ⟨stored, inSection, rfl⟩ := getField_eq_some found
  -- the section of the URL is the section of the field
  have sameSection : current.sectionRow = parent := by
    have placed := (Database.placedField_eq_some.mp stored).2
    rw [inSection, parentStored, Option.some.injEq] at placed
    exact placed.symm
  have request : Request.destroyField parent.surveyId parent.id current.id =
      .destroyField current.surveyId current.sectionId current.id := by
    rw [PlacedField.surveyId, sameSection, inSection]
  exact .fieldDeleted admin request stored draft

/-- A valid body, and then no attribute `survey`. -/
theorem change_conditionalRuleCreate {body : ConditionalRuleBody} :
    Change w call (final (conditionalRuleCreate py order user surveyPk body) w) :=
  change_requireAdmin_bind fun _ => change_query_bind fun _ _ => .quiet

theorem change_conditionalRuleUpdate {isPartial : Bool} {body : ConditionalRuleBody} :
    Change w call (final (conditionalRuleUpdate py order user surveyPk pk isPartial body) w) := by
  apply change_requireAdmin_bind
  intro admin
  apply change_getOr404_bind
  intro current found
  obtain ⟨stored, rfl⟩ := getConditionalRule_stored found
  apply change_query_bind
  intro data _
  apply change_draftSurvey_bind
  intro draft _
  apply change_query_bind
  intro _ _
  apply change_bind_invalidate (fun _ _ => rfl) (fun _ _ => saveFields_eq_error)
  intro _ t returned
  cases saveFields_eq_ok returned with
  | inl same => rw [same]; exact .cleared current.surveyId
  | inr updated => rw [updated]; exact .ruleUpdated data stored draft

theorem change_conditionalRuleDestroy : Change w call (final (conditionalRuleDestroy user surveyPk pk) w) := by
  apply change_requireAdmin_bind
  intro admin
  apply change_getOr404_bind
  intro current found
  obtain ⟨stored, rfl⟩ := getConditionalRule_stored found
  apply change_draftSurvey_bind
  intro draft _
  exact .ruleDeleted stored draft

theorem change_fieldDependencyCreate {body : FieldDependencyBody} :
    Change w call (final (fieldDependencyCreate py order user surveyPk body) w) := by
  apply change_requireAdmin_bind
  intro admin
  apply change_query_bind
  intro data _
  apply change_draftSurvey_bind
  intro draft _
  apply change_query_bind
  intro _ _
  apply change_bind_invalidate (fun _ _ => rfl) (fun _ _ => insert_eq_error)
  intro _ t returned
  obtain ⟨_, _, rfl⟩ := Model.insert_eq_ok_iff.mp returned
  exact @Change.dependencyCreated w call (data.assign (blankFieldDependency surveyPk)) draft

theorem change_fieldDependencyUpdate {isPartial : Bool} {body : FieldDependencyBody} :
    Change w call (final (fieldDependencyUpdate py order user surveyPk pk isPartial body) w) := by
  apply change_requireAdmin_bind
  intro admin
  apply change_getOr404_bind
  intro current found
  obtain ⟨stored, rfl⟩ := getFieldDependency_stored found
  apply change_query_bind
  intro data _
  apply change_draftSurvey_bind
  intro draft _
  apply change_query_bind
  intro _ _
  apply change_bind_invalidate (fun _ _ => rfl) (fun _ _ => saveFields_eq_error)
  intro _ t returned
  cases saveFields_eq_ok returned with
  | inl same => rw [same]; exact .cleared current.surveyId
  | inr updated => rw [updated]; exact .dependencyUpdated data stored draft

theorem change_fieldDependencyDestroy : Change w call (final (fieldDependencyDestroy user surveyPk pk) w) := by
  apply change_requireAdmin_bind
  intro admin
  apply change_getOr404_bind
  intro current found
  obtain ⟨stored, rfl⟩ := getFieldDependency_stored found
  apply change_draftSurvey_bind
  intro draft _
  exact .dependencyDeleted stored draft

theorem createSubmission_error_world {encryptValue : Encryption} {survey : Survey} {cleaned : Dict String Json}
    {surveyFields : Nat → Option Field} {w' : World} {exn : SubmissionExn}
    (raised : createSubmission py encryptValue survey user cleaned surveyFields w = .error exn w') : w' = w := by
  rw [createSubmission_eq py encryptValue survey user cleaned surveyFields w rfl] at raised
  split at raised
  · cases raised; rfl
  · split at raised
    · cases raised; rfl
    · split at raised
      · cases raised
      · cases raised; rfl

theorem change_createSubmission {encryptValue : Encryption} {survey : Survey} {cleaned : Dict String Json}
    {surveyFields : Nat → Option Field} (isPublished : Published survey.id w.db) :
    Change w call (final (createSubmission py encryptValue survey user cleaned surveyFields) w) := by
  cases result : createSubmission py encryptValue survey user cleaned surveyFields w with
  | ok row w' =>
    obtain ⟨fieldResponses, _, rfl, rfl⟩ := createSubmission_ok result
    rw [final_of_ok result]
    exact .submitted fieldResponses rfl isPublished
  | error exn w' =>
    rw [final_of_error result, createSubmission_error_world result]
    exact .quiet

theorem change_submit {encryptValue : Encryption} {answers : Submitted (List Answer)} :
    Change w call (final (submit py order encryptValue user surveyPk answers) w) := by
  apply change_query_bind
  intro _ _
  apply change_getOr404_bind
  intro survey found
  obtain ⟨stored, isPublished⟩ := Option.filter_eq_some_iff.mp found
  have sameKey : survey.id = surveyPk := w.db.surveys.keyed surveyPk survey stored
  apply change_query_bind
  intro given _
  apply change_query_bind
  intro db _
  cases answersDict db survey.id given Dict.empty with
  | error errors => exact .quiet
  | ok answers =>
    show Change w call (final (respondErrors _) w)
    rw [final_respondErrors]
    apply @relates_reading_bind _ _ _ _ (fun w w' => Change w call w') fun _ => .quiet
    intro cleaned _
    rw [final_bind_same fun _ _ => rfl]
    exact change_createSubmission ⟨survey, sameKey ▸ stored, by simpa using isPublished⟩

/-- The view's answer is dropped; its change is that of the call. -/
theorem change_discard {α : Type} {program : Procedure α} (change : Change w call (final program w)) :
    Change w call (final (do let _ ← program) w) := by
  rw [final_bind_same fun _ _ => rfl]
  exact change

/-- Every call of the API makes one change. -/
theorem handle_change (py : Interpreter) (w : World) (call : Call) : Change w call (handle py w call) := by
  obtain ⟨user, order, encryptValue, request⟩ := call
  cases request with
  | createSurvey body => exact change_discard change_surveyCreate
  | updateSurvey pk isPartial body => exact change_discard change_surveyUpdate
  | destroySurvey pk => exact change_surveyDestroy
  | createSection surveyPk body => exact change_discard change_sectionCreate
  | updateSection surveyPk pk isPartial body => exact change_discard change_sectionUpdate
  | destroySection surveyPk pk => exact change_sectionDestroy
  | createField surveyPk sectionPk body => exact change_discard change_fieldCreate
  | updateField surveyPk sectionPk pk isPartial body => exact change_discard change_fieldUpdate
  | destroyField surveyPk sectionPk pk => exact change_fieldDestroy
  | createConditionalRule surveyPk body => exact change_discard change_conditionalRuleCreate
  | updateConditionalRule surveyPk pk isPartial body => exact change_discard change_conditionalRuleUpdate
  | destroyConditionalRule surveyPk pk => exact change_conditionalRuleDestroy
  | createFieldDependency surveyPk body => exact change_discard change_fieldDependencyCreate
  | updateFieldDependency surveyPk pk isPartial body => exact change_discard change_fieldDependencyUpdate
  | destroyFieldDependency surveyPk pk => exact change_fieldDependencyDestroy
  | submit surveyPk answers => exact change_discard change_submit

end Calls

end SurveyPlatform.Verified

import SurveyPlatform.Verified.AnswerDurability
import SurveyPlatform.Verified.EditEffects
import SurveyPlatform.Verified.RuleUpdates

/-! # How a request ends

`Served` says for every call how it can end: refused with the world as it was,
or returned with one write, each with the request it answers and the checks it
passed.  The one write of a refused request is the status of a survey update.
`served` is the inversion of all sixteen views; results about whole requests
split on it and never look at a view again.
-/

namespace SurveyPlatform.Verified

open SurveyPlatform.Library SurveyPlatform.Library.Program SurveyPlatform.Python
open SurveyPlatform.Surveys SurveyPlatform.Responses

/-! ## Constraints -/

section Constraints

variable {db : Database}

/-- No row but the new one has its parent and its order. -/
theorem no_sibling_iff {α : Type} [Keyed α] {table : Table α} {parent order : α → Nat} {row : α} :
    (table.rows.any fun other => key other != key row && parent other == parent row && order other == order row) = false ↔
      ∀ other, table.get (key other) = some other → parent other = parent row → order other = order row →
        key other = key row := by
  rw [List.any_eq_false]
  refine forall_congr' fun other => ?_
  rw [Table.mem_rows]
  refine forall_congr' fun _ => ?_
  simp only [Bool.and_eq_true, bne_iff_ne, beq_iff_eq, ne_eq]
  constructor
  · intro holds sameParent sameOrder
    by_contra different
    exact holds ⟨⟨different, sameParent⟩, sameOrder⟩
  · intro holds taken
    obtain ⟨⟨different, sameParent⟩, sameOrder⟩ := taken
    exact different (holds sameParent sameOrder)

/-- `raise` under a condition at the end of the checks. -/
theorem throwIf_eq_ok {taken : Bool} {exn : PyExn} :
    (if taken = true then throw exn else pure () : Except PyExn Unit) = .ok () ↔ taken = false := by
  cases taken <;> simp [throw, throwThe, MonadExceptOf.throw, pure, Except.pure]

theorem throwIf_then_eq_ok {bad : Prop} [Decidable bad] {exn : PyExn} {rest : Except PyExn Unit} :
    (if bad then (do let u ← (throw exn : Except PyExn PUnit); (fun _ => rest) u) else rest) = .ok () ↔
      ¬ bad ∧ rest = .ok () := by
  by_cases isBad : bad <;> simp [isBad, throw, throwThe, MonadExceptOf.throw, bind, Except.bind]

theorem sectionConstraints_eq_ok {row : Section} : db.sectionConstraints row = .ok () ↔
    row.order ≤ Database.maxInteger ∧ (db.surveys.get row.surveyId).isSome = true ∧
      ∀ other, db.sections.get other.id = some other → other.surveyId = row.surveyId → other.order = row.order →
        other.id = row.id := by
  have siblings := @no_sibling_iff Section _ db.sections Section.surveyId Section.order row
  simp only [key_section] at siblings
  rw [← siblings, ← requireRow_eq_ok, ← Nat.not_lt]
  refine throwIf_then_eq_ok.trans (and_congr_right fun _ => ?_)
  rw [seq_eq_ok, throwIf_eq_ok]

theorem fieldConstraints_eq_ok {row : Field} : db.fieldConstraints row = .ok () ↔
    row.order ≤ Database.maxInteger ∧ (row.options.isNone = false ∧ row.validationRules.isNone = false) ∧
      (db.sections.get row.sectionId).isSome = true ∧
      ∀ other, db.fields.get other.id = some other → other.sectionId = row.sectionId → other.order = row.order →
        other.id = row.id := by
  have siblings := @no_sibling_iff Field _ db.fields Field.sectionId Field.order row
  simp only [key_field] at siblings
  rw [← siblings, ← requireRow_eq_ok, ← Nat.not_lt, ← Bool.or_eq_false_iff, ← Bool.not_eq_true]
  refine throwIf_then_eq_ok.trans (and_congr_right fun _ => throwIf_then_eq_ok.trans (and_congr_right fun _ => ?_))
  rw [seq_eq_ok, throwIf_eq_ok]

end Constraints

/-! ## Endings -/

/-- What `SurveyWriteSerializer` returns for a body it accepts. -/
def acceptedData (body : SurveyBody) : SurveyData := ⟨body.title.value?, body.description.value?, body.status.value?⟩

/-- A status the body may ask for: none, the stored one, or one the survey may move to. -/
def StatusAccepted (db : Database) (current : Survey) (status : Submitted SurveyStatus) : Prop :=
  status.value?.getD current.status = current.status ∨ ∃ value, WritesStatus db current status value

inductive Served (py : Interpreter) (w : World) (call : Call) : Option PyExn × World → Prop where
  | refused (exn : PyExn) : Served py w call (some exn, w)
  -- a submission that is answered with its errors
  | invalid {surveyPk : Nat} {answers : Submitted (List Answer)} (request : call.request = .submit surveyPk answers) :
      Served py w call (none, w)
  | surveyCreated {body : SurveyBody} {row : Survey} (admin : call.user.role = .admin)
      (request : call.request = .createSurvey body) (draft : row.status = .draft)
      (creator : row.createdBy = call.user.id) :
      Served py w call (none, withDb w { w.db with surveys := w.db.surveys.insert row.withId row.key_withId })
  | statusWritten {survey : Survey} {status : SurveyStatus} {isPartial : Bool} {body : SurveyBody} (exn : PyExn)
      (admin : call.user.role = .admin) (request : call.request = .updateSurvey survey.id isPartial body)
      (refused : BodyRefused isPartial body) (stored : w.db.surveys.get survey.id = some survey)
      (writes : WritesStatus w.db survey body.status status) :
      Served py w call (some exn, withDb w (w.db.setStatus survey.id status))
  | surveyUpdated {survey : Survey} {isPartial : Bool} {body : SurveyBody} (admin : call.user.role = .admin)
      (request : call.request = .updateSurvey survey.id isPartial body) (valid : ¬ BodyRefused isPartial body)
      (stored : w.db.surveys.get survey.id = some survey) (accepted : StatusAccepted w.db survey body.status) :
      Served py w call (none, refreshed survey.id w
        { w.db with surveys := w.db.surveys.save ((acceptedData body).assign survey) })
  | surveyDeleted {survey : Survey} (admin : call.user.role = .admin)
      (request : call.request = .destroySurvey survey.id) (stored : w.db.surveys.get survey.id = some survey) :
      Served py w call (none, invalidated "None" (withDb w (w.db.deleteSurvey survey.id)))
  | sectionCreated {row : Section} {body : SectionBody} (admin : call.user.role = .admin)
      (request : call.request = .createSection row.surveyId body) (draft : IsDraft w.db row.surveyId)
      (numbered : ∀ order, body.order = .given order → row.order = order)
      (checked : w.db.sectionConstraints (row.withId w.db.sections.next) = .ok ()) :
      Served py w call (none, refreshed row.surveyId w
        { w.db with sections := w.db.sections.insert row.withId row.key_withId })
  | sectionUpdated {row : Section} {isPartial : Bool} {body : SectionBody} {data : SectionData}
      (admin : call.user.role = .admin) (request : call.request = .updateSection row.surveyId row.id isPartial body)
      (validated : validateSection isPartial body = .ok data) (stored : w.db.sections.get row.id = some row)
      (draft : IsDraft w.db row.surveyId)
      (checked : data.isEmpty = false → w.db.sectionConstraints (data.assign row) = .ok ())
      (revalidated : data.order.any (· != row.order) = true →
        revalidateOrderingForSurvey (sectionEdited w.db row data) row.surveyId = .ok ()) :
      Served py w call (none, refreshed row.surveyId w
        { w.db with sections := w.db.sections.save (data.assign row) })
  | sectionDeleted {row : Section} (admin : call.user.role = .admin)
      (request : call.request = .destroySection row.surveyId row.id) (stored : w.db.sections.get row.id = some row)
      (draft : IsDraft w.db row.surveyId) :
      Served py w call (none, refreshed row.surveyId w (w.db.deleteSections (· == row.id)))
  | fieldCreated {row : Field} {parent : Section} {body : FieldBody} (admin : call.user.role = .admin)
      (request : call.request = .createField parent.surveyId parent.id body)
      (inSection : row.sectionId = parent.id) (stored : w.db.sections.get parent.id = some parent)
      (draft : IsDraft w.db parent.surveyId) (numbered : ∀ order, body.order = .given order → row.order = order)
      (checked : w.db.fieldConstraints (row.withId w.db.fields.next) = .ok ()) :
      Served py w call (none, refreshed parent.surveyId w
        { w.db with fields := w.db.fields.insert row.withId row.key_withId })
  | fieldUpdated {row : PlacedField} {isPartial : Bool} {body : FieldBody} {data : FieldData}
      (admin : call.user.role = .admin)
      (request : call.request = .updateField row.surveyId row.sectionId row.id isPartial body)
      (validated : validateField py isPartial row.toField body = .ok data)
      (stored : w.db.placedField row.id = some row) (draft : IsDraft w.db row.surveyId)
      (checked : data.isEmpty = false → w.db.fieldConstraints (data.assign row.toField) = .ok ())
      (revalidated : ∃ old, listedOptions row = .ok old ∧ (ChangesTypeOrOptions row old data →
        revalidateRulesForField py (fieldEdited w.db row data) (data.assign row.toField) = .ok ())) :
      Served py w call (none, refreshed row.surveyId w
        { w.db with fields := w.db.fields.save (data.assign row.toField) })
  | fieldDeleted {row : PlacedField} (admin : call.user.role = .admin)
      (request : call.request = .destroyField row.surveyId row.sectionId row.id)
      (stored : w.db.placedField row.id = some row) (draft : IsDraft w.db row.surveyId) :
      Served py w call (none, refreshed row.surveyId w (w.db.deleteFields (· == row.id)))
  | ruleUpdated {row : ConditionalRule} {isPartial : Bool} {body : ConditionalRuleBody} {data : ConditionalRuleData}
      (admin : call.user.role = .admin)
      (request : call.request = .updateConditionalRule row.surveyId row.id isPartial body)
      (fields : conditionalRuleFields w.db isPartial body = .ok data) (accepted : RuleAccepted py data row.surveyId)
      (checkable : data.targetField.join ≠ none → data.dependsOnField ≠ none)
      (stored : w.db.conditionalRules.get row.id = some row) (draft : IsDraft w.db row.surveyId)
      (checked : data.isEmpty = false → w.db.conditionalRuleConstraints (data.assign row) = .ok ()) :
      Served py w call (none, refreshed row.surveyId w
        { w.db with conditionalRules := w.db.conditionalRules.save (data.assign row) })
  | ruleDeleted {row : ConditionalRule} (admin : call.user.role = .admin)
      (request : call.request = .destroyConditionalRule row.surveyId row.id)
      (stored : w.db.conditionalRules.get row.id = some row) (draft : IsDraft w.db row.surveyId) :
      Served py w call (none, refreshed row.surveyId w
        { w.db with conditionalRules := w.db.conditionalRules.deleteWhere (·.id == row.id) })
  | dependencyCreated {surveyPk : Nat} {body : FieldDependencyBody} {data : FieldDependencyData} {row : FieldDependency}
      (admin : call.user.role = .admin) (request : call.request = .createFieldDependency surveyPk body)
      (fields : fieldDependencyFields w.db false body = .ok data)
      (accepted : DependencyAccepted py w.db.conditionalRules.rows data surveyPk)
      (checkable : data.dependsOnField ≠ none ∧ data.dependentField ≠ none) (draft : IsDraft w.db surveyPk)
      (made : row = data.assign (blankFieldDependency surveyPk))
      (checked : w.db.fieldDependencyConstraints (row.withId w.db.fieldDependencies.next) = .ok ()) :
      Served py w call (none, refreshed surveyPk w
        { w.db with fieldDependencies := w.db.fieldDependencies.insert row.withId row.key_withId })
  | dependencyUpdated {row : FieldDependency} {isPartial : Bool} {body : FieldDependencyBody}
      {data : FieldDependencyData} (admin : call.user.role = .admin)
      (request : call.request = .updateFieldDependency row.surveyId row.id isPartial body)
      (fields : fieldDependencyFields w.db isPartial body = .ok data)
      (accepted : DependencyAccepted py w.db.conditionalRules.rows data row.surveyId)
      (checkable : data.dependsOnField ≠ none ∧ data.dependentField ≠ none)
      (stored : w.db.fieldDependencies.get row.id = some row) (draft : IsDraft w.db row.surveyId)
      (checked : data.isEmpty = false → w.db.fieldDependencyConstraints (data.assign row) = .ok ()) :
      Served py w call (none, refreshed row.surveyId w
        { w.db with fieldDependencies := w.db.fieldDependencies.save (data.assign row) })
  | dependencyDeleted {row : FieldDependency} (admin : call.user.role = .admin)
      (request : call.request = .destroyFieldDependency row.surveyId row.id)
      (stored : w.db.fieldDependencies.get row.id = some row) (draft : IsDraft w.db row.surveyId) :
      Served py w call (none, refreshed row.surveyId w
        { w.db with fieldDependencies := w.db.fieldDependencies.deleteWhere (·.id == row.id) })
  | submitted {row : SurveyResponse} {answers : Submitted (List Answer)} {cleaned : Dict String Json}
      {prepared : List (Nat × String)} (customer : call.user.role = .customer)
      (request : call.request = .submit row.surveyId answers) (isPublished : Published row.surveyId w.db)
      (new : row.id = w.db.responses.next) (submitter : row.userId = call.user.id)
      (checked : surveyResponseConstraints w.db row = .ok ())
      (accepted : CleanedAnswers py call.order w row.surveyId answers cleaned)
      (ready : List.Forall₂ (Prepared py call.encryptValue fun id => fieldOfSurvey w.db row.surveyId id)
        cleaned.entries prepared) :
      Served py w call (none, withDb w (bulkCreate row.id prepared { w.db with responses := w.db.responses.save row }))

/-! ## Rules for programs -/

section Rules

variable {α β : Type} {py : Interpreter} {w : World} {call : Call}

theorem served_query_bind {look : Database → Except PyExn α} {next : α → Procedure β}
    (rest : ∀ a, look w.db = .ok a → Served py w call (ending (next a) w)) :
    Served py w call (ending (query look >>= next) w) := by
  cases found : look w.db with
  | error exn =>
    rw [ending_of_error (query_bind_of_error found)]
    exact .refused exn
  | ok a =>
    rw [ending_bind_of_ok (query_eq_ok_iff.mpr ⟨found, rfl⟩)]
    exact rest a found

theorem served_requireAdmin_bind {user : User} {next : Unit → Procedure β}
    (rest : user.role = .admin → Served py w call (ending (next ()) w)) :
    Served py w call (ending (requireAdmin user >>= next) w) := by
  apply served_query_bind
  intro _ permitted
  apply rest
  by_contra notAdmin
  rw [if_neg notAdmin] at permitted
  cases permitted

theorem served_getOr404_bind {find : Database → Option α} {next : α → Procedure β}
    (rest : ∀ row, find w.db = some row → Served py w call (ending (next row) w)) :
    Served py w call (ending (getOr404 find >>= next) w) := by
  apply served_query_bind
  intro row result
  apply rest
  cases found : find w.db with
  | none => rw [found] at result; cases result
  | some other => rw [found] at result; cases result; rfl

theorem served_ensureDraftSurveyOf_bind {surveyId : Nat} {next : Unit → Procedure β}
    (rest : IsDraft w.db surveyId → Served py w call (ending (next ()) w)) :
    Served py w call (ending (ensureDraftSurveyOf surveyId >>= next) w) := by
  apply served_query_bind
  intro _ result
  apply rest
  cases found : w.db.surveys.get surveyId with
  | none => rw [found] at result; cases result
  | some survey => rw [found] at result; exact ⟨survey, found, ensureDraftSurvey_eq_ok.mp result⟩

theorem served_draftSurvey_bind {surveyPk : Nat} {next : Survey → Procedure β}
    (rest : IsDraft w.db surveyPk → ∀ survey, survey.id = surveyPk → Served py w call (ending (next survey) w)) :
    Served py w call (ending (do
      let survey ← getOr404 fun db => db.surveys.get surveyPk
      query fun _ => ensureDraftSurvey survey
      next survey) w) := by
  apply served_getOr404_bind
  intro survey found
  apply served_query_bind
  intro _ checked
  exact rest ⟨survey, found, ensureDraftSurvey_eq_ok.mp checked⟩ survey (w.db.surveys.keyed surveyPk survey found)

/-- A program that raises without a trace, and what it leaves when it returns. -/
theorem served_of_cases {program : Procedure α} (raised : ∀ exn t, program w = .error exn t → t = w)
    (returned : ∀ a t, program w = .ok a t → Served py w call (none, t)) : Served py w call (ending program w) := by
  cases result : program w with
  | error exn t =>
    rw [ending_of_error result, raised exn t result]
    exact .refused exn
  | ok a t =>
    rw [ending_of_ok result]
    exact returned a t result

/-- A part that raises without a trace, and what follows when it returns. -/
theorem served_bind {program : Procedure α} {next : α → Procedure β}
    (raised : ∀ exn t, program w = .error exn t → t = w)
    (returned : ∀ a t, program w = .ok a t → Served py w call (ending (next a) t)) :
    Served py w call (ending (program >>= next) w) := by
  cases result : program w with
  | error exn t =>
    rw [ending_of_error (bind_of_error result), raised exn t result]
    exact .refused exn
  | ok a t =>
    rw [ending_bind_of_ok result]
    exact returned a t result

/-- Which exception it was does not matter. -/
theorem Served.reraise {exn other : PyExn} {w' : World} (served : Served py w call (some exn, w')) :
    Served py w call (some other, w') := by
  cases served with
  | refused => exact .refused other
  | statusWritten _ admin request refused stored writes => exact .statusWritten other admin request refused stored writes

theorem served_translating {translate : PyExn → PyExn} {program : Procedure α}
    (served : Served py w call (ending program w)) : Served py w call (ending (translating translate program) w) := by
  cases result : program w with
  | error exn t =>
    rw [ending_of_error result] at served
    rw [ending_of_error (translating_of_error result)]
    exact served.reraise
  | ok a t =>
    rw [ending_of_ok result] at served
    rw [ending_of_ok (translating_eq_ok_iff.mpr result)]
    exact served

end Rules

/-! ## Surveys -/

section Surveys

variable {py : Interpreter} {w : World} {user : User} {order : SetOrder} {encryptValue : Encryption} {isPartial : Bool}
  {body : SurveyBody} {pk : Nat}

theorem served_surveyCreate : Served py w ⟨user, order, encryptValue, .createSurvey body⟩
    (ending (surveyCreate user body) w) := by
  obtain ⟨result, ran, draft⟩ := runStatusField_none body.status w
  apply served_requireAdmin_bind
  intro admin
  cases validateSurvey_of_status false ran with
  | inl refused =>
    obtain ⟨_, refused⟩ := refused
    rw [ending_of_error (bind_of_error refused)]
    exact .refused _
  | inr accepted =>
    obtain ⟨left, rfl, accepted⟩ := accepted
    rw [ending_bind_of_ok accepted]
    show Served py w _ (ending (surveyModel.insert _ _) w)
    rw [ending_of_ok (Model.insert_of_constraints _ rfl)]
    exact .surveyCreated admin rfl (draft left rfl) rfl

/-- The transition is overwritten by the row that is saved after it. -/
theorem save_setStatus {db : Database} {current row : Survey} {status : SurveyStatus} (sameKey : row.id = current.id) :
    (db.setStatus current.id status).surveys.save row = db.surveys.save row :=
  @Table.save_modify _ _ _ _ _ (Survey.key_withStatus status) _ sameKey

theorem not_bodyRefused {instance? left : Option Survey} {w' t : World} {validated : SurveyData × Option Survey}
    (ran : runStatusField instance? body.status w = .ok (.ok left) w')
    (accepted : validateSurvey isPartial instance? body w = .ok validated t) : ¬ BodyRefused isPartial body := by
  rw [validateSurvey, bind_of_ok ran] at accepted
  obtain ⟨_, passed, _⟩ := query_bind_eq_ok_iff.mp accepted
  rw [raiseErrors_eq_ok] at passed
  simp only [List.forall_mem_cons, List.not_mem_nil, false_implies, implies_true, and_true] at passed
  rw [BodyRefused, passed.1, passed.2]
  simp

theorem served_surveyUpdate : Served py w ⟨user, order, encryptValue, .updateSurvey pk isPartial body⟩
    (ending (surveyUpdate user pk isPartial body) w) := by
  apply served_requireAdmin_bind
  intro admin
  apply served_getOr404_bind
  intro current found
  have sameKey : current.id = pk := w.db.surveys.keyed pk current found
  subst sameKey
  cases statusField_cases ⟨user, isPartial, body⟩ current.id w current with
  | inl written =>
    obtain ⟨value, writes, _⟩ := written
    have ran := runStatusField_of_writes found writes
    cases validateSurvey_of_status isPartial ran with
    | inl refused =>
      obtain ⟨_, refused⟩ := refused
      rw [ending_of_error (bind_of_error refused)]
      refine .statusWritten _ admin rfl ?_ found writes
      by_contra accepted
      rw [validateSurvey_of_accepted ran accepted] at refused
      cases refused
    | inr accepted =>
      obtain ⟨_, same, accepted⟩ := accepted
      cases same
      have saved : ending (surveyPerformUpdate (acceptedData body) (current.withStatus value))
          { w with db := w.db.setStatus current.id value } = (none, refreshed current.id w
            { w.db with surveys := w.db.surveys.save ((acceptedData body).assign current) }) := by
        have given : body.status = .given value := writes.1
        have sameRow : (acceptedData body).assign (current.withStatus value) = (acceptedData body).assign current := by
          simp [acceptedData, SurveyData.assign, given, Submitted.value?, Survey.withStatus]
        rw [← @save_setStatus w.db current _ value (show ((acceptedData body).assign current).id = current.id from rfl),
          ← sameRow]
        rfl
      rw [ending_bind_of_ok accepted]
      exact (congrArg (Served py w _) saved).mpr (.surveyUpdated admin rfl (not_bodyRefused ran accepted) found
        (Or.inr ⟨value, writes⟩))
  | inr kept =>
    obtain ⟨_, result, ran, kept⟩ := kept
    cases validateSurvey_of_status isPartial ran with
    | inl refused =>
      obtain ⟨_, refused⟩ := refused
      rw [ending_of_error (bind_of_error refused)]
      exact .refused _
    | inr accepted =>
      obtain ⟨_, rfl, accepted⟩ := accepted
      cases kept with
      | inl passed =>
        obtain ⟨same, sameStatus, _⟩ := passed
        cases same
        rw [ending_bind_of_ok accepted]
        exact .surveyUpdated admin rfl (not_bodyRefused ran accepted) found (Or.inl sameStatus)
      | inr refused =>
        obtain ⟨_, same⟩ := refused.1
        cases same

theorem served_surveyDestroy : Served py w ⟨user, order, encryptValue, .destroySurvey pk⟩
    (ending (surveyDestroy user pk) w) := by
  apply served_requireAdmin_bind
  intro admin
  apply served_getOr404_bind
  intro current found
  have sameKey : current.id = pk := w.db.surveys.keyed pk current found
  subst sameKey
  exact .surveyDeleted admin rfl found

end Surveys

/-! ## What the serializers return

The validated data depends on the body alone. -/

section Serializers

variable {py : Interpreter} {isPartial : Bool}

theorem validateSection_eq_ok {body : SectionBody} {data : SectionData}
    (validated : validateSection isPartial body = .ok data) :
    data = ⟨body.title.value?, body.description.value?, body.order.value?⟩ := by
  simp only [validateSection, bind_eq_ok, pure_eq_ok] at validated
  obtain ⟨_, _, same⟩ := validated
  exact same

theorem validateField_eq_ok {current : Field} {body : FieldBody} {data : FieldData}
    (validated : validateField py isPartial current body = .ok data) :
    data = ⟨body.label.value?, body.fieldType.value?, body.required.value?, body.order.value?,
      (body.options.convert notNull).value?, body.isEncrypted.value?, (body.validationRules.convert notNull).value?⟩ := by
  simp only [validateField, validateFieldData, bind_eq_ok, pure_eq_ok] at validated
  obtain ⟨_, _, _, _, _, _, same⟩ := validated
  exact same

/-- A submitted order is the one that is stored. -/
theorem order_of_given {submitted : Option Nat} {orders : List Nat} {order number : Nat}
    (numbered : (pure (submitted.getD (nextOrder orders)) : Except PyExn Nat) = .ok number)
    (given : submitted = some order) : number = order := by
  subst given
  exact (Except.ok.inj numbered).symm

end Serializers

/-! ## Sections -/

section Sections

variable {py : Interpreter} {w : World} {user : User} {order : SetOrder} {encryptValue : Encryption} {isPartial : Bool}
  {surveyPk pk : Nat} {body : SectionBody}

theorem served_sectionCreate : Served py w ⟨user, order, encryptValue, .createSection surveyPk body⟩
    (ending (sectionCreate user surveyPk body) w) := by
  apply served_requireAdmin_bind
  intro admin
  apply served_query_bind
  intro data validated
  apply served_draftSurvey_bind
  intro draft survey sameKey
  subst sameKey
  apply served_query_bind
  intro number numbered
  apply served_bind (fun _ _ => translating_insert_eq_error)
  intro row t returned
  obtain ⟨rfl, checked, rfl⟩ := Model.insert_eq_ok_iff.mp (translating_eq_ok_iff.mp returned)
  exact @Served.sectionCreated py w ⟨user, order, encryptValue, .createSection survey.id body⟩
    (({ data with order := some number } : SectionData).assign ⟨0, survey.id, "", "", 0⟩) body admin rfl draft
    (fun given isGiven => order_of_given numbered (validateSection_eq_ok validated ▸ isGiven ▸ rfl)) checked

theorem served_sectionUpdate : Served py w ⟨user, order, encryptValue, .updateSection surveyPk pk isPartial body⟩
    (ending (sectionUpdate user surveyPk pk isPartial body) w) := by
  apply served_requireAdmin_bind
  intro admin
  apply served_getOr404_bind
  intro _ _
  apply served_getOr404_bind
  intro current found
  obtain ⟨stored, rfl, rfl⟩ := getSection_eq_some found
  apply served_query_bind
  intro data validated
  apply served_ensureDraftSurveyOf_bind
  intro draft
  apply served_translating
  apply served_of_cases (fun _ _ => updateSection_eq_error)
  intro _ t returned
  obtain ⟨checked, revalidated, _, rfl⟩ := (updateSection_eq_ok_iff stored).mp returned
  exact .sectionUpdated admin rfl validated stored draft checked revalidated

theorem served_sectionDestroy : Served py w ⟨user, order, encryptValue, .destroySection surveyPk pk⟩
    (ending (sectionDestroy user surveyPk pk) w) := by
  apply served_requireAdmin_bind
  intro admin
  apply served_getOr404_bind
  intro _ _
  apply served_getOr404_bind
  intro current found
  obtain ⟨stored, rfl, rfl⟩ := getSection_eq_some found
  apply served_ensureDraftSurveyOf_bind
  intro draft
  exact .sectionDeleted admin rfl stored draft

end Sections

/-! ## Fields -/

section Fields

variable {py : Interpreter} {w : World} {user : User} {order : SetOrder} {encryptValue : Encryption} {isPartial : Bool}
  {surveyPk sectionPk pk : Nat} {body : FieldBody}

theorem served_fieldCreate : Served py w ⟨user, order, encryptValue, .createField surveyPk sectionPk body⟩
    (ending (fieldCreate py user surveyPk sectionPk body) w) := by
  apply served_requireAdmin_bind
  intro admin
  apply served_query_bind
  intro data validated
  apply served_getOr404_bind
  intro _ _
  apply served_getOr404_bind
  intro parent found
  obtain ⟨stored, rfl, rfl⟩ := getSection_eq_some found
  apply served_ensureDraftSurveyOf_bind
  intro draft
  apply served_query_bind
  intro number numbered
  apply served_translating
  apply served_bind (fun _ _ => translating_insert_eq_error)
  intro row t returned
  obtain ⟨rfl, checked, rfl⟩ := Model.insert_eq_ok_iff.mp (translating_eq_ok_iff.mp returned)
  exact @Served.fieldCreated py w ⟨user, order, encryptValue, .createField parent.surveyId parent.id body⟩
    (({ data with order := some number } : FieldData).assign (blankField parent.id)) parent body admin rfl rfl stored draft
    (fun given isGiven => order_of_given numbered (validateField_eq_ok validated ▸ isGiven ▸ rfl)) checked

/-- The section of the URL is the section of the field. -/
theorem section_of_getField {parent : Section} {current : PlacedField} (parentStored : w.db.sections.get parent.id = some parent)
    (stored : w.db.placedField current.id = some current) (inSection : current.sectionId = parent.id) :
    current.sectionRow = parent := by
  have placed := (Database.placedField_eq_some.mp stored).2
  rw [inSection, parentStored, Option.some.injEq] at placed
  exact placed.symm

theorem served_fieldUpdate : Served py w ⟨user, order, encryptValue, .updateField surveyPk sectionPk pk isPartial body⟩
    (ending (fieldUpdate py user surveyPk sectionPk pk isPartial body) w) := by
  apply served_requireAdmin_bind
  intro admin
  apply served_getOr404_bind
  intro _ _
  apply served_getOr404_bind
  intro parent parentFound
  obtain ⟨parentStored, rfl, rfl⟩ := getSection_eq_some parentFound
  apply served_getOr404_bind
  intro current found
  obtain ⟨stored, inSection, rfl⟩ := getField_eq_some found
  have sameSection := section_of_getField parentStored stored inSection
  subst sameSection
  apply served_query_bind
  intro data validated
  apply served_ensureDraftSurveyOf_bind
  intro draft
  apply served_translating
  apply served_of_cases (fun _ _ => updateField_eq_error)
  intro _ t returned
  obtain ⟨old, listed, checked, revalidated, _, rfl⟩ :=
    (updateField_eq_ok_iff (Database.placedField_eq_some.mp stored).1).mp returned
  exact .fieldUpdated admin (by rw [PlacedField.surveyId, inSection]) validated stored draft checked
    ⟨old, listed, revalidated⟩

theorem served_fieldDestroy : Served py w ⟨user, order, encryptValue, .destroyField surveyPk sectionPk pk⟩
    (ending (fieldDestroy user surveyPk sectionPk pk) w) := by
  apply served_requireAdmin_bind
  intro admin
  apply served_getOr404_bind
  intro _ _
  apply served_getOr404_bind
  intro parent parentFound
  obtain ⟨parentStored, rfl, rfl⟩ := getSection_eq_some parentFound
  apply served_getOr404_bind
  intro current found
  obtain ⟨stored, inSection, rfl⟩ := getField_eq_some found
  have sameSection := section_of_getField parentStored stored inSection
  subst sameSection
  apply served_ensureDraftSurveyOf_bind
  intro draft
  exact .fieldDeleted admin (by rw [PlacedField.surveyId, inSection]) stored draft

end Fields

/-! ## Rules and dependencies -/

section Rules

variable {py : Interpreter} {w : World} {user : User} {order : SetOrder} {encryptValue : Encryption} {isPartial : Bool}
  {surveyPk pk : Nat}

theorem validateConditionalRule_eq_ok {body : ConditionalRuleBody} {data : ConditionalRuleData}
    (validated : validateConditionalRule py w.db surveyPk isPartial body = .ok data) :
    conditionalRuleFields w.db isPartial body = .ok data ∧ RuleAccepted py data surveyPk := by
  simp only [validateConditionalRule, bind_eq_ok, translated_eq_ok, pure_eq_ok] at validated
  obtain ⟨_, fields, _, accepted, rfl⟩ := validated
  exact ⟨fields, validateConditionalRuleData_eq_ok.mp accepted⟩

theorem validateFieldDependency_eq_ok {body : FieldDependencyBody} {data : FieldDependencyData}
    (validated : validateFieldDependency py w.db surveyPk isPartial body = .ok data) :
    fieldDependencyFields w.db isPartial body = .ok data ∧
      DependencyAccepted py w.db.conditionalRules.rows data surveyPk := by
  simp only [validateFieldDependency, bind_eq_ok, translated_eq_ok, pure_eq_ok] at validated
  obtain ⟨_, fields, _, accepted, rfl⟩ := validated
  exact ⟨fields, validateFieldDependencyData_eq_ok.mp accepted⟩

/-- A valid body, and then no attribute `survey`. -/
theorem served_conditionalRuleCreate {body : ConditionalRuleBody} :
    Served py w ⟨user, order, encryptValue, .createConditionalRule surveyPk body⟩
      (ending (conditionalRuleCreate py order user surveyPk body) w) :=
  served_requireAdmin_bind fun _ => served_query_bind fun _ _ => .refused _

theorem served_conditionalRuleUpdate {body : ConditionalRuleBody} :
    Served py w ⟨user, order, encryptValue, .updateConditionalRule surveyPk pk isPartial body⟩
      (ending (conditionalRuleUpdate py order user surveyPk pk isPartial body) w) := by
  apply served_requireAdmin_bind
  intro admin
  apply served_getOr404_bind
  intro current found
  have sameKey : current.id = pk := w.db.conditionalRules.keyed pk current (Option.filter_eq_some_iff.mp found).1
  obtain ⟨stored, rfl⟩ := getConditionalRule_stored found
  subst sameKey
  apply served_query_bind
  intro data validated
  obtain ⟨fields, accepted⟩ := validateConditionalRule_eq_ok validated
  apply served_draftSurvey_bind
  intro draft _ _
  apply served_query_bind
  intro _ circular
  rw [checkCircularCr, translated_eq_ok] at circular
  apply served_of_cases
  · intro exn t raised
    exact saveFields_eq_error (then_invalidate_eq_error raised)
  · intro _ t returned
    obtain ⟨checked, _, rfl⟩ := (updateConditionalRule_eq_ok_iff stored).mp returned
    exact .ruleUpdated admin rfl fields accepted (detectCircularDependenciesCr_checkable circular) stored draft checked

theorem served_conditionalRuleDestroy : Served py w ⟨user, order, encryptValue, .destroyConditionalRule surveyPk pk⟩
    (ending (conditionalRuleDestroy user surveyPk pk) w) := by
  apply served_requireAdmin_bind
  intro admin
  apply served_getOr404_bind
  intro current found
  have sameKey : current.id = pk := w.db.conditionalRules.keyed pk current (Option.filter_eq_some_iff.mp found).1
  obtain ⟨stored, rfl⟩ := getConditionalRule_stored found
  subst sameKey
  apply served_draftSurvey_bind
  intro draft _ _
  exact .ruleDeleted admin rfl stored draft

theorem served_fieldDependencyCreate {body : FieldDependencyBody} :
    Served py w ⟨user, order, encryptValue, .createFieldDependency surveyPk body⟩
      (ending (fieldDependencyCreate py order user surveyPk body) w) := by
  apply served_requireAdmin_bind
  intro admin
  apply served_query_bind
  intro data validated
  obtain ⟨fields, accepted⟩ := validateFieldDependency_eq_ok validated
  apply served_draftSurvey_bind
  intro draft _ _
  apply served_query_bind
  intro _ circular
  rw [checkCircularFd, translated_eq_ok] at circular
  apply served_bind (fun _ _ => insert_eq_error)
  intro row t returned
  obtain ⟨rfl, checked, rfl⟩ := Model.insert_eq_ok_iff.mp returned
  exact .dependencyCreated admin rfl fields accepted (detectCircularDependenciesFd_checkable circular) draft rfl checked

theorem served_fieldDependencyUpdate {body : FieldDependencyBody} :
    Served py w ⟨user, order, encryptValue, .updateFieldDependency surveyPk pk isPartial body⟩
      (ending (fieldDependencyUpdate py order user surveyPk pk isPartial body) w) := by
  apply served_requireAdmin_bind
  intro admin
  apply served_getOr404_bind
  intro current found
  have sameKey : current.id = pk := w.db.fieldDependencies.keyed pk current (Option.filter_eq_some_iff.mp found).1
  obtain ⟨stored, rfl⟩ := getFieldDependency_stored found
  subst sameKey
  apply served_query_bind
  intro data validated
  obtain ⟨fields, accepted⟩ := validateFieldDependency_eq_ok validated
  apply served_draftSurvey_bind
  intro draft _ _
  apply served_query_bind
  intro _ circular
  rw [checkCircularFd, translated_eq_ok] at circular
  apply served_of_cases
  · intro exn t raised
    exact saveFields_eq_error (then_invalidate_eq_error raised)
  · intro _ t returned
    obtain ⟨checked, _, rfl⟩ := (updateFieldDependency_eq_ok_iff stored).mp returned
    exact .dependencyUpdated admin rfl fields accepted (detectCircularDependenciesFd_checkable circular) stored draft
      checked

theorem served_fieldDependencyDestroy : Served py w ⟨user, order, encryptValue, .destroyFieldDependency surveyPk pk⟩
    (ending (fieldDependencyDestroy user surveyPk pk) w) := by
  apply served_requireAdmin_bind
  intro admin
  apply served_getOr404_bind
  intro current found
  have sameKey : current.id = pk := w.db.fieldDependencies.keyed pk current (Option.filter_eq_some_iff.mp found).1
  obtain ⟨stored, rfl⟩ := getFieldDependency_stored found
  subst sameKey
  apply served_draftSurvey_bind
  intro draft _ _
  exact .dependencyDeleted admin rfl stored draft

end Rules

/-! ## Submissions -/

section Submissions

variable {py : Interpreter} {w : World} {user : User} {order : SetOrder} {encryptValue : Encryption} {surveyPk : Nat}
  {answers : Submitted (List Answer)}

theorem createSubmission_checked {survey : Survey} {cleaned : Dict String Json} {surveyFields : Nat → Option Field}
    {row : SurveyResponse} {w' : World}
    (created : createSubmission py encryptValue survey user cleaned surveyFields w = .ok row w') :
    surveyResponseConstraints w.db row = .ok () := by
  obtain ⟨_, _, same, _⟩ := createSubmission_ok created
  rw [createSubmission_eq py encryptValue survey user cleaned surveyFields w same] at created
  split at created
  · cases created
  · rename_i checked
    exact checked

/-- A submission is refused, answered with its errors, or stored and answered with its number. -/
theorem submit_cases (py : Interpreter) (order : SetOrder) (encryptValue : Encryption) (user : User) (surveyPk : Nat)
    (answers : Submitted (List Answer)) (w : World) :
    (∃ exn, submit py order encryptValue user surveyPk answers w = .error exn w) ∨
      (∃ errors, submit py order encryptValue user surveyPk answers w = .ok (.errors errors) w) ∨
      ∃ row cleaned prepared, row.surveyId = surveyPk ∧ user.role = .customer ∧ Published row.surveyId w.db ∧
        row.id = w.db.responses.next ∧ row.userId = user.id ∧ surveyResponseConstraints w.db row = .ok () ∧
        CleanedAnswers py order w row.surveyId answers cleaned ∧
        List.Forall₂ (Prepared py encryptValue fun id => fieldOfSurvey w.db row.surveyId id) cleaned.entries prepared ∧
        submit py order encryptValue user surveyPk answers w = .ok (.created row.id)
          (withDb w (bulkCreate row.id prepared { w.db with responses := w.db.responses.save row })) := by
  rw [submit]
  by_cases customer : user.role = .customer
  case neg => exact Or.inl ⟨_, query_bind_of_error (if_neg customer)⟩
  rw [query_bind_of_ok (if_pos customer)]
  cases found : (w.db.surveys.get surveyPk).filter (·.status = .published) with
  | none => exact Or.inl ⟨_, getOr404_bind_of_none found⟩
  | some survey =>
    rw [getOr404_bind_of_some found]
    obtain ⟨stored, published⟩ := Option.filter_eq_some_iff.mp found
    have sameKey : survey.id = surveyPk := w.db.surveys.keyed surveyPk survey stored
    subst sameKey
    cases validated : validateAnswers w.db answers with
    | error exn => exact Or.inl ⟨exn, query_bind_of_error validated⟩
    | ok given =>
      rw [query_bind_of_ok validated, query_bind_of_ok rfl]
      cases built : answersDict w.db survey.id given Dict.empty with
      | error errors => exact Or.inr (Or.inl ⟨errors, rfl⟩)
      | ok dict =>
        simp only [respondErrors, reading_bind]
        cases passed : validateSubmission py order (prefetchSurveyStructure w.db survey.id) dict with
        | error exn =>
          cases exn with
          | invalid errors => exact Or.inr (Or.inl ⟨errors, rfl⟩)
          | raised exn => exact Or.inl ⟨exn, rfl⟩
        | ok cleaned =>
          have accepted : CleanedAnswers py order w survey.id answers cleaned := ⟨given, dict, validated, built, passed⟩
          dsimp only
          cases created : createSubmission py encryptValue survey user cleaned (fun id => fieldOfSurvey w.db survey.id id) w with
          | error exn t =>
            rw [bind_of_error created, createSubmission_error_world created]
            cases exn with
            | invalid errors => exact Or.inr (Or.inl ⟨errors, rfl⟩)
            | raised exn => exact Or.inl ⟨exn, rfl⟩
          | ok row t =>
            rw [bind_of_ok created]
            have checked := createSubmission_checked created
            obtain ⟨prepared, ready, rfl, rfl⟩ := createSubmission_ok created
            refine Or.inr (Or.inr ⟨_, cleaned, prepared, rfl, customer, ⟨survey, stored, by simpa using published⟩, rfl,
              rfl, checked, accepted, ?_, rfl⟩)
            exact prepareFieldResponses_ok (fun id field found => (fieldOfSurvey_eq_some found).2.1)
              (cleaned_fromFields accepted) ready

theorem served_submit : Served py w ⟨user, order, encryptValue, .submit surveyPk answers⟩
    (ending (submit py order encryptValue user surveyPk answers) w) := by
  obtain ⟨exn, ends⟩ | ⟨errors, ends⟩ | ⟨row, cleaned, prepared, rfl, customer, published, new, submitter, checked,
    accepted, ready, ends⟩ := submit_cases py order encryptValue user surveyPk answers w
  · rw [ending_of_error ends]
    exact .refused exn
  · rw [ending_of_ok ends]
    exact .invalid rfl
  · rw [ending_of_ok ends]
    exact .submitted customer rfl published new submitter checked accepted ready

end Submissions

/-! ## Every call -/

/-- Every call of the API ends in one of these ways. -/
theorem served (py : Interpreter) (w : World) (call : Call) : Served py w call (ending (call.procedure py) w) := by
  obtain ⟨user, order, encryptValue, request⟩ := call
  -- the view's answer is dropped
  cases request with
  | createSurvey body => exact (ending_bind_pure _ _ w).symm ▸ served_surveyCreate
  | updateSurvey pk isPartial body => exact (ending_bind_pure _ _ w).symm ▸ served_surveyUpdate
  | destroySurvey pk => exact served_surveyDestroy
  | createSection surveyPk body => exact (ending_bind_pure _ _ w).symm ▸ served_sectionCreate
  | updateSection surveyPk pk isPartial body => exact (ending_bind_pure _ _ w).symm ▸ served_sectionUpdate
  | destroySection surveyPk pk => exact served_sectionDestroy
  | createField surveyPk sectionPk body => exact (ending_bind_pure _ _ w).symm ▸ served_fieldCreate
  | updateField surveyPk sectionPk pk isPartial body => exact (ending_bind_pure _ _ w).symm ▸ served_fieldUpdate
  | destroyField surveyPk sectionPk pk => exact served_fieldDestroy
  | createConditionalRule surveyPk body => exact (ending_bind_pure _ _ w).symm ▸ served_conditionalRuleCreate
  | updateConditionalRule surveyPk pk isPartial body =>
    exact (ending_bind_pure _ _ w).symm ▸ served_conditionalRuleUpdate
  | destroyConditionalRule surveyPk pk => exact served_conditionalRuleDestroy
  | createFieldDependency surveyPk body => exact (ending_bind_pure _ _ w).symm ▸ served_fieldDependencyCreate
  | updateFieldDependency surveyPk pk isPartial body =>
    exact (ending_bind_pure _ _ w).symm ▸ served_fieldDependencyUpdate
  | destroyFieldDependency surveyPk pk => exact served_fieldDependencyDestroy
  | submit surveyPk answers => exact (ending_bind_pure _ _ w).symm ▸ served_submit

/-- The same of the world a call leaves. -/
theorem handle_served (py : Interpreter) (w : World) (call : Call) :
    ∃ raised, Served py w call (raised, handle py w call) := by
  have ends := served py w call
  rw [← Prod.mk.eta (p := ending (call.procedure py) w), ending_snd] at ends
  exact ⟨_, ends⟩

/-! ## Stored responses -/

/-- The request is a customer's submission that is stored as this response. -/
structure Submits (py : Interpreter) (w : World) (call : Call) (row : SurveyResponse) (answers : Submitted (List Answer))
    (cleaned : Dict String Json) (prepared : List (Nat × String)) : Prop where
  request : call.request = .submit row.surveyId answers
  customer : call.user.role = .customer
  submitter : row.userId = call.user.id
  new : row.id = w.db.responses.next
  isPublished : Published row.surveyId w.db
  accepted : CleanedAnswers py call.order w row.surveyId answers cleaned
  ready : List.Forall₂ (Prepared py call.encryptValue fun id => fieldOfSurvey w.db row.surveyId id) cleaned.entries prepared

/-- A response is as it was, or the one of a submission. -/
theorem Served.response_cases {py : Interpreter} {w : World} {call : Call} {ends : Option PyExn × World}
    (served : Served py w call ends) {row : SurveyResponse} (stored : ends.2.db.responses.get row.id = some row) :
    w.db.responses.get row.id = some row ∨ ∃ answers cleaned prepared, Submits py w call row answers cleaned prepared ∧
      ends.2.db = bulkCreate row.id prepared { w.db with responses := w.db.responses.save row } := by
  cases served with
  | submitted customer request isPublished new submitter checked accepted ready =>
    rename_i response answers _ prepared
    replace stored : (bulkCreate response.id prepared { w.db with responses := w.db.responses.save response }).responses.get
        row.id = some row := stored
    rw [bulkCreate_eq] at stored
    replace stored : (w.db.responses.save response).get row.id = some row := stored
    rw [Table.get_save] at stored
    split at stored
    · cases stored
      exact Or.inr ⟨answers, _, prepared, ⟨request, customer, submitter, new, isPublished, accepted, ready⟩, rfl⟩
    · exact Or.inl stored
  | surveyDeleted => exact Or.inl (Option.filter_eq_some_iff.mp stored).1
  | _ => exact Or.inl stored

/-! ## Updates and deletes, by their request -/

section Requests

variable {py : Interpreter} {w : World} {call : Call} {ends : Option PyExn × World}
  {surveyPk sectionPk pk : Nat} {isPartial : Bool}

theorem Served.of_updateSurvey {body : SurveyBody} (served : Served py w call ends)
    (request : call.request = .updateSurvey pk isPartial body) :
    ends.2 = w ∨ ∃ survey, survey.id = pk ∧ w.db.surveys.get pk = some survey ∧
      ((BodyRefused isPartial body ∧ ∃ status, WritesStatus w.db survey body.status status ∧
          ends.2 = withDb w (w.db.setStatus pk status)) ∨
        (¬ BodyRefused isPartial body ∧ ends.2 = refreshed pk w
          { w.db with surveys := w.db.surveys.save ((acceptedData body).assign survey) })) := by
  cases served with
  | refused => exact Or.inl rfl
  | statusWritten exn admin request' refused stored writes =>
    cases request.symm.trans request'
    exact Or.inr ⟨_, rfl, stored, Or.inl ⟨refused, _, writes, rfl⟩⟩
  | surveyUpdated admin request' valid stored =>
    cases request.symm.trans request'
    exact Or.inr ⟨_, rfl, stored, Or.inr ⟨valid, rfl⟩⟩
  | _ => cases request.symm.trans ‹call.request = _›

theorem Served.of_destroySurvey (served : Served py w call ends) (request : call.request = .destroySurvey pk) :
    ends.2 = w ∨ (w.db.surveys.get pk).isSome = true ∧
      ends.2 = invalidated "None" (withDb w (w.db.deleteSurvey pk)) := by
  cases served with
  | refused => exact Or.inl rfl
  | surveyDeleted admin request' stored =>
    cases request.symm.trans request'
    exact Or.inr ⟨Option.isSome_of_mem stored, rfl⟩
  | _ => cases request.symm.trans ‹call.request = _›

theorem Served.of_updateSection {body : SectionBody} (served : Served py w call ends)
    (request : call.request = .updateSection surveyPk pk isPartial body) :
    ends.2 = w ∨ ∃ row data, row.id = pk ∧ validateSection isPartial body = .ok data ∧
      w.db.sections.get pk = some row ∧ ends.2 = refreshed surveyPk w
        { w.db with sections := w.db.sections.save (data.assign row) } := by
  cases served with
  | refused => exact Or.inl rfl
  | sectionUpdated admin request' validated stored =>
    cases request.symm.trans request'
    exact Or.inr ⟨_, _, rfl, validated, stored, rfl⟩
  | _ => cases request.symm.trans ‹call.request = _›

theorem Served.of_destroySection (served : Served py w call ends)
    (request : call.request = .destroySection surveyPk pk) :
    ends.2 = w ∨ (w.db.sections.get pk).isSome = true ∧
      ends.2 = refreshed surveyPk w (w.db.deleteSections (· == pk)) := by
  cases served with
  | refused => exact Or.inl rfl
  | sectionDeleted admin request' stored =>
    cases request.symm.trans request'
    exact Or.inr ⟨Option.isSome_of_mem stored, rfl⟩
  | _ => cases request.symm.trans ‹call.request = _›

theorem Served.of_updateField {body : FieldBody} (served : Served py w call ends)
    (request : call.request = .updateField surveyPk sectionPk pk isPartial body) :
    ends.2 = w ∨ ∃ row data, row.id = pk ∧ validateField py isPartial row body = .ok data ∧
      w.db.fields.get pk = some row ∧ ends.2 = refreshed surveyPk w
        { w.db with fields := w.db.fields.save (data.assign row) } := by
  cases served with
  | refused => exact Or.inl rfl
  | fieldUpdated admin request' validated stored =>
    cases request.symm.trans request'
    exact Or.inr ⟨_, _, rfl, validated, (Database.placedField_eq_some.mp stored).1, rfl⟩
  | _ => cases request.symm.trans ‹call.request = _›

theorem Served.of_destroyField (served : Served py w call ends)
    (request : call.request = .destroyField surveyPk sectionPk pk) :
    ends.2 = w ∨ (w.db.fields.get pk).isSome = true ∧
      ends.2 = refreshed surveyPk w (w.db.deleteFields (· == pk)) := by
  cases served with
  | refused => exact Or.inl rfl
  | fieldDeleted admin request' stored =>
    cases request.symm.trans request'
    exact Or.inr ⟨Option.isSome_of_mem (Database.placedField_eq_some.mp stored).1, rfl⟩
  | _ => cases request.symm.trans ‹call.request = _›

theorem Served.of_updateConditionalRule {body : ConditionalRuleBody} (served : Served py w call ends)
    (request : call.request = .updateConditionalRule surveyPk pk isPartial body) :
    (ends.1 ≠ none ∧ ends.2 = w) ∨ ∃ row data, row.id = pk ∧ row.surveyId = surveyPk ∧
      conditionalRuleFields w.db isPartial body = .ok data ∧ w.db.conditionalRules.get pk = some row ∧
      ends.2 = refreshed surveyPk w { w.db with conditionalRules := w.db.conditionalRules.save (data.assign row) } := by
  cases served with
  | refused exn => exact Or.inl ⟨Option.some_ne_none exn, rfl⟩
  | ruleUpdated admin request' fields accepted checkable stored =>
    cases request.symm.trans request'
    exact Or.inr ⟨_, _, rfl, rfl, fields, stored, rfl⟩
  | _ => cases request.symm.trans ‹call.request = _›

theorem Served.of_destroyConditionalRule (served : Served py w call ends)
    (request : call.request = .destroyConditionalRule surveyPk pk) :
    ends.2 = w ∨ (w.db.conditionalRules.get pk).isSome = true ∧ ends.2 = refreshed surveyPk w
      { w.db with conditionalRules := w.db.conditionalRules.deleteWhere (·.id == pk) } := by
  cases served with
  | refused => exact Or.inl rfl
  | ruleDeleted admin request' stored =>
    cases request.symm.trans request'
    exact Or.inr ⟨Option.isSome_of_mem stored, rfl⟩
  | _ => cases request.symm.trans ‹call.request = _›

theorem Served.of_updateFieldDependency {body : FieldDependencyBody} (served : Served py w call ends)
    (request : call.request = .updateFieldDependency surveyPk pk isPartial body) :
    ends.2 = w ∨ ∃ row data, row.id = pk ∧ fieldDependencyFields w.db isPartial body = .ok data ∧
      w.db.fieldDependencies.get pk = some row ∧ ends.2 = refreshed surveyPk w
        { w.db with fieldDependencies := w.db.fieldDependencies.save (data.assign row) } := by
  cases served with
  | refused => exact Or.inl rfl
  | dependencyUpdated admin request' fields accepted checkable stored =>
    cases request.symm.trans request'
    exact Or.inr ⟨_, _, rfl, fields, stored, rfl⟩
  | _ => cases request.symm.trans ‹call.request = _›

theorem Served.of_destroyFieldDependency (served : Served py w call ends)
    (request : call.request = .destroyFieldDependency surveyPk pk) :
    ends.2 = w ∨ (w.db.fieldDependencies.get pk).isSome = true ∧ ends.2 = refreshed surveyPk w
      { w.db with fieldDependencies := w.db.fieldDependencies.deleteWhere (·.id == pk) } := by
  cases served with
  | refused => exact Or.inl rfl
  | dependencyDeleted admin request' stored =>
    cases request.symm.trans request'
    exact Or.inr ⟨Option.isSome_of_mem stored, rfl⟩
  | _ => cases request.symm.trans ‹call.request = _›

end Requests

end SurveyPlatform.Verified

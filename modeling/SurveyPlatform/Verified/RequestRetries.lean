import SurveyPlatform.Library.Histories
import SurveyPlatform.Verified.RequestOutcomes

/-! # Requests delivered more than once

A client that got no answer sends its request again.  An update or a delete that is
delivered again changes nothing more (`handle_handle`), so a run in which they are
repeated ends in the world of the run that has each once (`run_repeated`).  Creations
and submissions are sent once: refused or not, a second one takes numbers of its own.
-/

namespace SurveyPlatform.Verified

open SurveyPlatform.Library SurveyPlatform.Library.Program SurveyPlatform.Python
open SurveyPlatform.Surveys SurveyPlatform.Responses

/-! ## Requests that may be repeated -/

/-- Everything but a creation and a submission. -/
def Retryable : Request → Prop
  | .updateSurvey _ _ _ | .destroySurvey _
  | .updateSection _ _ _ _ | .destroySection _ _
  | .updateField _ _ _ _ _ | .destroyField _ _ _
  | .updateConditionalRule _ _ _ _ | .destroyConditionalRule _ _
  | .updateFieldDependency _ _ _ _ | .destroyFieldDependency _ _ => True
  | _ => False

section Retries

variable {py : Interpreter} {w : World} {call : Call} {surveyPk sectionPk pk : Nat} {isPartial : Bool}

theorem refreshed_refreshed (surveyId : Nat) (w : World) (db : Database) :
    refreshed surveyId (refreshed surveyId w db) db = refreshed surveyId w db := by
  simp only [refreshed, invalidated, withDb, World.mk.injEq, true_and]
  funext key
  split <;> rfl

theorem surveyData_assign_assign (data : SurveyData) (row : Survey) : data.assign (data.assign row) = data.assign row := by
  cases data with
  | mk title description status => cases title <;> cases description <;> cases status <;> rfl

theorem sectionData_assign_assign (data : SectionData) (row : Section) :
    data.assign (data.assign row) = data.assign row := by
  cases data with
  | mk title description order => cases title <;> cases description <;> cases order <;> rfl

theorem getD_getD {α : Type} (submitted : Option α) (stored : α) :
    submitted.getD (submitted.getD stored) = submitted.getD stored := by
  cases submitted <;> rfl

theorem fieldData_assign_assign (data : FieldData) (row : Field) : data.assign (data.assign row) = data.assign row := by
  simp only [FieldData.assign, getD_getD]

theorem assignKey_assignKey {α : Type} [Keyed α] (submitted : Option (Option α)) (stored : Option Nat) :
    assignKey submitted (assignKey submitted stored) = assignKey submitted stored := by
  cases submitted <;> rfl

theorem ruleData_assign_assign (data : ConditionalRuleData) (row : ConditionalRule) :
    data.assign (data.assign row) = data.assign row := by
  simp only [ConditionalRuleData.assign, getD_getD, assignKey_assignKey]

theorem dependencyData_assign_assign (data : FieldDependencyData) (row : FieldDependency) :
    data.assign (data.assign row) = data.assign row := by
  simp only [FieldDependencyData.assign, getD_getD]

/-- A row is read back and saved with the same columns. -/
theorem refreshed_save_again {α : Type} [Keyed α] (surveyId : Nat) (w : World) (store : Table α → Database)
    {t : Table α} {assign : α → α} (idempotent : ∀ row, assign (assign row) = assign row) {row row' : α}
    (keepsKey : key (assign row) = key row') (stored : (t.save (assign row)).get (key row') = some row') :
    refreshed surveyId (refreshed surveyId w (store (t.save (assign row))))
        (store ((t.save (assign row)).save (assign row'))) =
      refreshed surveyId w (store (t.save (assign row))) := by
  rw [Table.eq_of_get_save (assign row) keepsKey.symm stored, idempotent, Table.save_save, refreshed_refreshed]

/-! ## The second delivery -/

/-- A delete finds nothing to delete any more. -/
theorem again_of_gone {stored : Database → Bool} {after : World → World}
    (outcome : ∀ w, handle py w call = w ∨ stored w.db = true ∧ handle py w call = after w)
    (gone : ∀ w, stored (after w).db = false) (w : World) : handle py (handle py w call) call = handle py w call := by
  obtain unchanged | ⟨_, deleted⟩ := outcome w
  · exact congrArg (handle py · call) unchanged
  obtain unchanged | ⟨stored, _⟩ := outcome (handle py w call)
  · exact unchanged
  · rw [deleted, gone] at stored
    cases stored

theorem destroySurvey_again (request : call.request = .destroySurvey pk) (w : World) :
    handle py (handle py w call) call = handle py w call := by
  refine @again_of_gone _ _ (fun db => (db.surveys.get pk).isSome)
    (fun w => invalidated "None" (withDb w (w.db.deleteSurvey pk))) ?_ ?_ w
  · intro w
    obtain ⟨_, served⟩ := handle_served py w call
    exact served.of_destroySurvey request
  · exact fun w => Table.isSome_get_deleteWhere fun row stored => decide_eq_true (w.db.surveys.keyed pk row stored)

theorem destroySection_again (request : call.request = .destroySection surveyPk pk) (w : World) :
    handle py (handle py w call) call = handle py w call := by
  refine @again_of_gone _ _ (fun db => (db.sections.get pk).isSome)
    (fun w => refreshed surveyPk w (w.db.deleteSections (· == pk))) ?_ ?_ w
  · intro w
    obtain ⟨_, served⟩ := handle_served py w call
    exact served.of_destroySection request
  · exact fun w => Table.isSome_get_deleteWhere fun row stored => beq_iff_eq.mpr (w.db.sections.keyed pk row stored)

theorem destroyField_again (request : call.request = .destroyField surveyPk sectionPk pk) (w : World) :
    handle py (handle py w call) call = handle py w call := by
  refine @again_of_gone _ _ (fun db => (db.fields.get pk).isSome)
    (fun w => refreshed surveyPk w (w.db.deleteFields (· == pk))) ?_ ?_ w
  · intro w
    obtain ⟨_, served⟩ := handle_served py w call
    exact served.of_destroyField request
  · exact fun w => Table.isSome_get_deleteWhere fun row stored => beq_iff_eq.mpr (w.db.fields.keyed pk row stored)

theorem destroyConditionalRule_again (request : call.request = .destroyConditionalRule surveyPk pk) (w : World) :
    handle py (handle py w call) call = handle py w call := by
  refine @again_of_gone _ _ (fun db => (db.conditionalRules.get pk).isSome)
    (fun w => refreshed surveyPk w
      { w.db with conditionalRules := w.db.conditionalRules.deleteWhere (·.id == pk) }) ?_ ?_ w
  · intro w
    obtain ⟨_, served⟩ := handle_served py w call
    exact served.of_destroyConditionalRule request
  · intro w
    exact Table.isSome_get_deleteWhere fun row stored => beq_iff_eq.mpr (w.db.conditionalRules.keyed pk row stored)

theorem destroyFieldDependency_again (request : call.request = .destroyFieldDependency surveyPk pk) (w : World) :
    handle py (handle py w call) call = handle py w call := by
  refine @again_of_gone _ _ (fun db => (db.fieldDependencies.get pk).isSome)
    (fun w => refreshed surveyPk w
      { w.db with fieldDependencies := w.db.fieldDependencies.deleteWhere (·.id == pk) }) ?_ ?_ w
  · intro w
    obtain ⟨_, served⟩ := handle_served py w call
    exact served.of_destroyFieldDependency request
  · intro w
    exact Table.isSome_get_deleteWhere fun row stored => beq_iff_eq.mpr (w.db.fieldDependencies.keyed pk row stored)

theorem updateSurvey_again {body : SurveyBody}
    (request : call.request = .updateSurvey pk isPartial body) :
    handle py (handle py w call) call = handle py w call := by
  obtain ⟨_, first⟩ := handle_served py w call
  obtain ⟨_, again⟩ := handle_served py (handle py w call) call
  obtain unchanged | ⟨survey, rfl, stored, outcome⟩ := first.of_updateSurvey request
  · exact (congrArg (handle py · call) unchanged)
  obtain unchanged | ⟨survey', sameId, stored', outcome'⟩ := again.of_updateSurvey request
  · exact unchanged
  obtain ⟨refused, status, writes, written⟩ | ⟨valid, written⟩ := outcome
  · obtain ⟨_, status', writes', _⟩ | ⟨valid, _⟩ := outcome'
    · -- the status asked for is now the stored one
      replace written : handle py w call = withDb w (w.db.setStatus survey.id status) := written
      rw [written] at stored'
      have found : (w.db.setStatus survey.id status).surveys.get survey.id = some survey' := stored'
      simp only [Database.setStatus, Table.get_modify, if_true, stored, Option.map_some, Option.some.injEq] at found
      have same : status' = status := by
        have given := writes.1.symm.trans writes'.1
        cases given
        rfl
      exact absurd (same.trans (congrArg Survey.status found)) writes'.2.1
    · exact absurd refused valid
  · obtain ⟨refused, _⟩ | ⟨_, written'⟩ := outcome'
    · exact absurd refused valid
    · replace written : handle py w call = refreshed survey.id w
        { w.db with surveys := w.db.surveys.save ((acceptedData body).assign survey) } := written
      rw [written] at stored' written' ⊢
      refine written'.trans (refreshed_save_again survey.id w (fun surveys => { w.db with surveys })
        (surveyData_assign_assign (acceptedData body)) ?_ ?_)
      · exact sameId.symm
      · rw [← sameId] at stored'
        exact stored'

theorem updateSection_again {body : SectionBody}
    (request : call.request = .updateSection surveyPk pk isPartial body) :
    handle py (handle py w call) call = handle py w call := by
  obtain ⟨_, first⟩ := handle_served py w call
  obtain ⟨_, again⟩ := handle_served py (handle py w call) call
  obtain unchanged | ⟨row, data, rfl, validated, _, written⟩ := first.of_updateSection request
  · exact congrArg (handle py · call) unchanged
  obtain unchanged | ⟨row', data', sameId, validated', stored, written'⟩ := again.of_updateSection request
  · exact unchanged
  obtain rfl := (validateSection_eq_ok validated).trans (validateSection_eq_ok validated').symm
  replace written : handle py w call = refreshed surveyPk w
      { w.db with sections := w.db.sections.save (data.assign row) } := written
  rw [written] at stored written' ⊢
  refine written'.trans
    (refreshed_save_again surveyPk w (fun sections => { w.db with sections })
      (sectionData_assign_assign data) sameId.symm ?_)
  rw [← sameId] at stored
  exact stored

theorem updateField_again {body : FieldBody}
    (request : call.request = .updateField surveyPk sectionPk pk isPartial body) :
    handle py (handle py w call) call = handle py w call := by
  obtain ⟨_, first⟩ := handle_served py w call
  obtain ⟨_, again⟩ := handle_served py (handle py w call) call
  obtain unchanged | ⟨row, data, rfl, validated, _, written⟩ := first.of_updateField request
  · exact congrArg (handle py · call) unchanged
  obtain unchanged | ⟨row', data', sameId, validated', stored, written'⟩ := again.of_updateField request
  · exact unchanged
  obtain rfl := (validateField_eq_ok validated).trans (validateField_eq_ok validated').symm
  replace written : handle py w call = refreshed surveyPk w
      { w.db with fields := w.db.fields.save (data.assign row) } := written
  rw [written] at stored written' ⊢
  refine written'.trans
    (refreshed_save_again surveyPk w (fun fields => { w.db with fields })
      (fieldData_assign_assign data) sameId.symm ?_)
  rw [← sameId] at stored
  exact stored

theorem updateConditionalRule_again {body : ConditionalRuleBody}
    (request : call.request = .updateConditionalRule surveyPk pk isPartial body) :
    handle py (handle py w call) call = handle py w call := by
  obtain ⟨_, first⟩ := handle_served py w call
  obtain ⟨_, again⟩ := handle_served py (handle py w call) call
  obtain ⟨_, unchanged⟩ | ⟨row, data, rfl, _, fields, _, written⟩ := first.of_updateConditionalRule request
  · exact congrArg (handle py · call) unchanged
  obtain ⟨_, unchanged⟩ | ⟨row', data', sameId, _, fields', stored, written'⟩ := again.of_updateConditionalRule request
  · exact unchanged
  -- the rows that a body names are the same as before
  have sameRows : conditionalRuleFields (handle py w call).db isPartial body = .ok data := by
    rw [show handle py w call = _ from written]
    exact fields
  obtain rfl := Except.ok.inj (sameRows.symm.trans fields')
  replace written : handle py w call = refreshed surveyPk w
      { w.db with conditionalRules := w.db.conditionalRules.save (data.assign row) } := written
  rw [written] at stored written' ⊢
  refine written'.trans
    (refreshed_save_again surveyPk w (fun conditionalRules => { w.db with conditionalRules })
      (ruleData_assign_assign data) sameId.symm ?_)
  rw [← sameId] at stored
  exact stored

theorem updateFieldDependency_again {body : FieldDependencyBody}
    (request : call.request = .updateFieldDependency surveyPk pk isPartial body) :
    handle py (handle py w call) call = handle py w call := by
  obtain ⟨_, first⟩ := handle_served py w call
  obtain ⟨_, again⟩ := handle_served py (handle py w call) call
  obtain unchanged | ⟨row, data, rfl, fields, _, written⟩ := first.of_updateFieldDependency request
  · exact congrArg (handle py · call) unchanged
  obtain unchanged | ⟨row', data', sameId, fields', stored, written'⟩ := again.of_updateFieldDependency request
  · exact unchanged
  -- the rows that a body names are the same as before
  have sameRows : fieldDependencyFields (handle py w call).db isPartial body = .ok data := by
    rw [show handle py w call = _ from written]
    exact fields
  obtain rfl := Except.ok.inj (sameRows.symm.trans fields')
  replace written : handle py w call = refreshed surveyPk w
      { w.db with fieldDependencies := w.db.fieldDependencies.save (data.assign row) } := written
  rw [written] at stored written' ⊢
  refine written'.trans
    (refreshed_save_again surveyPk w (fun fieldDependencies => { w.db with fieldDependencies })
      (dependencyData_assign_assign data) sameId.symm ?_)
  rw [← sameId] at stored
  exact stored

/-- A request that comes again finds the world it left, and leaves it. -/
theorem handle_handle (retryable : Retryable call.request) : handle py (handle py w call) call = handle py w call := by
  cases request : call.request with
  | updateSurvey pk isPartial body => exact updateSurvey_again request
  | destroySurvey pk => exact destroySurvey_again request w
  | updateSection surveyPk pk isPartial body => exact updateSection_again request
  | destroySection surveyPk pk => exact destroySection_again request w
  | updateField surveyPk sectionPk pk isPartial body => exact updateField_again request
  | destroyField surveyPk sectionPk pk => exact destroyField_again request w
  | updateConditionalRule surveyPk pk isPartial body => exact updateConditionalRule_again request
  | destroyConditionalRule surveyPk pk => exact destroyConditionalRule_again request w
  | updateFieldDependency surveyPk pk isPartial body => exact updateFieldDependency_again request
  | destroyFieldDependency surveyPk pk => exact destroyFieldDependency_again request w
  | _ =>
    rw [request] at retryable
    exact retryable.elim

/-- At least once is as good as once: whatever update or delete arrived several times in
a row, the run ends in the world of the run in which everything arrived once. -/
theorem run_repeated {deliveries : List (Call × Nat)}
    (retryable : ∀ delivery ∈ deliveries, delivery.2 ≠ 0 → Retryable delivery.1.request) (w : World) :
    run (handle py) w (redelivered deliveries) = run (handle py) w (deliveries.map Prod.fst) :=
  run_redelivered (fun delivery member again _ => handle_handle (retryable delivery member again)) w

/-- A survey that is built with its section renamed three times and deleted twice. -/
theorem run_repeated_section : run (handle bareInterpreter) World.empty
    (redelivered [(adminCall (.createSurvey ⟨.given "Health", .missing, .missing⟩), 0),
      (adminCall (.createSection 1 ⟨.given "You", .missing, .given 1⟩), 0),
      (adminCall (.updateSection 1 1 true ⟨.given "Habits", .missing, .missing⟩), 2),
      (adminCall (.destroySurvey 1), 1)]) =
    run (handle bareInterpreter) World.empty [adminCall (.createSurvey ⟨.given "Health", .missing, .missing⟩),
      adminCall (.createSection 1 ⟨.given "You", .missing, .given 1⟩),
      adminCall (.updateSection 1 1 true ⟨.given "Habits", .missing, .missing⟩), adminCall (.destroySurvey 1)] := by
  apply run_repeated
  intro delivery member again
  simp only [List.mem_cons, List.not_mem_nil, or_false] at member
  obtain rfl | rfl | rfl | rfl := member
  · exact absurd rfl again
  · exact absurd rfl again
  · trivial
  · trivial

end Retries

end SurveyPlatform.Verified

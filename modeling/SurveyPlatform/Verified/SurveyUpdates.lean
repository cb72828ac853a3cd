import SurveyPlatform.Surveys.Steps
import Mathlib.Logic.Function.Iterate

/-! # Updating a survey

The serializer of a survey update may write the new status before another field
of the body is refused.  So a rejected update leaves the row as it was exactly
when the body asks for no status, for the stored one, or for one that is refused
itself (`rejectedUpdate_unchanged_iff`).
-/

namespace SurveyPlatform.Verified

open SurveyPlatform.Library SurveyPlatform.Library.Program SurveyPlatform.Python SurveyPlatform.Surveys

section SurveyUpdates

variable {user : User} {pk : Nat} {isPartial : Bool} {body : SurveyBody} {current : Survey} {w w' : World}

/-! ## The status field -/

/-- Validation writes the status: the body has another one, and the transition is accepted. -/
def WritesStatus (db : Database) (current : Survey) (status : Submitted SurveyStatus) (value : SurveyStatus) : Prop :=
  status = .given value ∧ value ≠ current.status ∧ checkTransition db current value = .ok ()

theorem rejectIf_error {bad : Prop} [Decidable bad] {message : String} {exn : PyExn}
    (raised : rejectIf bad message = .error exn) : exn = .validationError message := by
  unfold rejectIf at raised
  split at raised
  · cases raised; rfl
  · cases raised

theorem checkPublishable_error {db : Database} {surveyId : Nat} {exn : PyExn}
    (raised : checkPublishable db surveyId = .error exn) : ∃ message, exn = .validationError message := by
  simp only [checkPublishable, bind, Except.bind] at raised
  split at raised
  · rename_i noSection
    cases raised
    exact ⟨_, rejectIf_error noSection⟩
  · exact ⟨_, rejectIf_error raised⟩

/-- A refused transition is a `ValidationError`, which the serializer collects. -/
theorem checkTransition_error {db : Database} {value : SurveyStatus} {exn : PyExn}
    (raised : checkTransition db current value = .error exn) : ∃ message, exn = .validationError message := by
  simp only [checkTransition, bind, Except.bind] at raised
  split at raised
  · rename_i notAllowed
    cases raised
    exact ⟨_, rejectIf_error notAllowed⟩
  · split at raised
    · exact checkPublishable_error raised
    · cases raised

theorem transitionTo_of_accepted {value : SurveyStatus} (stored : w.db.surveys.get current.id = some current)
    (accepted : checkTransition w.db current value = .ok ()) :
    transitionTo current value w =
      .ok (current.withStatus value) { w with db := w.db.setStatus current.id value } := by
  rw [transitionTo, query_bind_of_ok accepted, bind_of_ok (saveStatus_of_some stored)]
  rfl

theorem runStatusField_of_writes {value : SurveyStatus} (stored : w.db.surveys.get current.id = some current)
    (writes : WritesStatus w.db current body.status value) :
    runStatusField (some current) body.status w =
      .ok (.ok (some (current.withStatus value))) { w with db := w.db.setStatus current.id value } := by
  obtain ⟨given, different, accepted⟩ := writes
  simp [given, runStatusField, collecting, validateStatus, different,
    bind_of_ok (transitionTo_of_accepted stored accepted)]
  rfl

/-- The status field writes a status, lets the body pass, or refuses it. -/
theorem statusField_cases (request : UpdateRequest) (pk : Nat) (w : World) (current : Survey) :
    (∃ value, WritesStatus w.db current request.body.status value ∧
      request.step pk w (.loaded current) = (w, .accepted current value)) ∨
    ((∀ value, ¬ WritesStatus w.db current request.body.status value) ∧
      ∃ result, runStatusField (some current) request.body.status w = .ok result w ∧
        (result = .ok (some current) ∧ request.body.status.value?.getD current.status = current.status ∧
            request.step pk w (.loaded current) = (w, request.afterStatus current) ∨
          (∃ message, result = .error message) ∧ request.step pk w (.loaded current) = (w, .finished))) := by
  cases given : request.body.status with
  | missing =>
    refine Or.inr ⟨fun _ writes => (by cases writes.1), .ok (some current), rfl, Or.inl ⟨rfl, rfl, ?_⟩⟩
    simp [UpdateRequest.step, given]
  | refused message =>
    refine Or.inr ⟨fun _ writes => (by cases writes.1), .error message, rfl, Or.inr ⟨⟨_, rfl⟩, ?_⟩⟩
    simp [UpdateRequest.step, given]
  | given value =>
    by_cases same : value = current.status
    · refine Or.inr ⟨?_, .ok (some current), ?_, Or.inl ⟨rfl, same, ?_⟩⟩
      · intro other writes
        cases writes.1
        exact writes.2.1 same
      · simp [runStatusField, collecting, validateStatus, same]
        rfl
      · simp [UpdateRequest.step, given, same]
    · cases transition : checkTransition w.db current value with
      | ok _ =>
        refine Or.inl ⟨value, ⟨rfl, same, transition⟩, ?_⟩
        simp [UpdateRequest.step, given, same, transition]
      | error exn =>
        obtain ⟨message, rfl⟩ := checkTransition_error transition
        -- the transition is checked before anything is written
        have refused : transitionTo current value w = .error (.validationError message) w :=
          query_bind_of_error transition
        refine Or.inr ⟨?_, .error message, ?_, Or.inr ⟨⟨_, rfl⟩, ?_⟩⟩
        · intro other writes
          cases writes.1
          have accepted := writes.2.2
          rw [transition] at accepted
          cases accepted
        · simp [runStatusField, collecting, validateStatus, same, bind_of_error refused]
        · simp [UpdateRequest.step, given, same, transition]

/-! ## The whole request -/

/-- Once the status field has run, the serializer refuses the body or returns its keys. -/
theorem validateSurvey_of_status (isPartial : Bool) {instance? : Option Survey} {result : Except String (Option Survey)}
    (ran : runStatusField instance? body.status w = .ok result w') :
    (∃ errors, validateSurvey isPartial instance? body w = .error (.apiValidationError errors) w') ∨
      ∃ left, result = .ok left ∧ validateSurvey isPartial instance? body w =
        .ok (⟨body.title.value?, body.description.value?, body.status.value?⟩, left) w' := by
  rw [validateSurvey, bind_of_ok ran]
  cases result with
  | ok left =>
    cases raiseErrors_ok_or_error [("title", body.title.error? !isPartial),
      ("description", body.description.error? false)] with
    | inl passed => exact Or.inr ⟨left, rfl, query_bind_of_ok passed⟩
    | inr raised =>
      obtain ⟨found, raised⟩ := raised
      exact Or.inl ⟨found, query_bind_of_error raised⟩
  -- a refused status is an error of its own, so the body cannot pass
  | error message =>
    cases raiseErrors_ok_or_error [("title", body.title.error? !isPartial),
      ("description", body.description.error? false), ("status", some message)] with
    | inl passed => simp [raiseErrors_eq_ok] at passed
    | inr raised =>
      obtain ⟨found, raised⟩ := raised
      exact Or.inl ⟨found, query_bind_of_error raised⟩

/-- A rejected update ends in the world the status field left. -/
theorem surveyUpdate_rejected {errors : List (String × String)} {result : Except String (Option Survey)} {left : World}
    (stored : w.db.surveys.get pk = some current)
    (ran : runStatusField (some current) body.status w = .ok result left)
    (rejected : surveyUpdate user pk isPartial body w = .error (.apiValidationError errors) w') : w' = left := by
  by_cases admin : user.role = .admin
  · rw [surveyUpdate, requireAdmin_bind_of_admin admin, getOr404_bind_of_some stored] at rejected
    cases validateSurvey_of_status isPartial ran with
    | inl refused =>
      obtain ⟨found, refused⟩ := refused
      rw [bind_of_error refused] at rejected
      cases rejected
      rfl
    | inr accepted =>
      obtain ⟨instance?, _, accepted⟩ := accepted
      rw [bind_of_ok accepted] at rejected
      cases instance? with
      | none => cases rejected
      | some survey => cases rejected
  · have forbidden : surveyUpdate user pk isPartial body w = .error .permissionDenied w :=
      query_bind_of_error (if_neg admin)
    rw [forbidden] at rejected
    cases rejected

/-- A rejected update leaves the row as it was exactly when validation has not written the status. -/
theorem rejectedUpdate_unchanged_iff {errors : List (String × String)} (stored : w.db.surveys.get pk = some current)
    (rejected : surveyUpdate user pk isPartial body w = .error (.apiValidationError errors) w') :
    w'.db.surveys.get pk = some current ↔ ∀ value, ¬ WritesStatus w.db current body.status value := by
  have sameKey : current.id = pk := w.db.surveys.keyed pk current stored
  subst sameKey
  constructor
  · intro unchanged value writes
    -- the status was written before the body was refused
    have left := surveyUpdate_rejected stored (runStatusField_of_writes stored writes) rejected
    subst left
    simp only [Database.setStatus, Table.get_modify, if_true, stored, Option.map_some, Option.some.injEq] at unchanged
    have sameStatus := congrArg Survey.status unchanged
    exact writes.2.1 sameStatus
  · intro writesNot
    cases statusField_cases ⟨user, isPartial, body⟩ current.id w current with
    | inl written => exact absurd written.choose_spec.1 (writesNot _)
    | inr kept =>
      obtain ⟨_, result, ran, _⟩ := kept
      rw [surveyUpdate_rejected stored ran rejected]
      exact stored

/-! ## The request in steps -/

/-- A request that runs alone, step by step. -/
def stepAlone (request : UpdateRequest) (pk : Nat) (state : World × UpdateStage) : World × UpdateStage :=
  request.step pk state.1 state.2

theorem stepAlone_finished (request : UpdateRequest) (n : Nat) :
    (stepAlone request pk)^[n] (w, .finished) = (w, .finished) :=
  Function.iterate_fixed rfl n

/-- Once the status field has run, one more step does what is left of the view. -/
theorem stepAlone_afterStatus {request : UpdateRequest} {left : Survey} (admin : request.user.role = .admin)
    (stored : w.db.surveys.get pk = some current)
    (ran : runStatusField (some current) request.body.status w = .ok (.ok (some left)) w') :
    stepAlone request pk (w', request.afterStatus left) =
      (final (surveyUpdate request.user pk request.isPartial request.body) w, .finished) := by
  rw [final, surveyUpdate, requireAdmin_bind_of_admin admin, getOr404_bind_of_some stored]
  cases passed : raiseErrors [("title", request.body.title.error? !request.isPartial),
      ("description", request.body.description.error? false)] with
  | ok _ =>
    have returned : validateSurvey request.isPartial (some current) request.body w =
        .ok (⟨request.body.title.value?, request.body.description.value?, request.body.status.value?⟩, some left)
          w' := by
      rw [validateSurvey, bind_of_ok ran]
      exact query_bind_of_ok passed
    rw [bind_of_ok returned, UpdateRequest.afterStatus, passed]
    rfl
  | error exn =>
    have raised : validateSurvey request.isPartial (some current) request.body w = .error exn w' := by
      rw [validateSurvey, bind_of_ok ran]
      exact query_bind_of_error passed
    rw [bind_of_error raised, UpdateRequest.afterStatus, passed]
    rfl

theorem final_surveyUpdate_of_refused {request : UpdateRequest} {message : String}
    (admin : request.user.role = .admin) (stored : w.db.surveys.get pk = some current)
    (ran : runStatusField (some current) request.body.status w = .ok (.error message) w') :
    final (surveyUpdate request.user pk request.isPartial request.body) w = w' := by
  cases validateSurvey_of_status request.isPartial ran with
  | inl refused =>
    obtain ⟨_, refused⟩ := refused
    rw [final, surveyUpdate, requireAdmin_bind_of_admin admin, getOr404_bind_of_some stored, bind_of_error refused]
  | inr accepted =>
    obtain ⟨_, same, _⟩ := accepted
    cases same

/-- Run alone, the steps of an update do what its view does. -/
theorem stepAlone_eq_surveyUpdate (request : UpdateRequest) (pk : Nat) (w : World) :
    (stepAlone request pk)^[4] (w, .received) =
      (final (surveyUpdate request.user pk request.isPartial request.body) w, .finished) := by
  by_cases admin : request.user.role = .admin
  · cases stored : w.db.surveys.get pk with
    | none =>
      have first : stepAlone request pk (w, .received) = (w, .finished) := by
        simp [stepAlone, UpdateRequest.step, admin, stored]
      rw [Function.iterate_succ_apply, first, stepAlone_finished, final, surveyUpdate,
        requireAdmin_bind_of_admin admin, getOr404_bind_of_none stored]
    | some current =>
      have sameKey : current.id = pk := w.db.surveys.keyed pk current stored
      subst sameKey
      -- received, loaded, then one or two steps, depending on the status field
      have first : stepAlone request current.id (w, .received) = (w, .loaded current) := by
        simp [stepAlone, UpdateRequest.step, admin, stored]
      rw [Function.iterate_succ_apply, first, Function.iterate_succ_apply]
      cases statusField_cases request current.id w current with
      | inl written =>
        obtain ⟨value, writes, second⟩ := written
        have ran := runStatusField_of_writes stored writes
        have third : stepAlone request current.id (w, .accepted current value) =
            ({ w with db := w.db.setStatus current.id value }, request.afterStatus (current.withStatus value)) := by
          rw [stepAlone, UpdateRequest.step, saveStatus_of_some stored]
        rw [stepAlone, second, Function.iterate_succ_apply, third, Function.iterate_one,
          stepAlone_afterStatus admin stored ran]
      | inr kept =>
        obtain ⟨_, result, ran, ⟨rfl, _, second⟩ | ⟨⟨message, rfl⟩, second⟩⟩ := kept
        · rw [stepAlone, second, Function.iterate_succ_apply, stepAlone_afterStatus admin stored ran,
            stepAlone_finished]
        · rw [stepAlone, second, stepAlone_finished, final_surveyUpdate_of_refused admin stored ran]
  · have first : stepAlone request pk (w, .received) = (w, .finished) := by
      simp [stepAlone, UpdateRequest.step, admin]
    have forbidden : surveyUpdate request.user pk request.isPartial request.body w = .error .permissionDenied w :=
      query_bind_of_error (if_neg admin)
    rw [Function.iterate_succ_apply, first, stepAlone_finished, final, forbidden]

end SurveyUpdates

/-! ## Two rejected updates of the small survey -/

/-- `PATCH {"title": "", "status": …}` -/
def blankTitleBody (status : SurveyStatus) : SurveyBody :=
  ⟨.refused "This field may not be blank.", .missing, .given status⟩

theorem rejectedUpdate_unchanged_sameStatus : ∃ errors w',
    surveyUpdate administrator 1 true (blankTitleBody .draft) draftWorld = .error (.apiValidationError errors) w' ∧
      (w'.db.surveys.get 1 = some ⟨1, "Health", "", 1, .draft⟩ ↔
        ∀ value, ¬ WritesStatus draftDatabase ⟨1, "Health", "", 1, .draft⟩ (blankTitleBody .draft).status value) := by
  have rejected : surveyUpdate administrator 1 true (blankTitleBody .draft) draftWorld =
    .error (.apiValidationError _) _ := rfl
  exact ⟨_, _, rejected, rejectedUpdate_unchanged_iff rfl rejected⟩

/-- The title is refused, and the survey is published all the same. -/
theorem rejectedUpdate_publishes : ∃ errors w',
    surveyUpdate administrator 1 true (blankTitleBody .published) draftWorld = .error (.apiValidationError errors) w' ∧
      draftWorld.db.surveys.get 1 = some ⟨1, "Health", "", 1, .draft⟩ ∧
      w'.db.surveys.get 1 = some ⟨1, "Health", "", 1, .published⟩ :=
  ⟨_, _, rfl, rfl, rfl⟩

end SurveyPlatform.Verified

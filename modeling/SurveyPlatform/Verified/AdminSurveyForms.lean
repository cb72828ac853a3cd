import SurveyPlatform.Surveys.Admin
import SurveyPlatform.Verified.SurveyUpdates

/-! # Surveys in the admin site

When the status is changed on the admin page of a survey, `transition_to` is
asked for a step from the new status to itself, which is never allowed, so
nothing is saved.  The page agrees with the API exactly when the status stays or
the step from the stored status is refused anyway (`surveyForm_agrees_iff`).
-/

namespace SurveyPlatform.Verified

open SurveyPlatform.Library SurveyPlatform.Library.Program SurveyPlatform.Python SurveyPlatform.Surveys

/-- The status stays, or the stored survey may take the step. -/
def AcceptsStatus (db : Database) (stored : Survey) (status : SurveyStatus) : Prop :=
  status = stored.status ∨ checkTransition db stored status = .ok ()

/-- `PATCH` with the values of the form. -/
def patchBody (obj : Survey) : SurveyBody := ⟨.given obj.title, .given obj.description, .given obj.status⟩

/-- The row with this id after a program. -/
def surveyAfter {α : Type} (program : Procedure α) (id : Nat) (w : World) : Option Survey :=
  (final program w).db.surveys.get id

/-- The submitted values are stored or none is, as the status demands; and where the
owner is left alone, a `PATCH` with these values stores the same. -/
structure FormAgrees (w : World) (stored : Survey) (form : ModelForm Survey) : Prop where
  accepted : AcceptsStatus w.db stored form.obj.status →
    surveyAfter (SurveyAdmin.saveModel form) stored.id w = some form.obj
  refused : ¬ AcceptsStatus w.db stored form.obj.status →
    surveyAfter (SurveyAdmin.saveModel form) stored.id w = some stored
  sameAsApi : form.obj.createdBy = stored.createdBy → surveyAfter (SurveyAdmin.saveModel form) stored.id w =
    surveyAfter (surveyUpdate administrator stored.id true (patchBody form.obj)) stored.id w

section SurveyForms

variable {w w' : World} {stored : Survey} {form : ModelForm Survey}

/-! ## The hook -/

/-- No status follows itself. -/
theorem transitionTo_self (obj : Survey) (w : World) :
    ∃ message, transitionTo obj obj.status w = .error (.validationError message) w := by
  cases checked : checkTransition w.db obj obj.status with
  | ok _ =>
    have step := (checkTransition_eq_ok.mp checked).1
    omega
  | error exn =>
    obtain ⟨message, rfl⟩ := checkTransition_error checked
    exact ⟨message, query_bind_of_error checked⟩

/-- A changed status is never saved: `obj` has it already. -/
theorem saveModel_of_status_ne (opened : form.initial = some stored) (changed : form.obj.status ≠ stored.status) :
    ∃ messages, SurveyAdmin.saveModel form w = .ok (.refused form.obj messages) w := by
  obtain ⟨message, refused⟩ := transitionTo_self form.obj w
  refine ⟨[message], ?_⟩
  rw [SurveyAdmin.saveModel, opened]
  simp only [changed, ne_eq, not_false_eq_true, if_true, orRefuse, refused, validationErrorToMessage]

theorem saveModel_of_status_eq (opened : form.initial = some stored) (same : form.obj.status = stored.status) :
    SurveyAdmin.saveModel form w =
      .ok (.saved form.obj) (final (invalidateStructure (toString form.obj.id))
        { w with db := { w.db with surveys := w.db.surveys.save form.obj } }) := by
  rw [SurveyAdmin.saveModel, opened]
  simp only [same, ne_eq, not_true_eq_false, if_false]
  rfl

theorem surveyAfter_saveModel (opened : form.initial = some stored) (isStored : w.db.surveys.get stored.id = some stored) :
    surveyAfter (SurveyAdmin.saveModel form) stored.id w =
      some (if form.obj.status = stored.status then form.obj else stored) := by
  split
  · rename_i same
    have sameKey : stored.id = form.obj.id := (form.sameKey stored opened).symm
    rw [surveyAfter, final_of_ok (saveModel_of_status_eq opened same), sameKey]
    exact (Table.get_save _ _ _).trans (if_pos rfl)
  · rename_i changed
    obtain ⟨_, refused⟩ := saveModel_of_status_ne (w := w) opened changed
    rw [surveyAfter, final_of_ok refused, isStored]

/-! ## The API -/

/-- Once the status field has passed, a full body is saved over the row it left. -/
theorem surveyAfter_patch {obj left : Survey} (isStored : w.db.surveys.get stored.id = some stored)
    (ran : runStatusField (some stored) (patchBody obj).status w = .ok (.ok (some left)) w') (sameKey : left.id = stored.id) :
    surveyAfter (surveyUpdate administrator stored.id true (patchBody obj)) stored.id w =
      some { left with title := obj.title, description := obj.description, status := obj.status } := by
  have validated : validateSurvey true (some stored) (patchBody obj) w =
      .ok (⟨some obj.title, some obj.description, some obj.status⟩, some left) w' := by
    rw [validateSurvey, bind_of_ok ran]
    rfl
  rw [surveyAfter, final, surveyUpdate, requireAdmin_bind_of_admin rfl, getOr404_bind_of_some isStored,
    bind_of_ok validated, ← sameKey]
  exact (Table.get_save _ _ _).trans (if_pos rfl)

theorem surveyAfter_patch_of_accepted {obj : Survey} (isStored : w.db.surveys.get stored.id = some stored)
    (accepted : AcceptsStatus w.db stored obj.status) :
    surveyAfter (surveyUpdate administrator stored.id true (patchBody obj)) stored.id w =
      some { stored with title := obj.title, description := obj.description, status := obj.status } := by
  by_cases same : obj.status = stored.status
  · have ran : runStatusField (some stored) (patchBody obj).status w = .ok (.ok (some stored)) w := by
      simp [runStatusField, patchBody, collecting, validateStatus, same]
      rfl
    exact surveyAfter_patch isStored ran rfl
  · have writes : WritesStatus w.db stored (patchBody obj).status obj.status :=
      ⟨rfl, same, accepted.resolve_left same⟩
    rw [surveyAfter_patch isStored (runStatusField_of_writes isStored writes) rfl]
    rfl

theorem surveyAfter_patch_of_refused {obj : Survey} (isStored : w.db.surveys.get stored.id = some stored)
    (refused : ¬ AcceptsStatus w.db stored obj.status) :
    surveyAfter (surveyUpdate administrator stored.id true (patchBody obj)) stored.id w = some stored := by
  obtain ⟨changed, notAllowed⟩ := not_or.mp refused
  have ran : ∃ message, runStatusField (some stored) (patchBody obj).status w = .ok (.error message) w := by
    obtain ⟨value, writes, _⟩ | ⟨_, result, ran, ⟨_, same, _⟩ | ⟨⟨message, rfl⟩, _⟩⟩ :=
      statusField_cases ⟨administrator, true, patchBody obj⟩ stored.id w stored
    · obtain ⟨given, _, accepted⟩ := writes
      cases given
      exact absurd accepted notAllowed
    · exact absurd same changed
    · exact ⟨message, ran⟩
  obtain ⟨message, ran⟩ := ran
  rw [surveyAfter, show final (surveyUpdate administrator stored.id true (patchBody obj)) w = w from
    @final_surveyUpdate_of_refused stored.id stored w w ⟨administrator, true, patchBody obj⟩ message rfl isStored ran, isStored]

/-! ## When they agree -/

/-- The page of a stored survey does what the API does exactly when its status stays,
or may not be taken from the stored one. -/
theorem surveyForm_agrees_iff (isStored : w.db.surveys.get stored.id = some stored)
    (opened : form.initial = some stored) :
    FormAgrees w stored form ↔
      form.obj.status = stored.status ∨ checkTransition w.db stored form.obj.status ≠ .ok () := by
  have after := surveyAfter_saveModel opened isStored
  have sameKey : form.obj.id = stored.id := form.sameKey stored opened
  constructor
  · intro agrees
    by_contra neither
    obtain ⟨changed, allowed⟩ := not_or.mp neither
    -- a step that is allowed would have to be stored
    have isNew := agrees.accepted (Or.inr (not_not.mp allowed))
    rw [after, if_neg changed, Option.some.injEq] at isNew
    exact changed (congrArg Survey.status isNew).symm
  · intro sameOrRefused
    by_cases same : form.obj.status = stored.status
    · rw [if_pos same] at after
      refine ⟨fun _ => after, fun refused => absurd (Or.inl same) refused, fun sameOwner => ?_⟩
      rw [after, surveyAfter_patch_of_accepted isStored (Or.inl same), ← sameKey, ← sameOwner]
    · have refused : ¬ AcceptsStatus w.db stored form.obj.status := not_or.mpr ⟨same, sameOrRefused.resolve_left same⟩
      rw [if_neg same] at after
      refine ⟨fun accepted => absurd accepted refused, fun _ => after, fun _ => ?_⟩
      rw [after, surveyAfter_patch_of_refused isStored refused]

end SurveyForms

/-! ## The page of a small survey -/

/-- Another title and this status, for the survey of the small draft. -/
def healthForm (status : SurveyStatus) : ModelForm Survey where
  initial := some ⟨1, "Health", "", 1, .draft⟩
  obj := ⟨1, "Habits", "", 1, status⟩
  sameKey := fun _ opened => Option.some.inj opened ▸ rfl

theorem surveyForm_agrees_title : FormAgrees draftWorld ⟨1, "Health", "", 1, .draft⟩ (healthForm .draft) :=
  (surveyForm_agrees_iff rfl rfl).mpr (Or.inl rfl)

/-- A survey that may be published is not published, and keeps its old title. -/
theorem surveyForm_not_published : checkTransition draftDatabase ⟨1, "Health", "", 1, .draft⟩ .published = .ok () ∧
    surveyAfter (SurveyAdmin.saveModel (healthForm .published)) 1 draftWorld = some ⟨1, "Health", "", 1, .draft⟩ ∧
    ¬ FormAgrees draftWorld ⟨1, "Health", "", 1, .draft⟩ (healthForm .published) := by
  have allowed : checkTransition draftDatabase ⟨1, "Health", "", 1, .draft⟩ .published = .ok () := rfl
  have unchanged : surveyAfter (SurveyAdmin.saveModel (healthForm .published)) 1 draftWorld =
    some ⟨1, "Health", "", 1, .draft⟩ := rfl
  refine ⟨allowed, unchanged, fun agrees => ?_⟩
  have published := unchanged.symm.trans (agrees.accepted (Or.inr allowed))
  exact absurd (congrArg Survey.title (Option.some.inj published)) (by decide)

end SurveyPlatform.Verified

import SurveyPlatform.Surveys.Admin
import SurveyPlatform.Verified.RequestChanges

/-! # What the hooks of the admin site save

A `save_model` hook saves one row, or leaves the world as it was (`Unsaved`).
Which of the two depends on the submitted row and the stored ones alone; each
page has its condition (`SectionFormAccepted`, …) and one lemma.
-/

namespace SurveyPlatform.Verified

open SurveyPlatform.Library SurveyPlatform.Library.Program SurveyPlatform.Python SurveyPlatform.Surveys

/-- A hook that saved nothing. -/
inductive Unsaved {β : Type} (obj : β) (w : World) : EStateM.Result PyExn World (Reply β) → Prop where
  | refused (messages : List String) : Unsaved obj w (.ok (.refused obj messages) w)
  | broken (message : String) : Unsaved obj w (.ok (.broken message) w)
  | raised (exn : PyExn) : Unsaved obj w (.error exn w)

/-- A hook after which the request is rolled back. -/
inductive Aborted {β : Type} (w : World) : EStateM.Result PyExn World (Reply β) → Prop where
  | broken (message : String) : Aborted w (.ok (.broken message) w)
  | raised (exn : PyExn) : Aborted w (.error exn w)

theorem Aborted.unsaved {β : Type} {w : World} {result : EStateM.Result PyExn World (Reply β)} (aborted : Aborted w result)
    (obj : β) : Unsaved obj w result := by
  cases aborted with
  | broken message => exact .broken message
  | raised exn => exact .raised exn

/-- `obj` was saved, which left this database. -/
def SavedAs {β : Type} (obj : β) (db : Database) (result : EStateM.Result PyExn World (Reply β)) : Prop :=
  ∃ w', result = .ok (.saved obj) w' ∧ w'.db = db

theorem Unsaved.final_eq {β : Type} {obj : β} {w : World} {hook : Procedure (Reply β)} (unsaved : Unsaved obj w (hook w)) :
    final hook w = w := by
  cases result : hook w with
  | ok reply t =>
    rw [result] at unsaved
    rw [final_of_ok result]
    cases unsaved <;> rfl
  | error exn t =>
    rw [result] at unsaved
    rw [final_of_error result]
    cases unsaved
    rfl

theorem SavedAs.final_db {β : Type} {obj : β} {db : Database} {w : World} {hook : Procedure (Reply β)}
    (saved : SavedAs obj db (hook w)) : (final hook w).db = db := by
  obtain ⟨w', result, same⟩ := saved
  rw [final_of_ok result, same]

/-- A hook that saves `stored` when the row is taken and nothing otherwise. -/
theorem savedAs_iff {β : Type} {obj stored form : β} {db : Database} {w : World}
    {result : EStateM.Result PyExn World (Reply β)} {taken : Prop} {property : Database → Prop}
    (saves : taken → SavedAs stored db result) (refuses : ¬ taken → Unsaved form w result) :
    (∃ db', SavedAs obj db' result ∧ property db') ↔ taken ∧ obj = stored ∧ property db := by
  constructor
  · intro holds
    obtain ⟨_, ⟨w', rfl, rfl⟩, holds⟩ := holds
    by_cases isTaken : taken
    · obtain ⟨_, same, rfl⟩ := saves isTaken
      cases same
      exact ⟨isTaken, rfl, holds⟩
    · cases refuses isTaken
  · intro holds
    obtain ⟨isTaken, rfl, holds⟩ := holds
    exact ⟨db, saves isTaken, holds⟩

theorem ok_or_error (check : Except PyExn Unit) : check = .ok () ∨ ∃ exn, check = .error exn := by
  cases check with
  | ok _ => exact Or.inl rfl
  | error exn => exact Or.inr ⟨exn, rfl⟩

section Handlers

variable {α β : Type} {obj : β} {w : World} {next : α → Procedure (Reply β)}

theorem orRefuse_of_ok {body : Procedure α} {a : α} {t : World} (result : body w = .ok a t) :
    orRefuse obj body next w = next a t := by
  simp only [orRefuse, result]

theorem orRefuse_of_error {body : Procedure α} {exn : PyExn} (raised : body w = .error exn w) :
    Unsaved obj w (orRefuse obj body next w) := by
  simp only [orRefuse, raised]
  cases validationErrorToMessage exn with
  | some messages => exact .refused messages
  | none => exact .raised exn

theorem orRefuse_query_of_ok {look : Database → Except PyExn α} {a : α} (passed : look w.db = .ok a) :
    orRefuse obj (query look) next w = next a w :=
  orRefuse_of_ok (query_eq_ok_iff.mpr ⟨passed, rfl⟩)

theorem orRefuse_query_of_error {look : Database → Except PyExn α} {exn : PyExn} (raised : look w.db = .error exn) :
    Unsaved obj w (orRefuse obj (query look) next w) :=
  @orRefuse_of_error _ _ _ _ _ _ exn (by rw [query, reading, raised])

theorem orBroken_of_ok {message : String} {body : Procedure α} {a : α} {t : World} (result : body w = .ok a t) :
    orBroken message body next w = next a t := by
  simp only [orBroken, result]

theorem orBroken_of_error {message : String} {body : Procedure α} {exn : PyExn} (raised : body w = .error exn w) :
    Aborted w (orBroken message body next w) := by
  by_cases integrity : exn = .integrityError
  · subst integrity
    simp only [orBroken, raised]
    exact .broken message
  · have passed : orBroken message body next w = .error exn w := by
      simp only [orBroken, raised]
    rw [passed]
    exact .raised exn

theorem unsaved_query_bind {look : Database → Except PyExn α} {exn : PyExn} (raised : look w.db = .error exn) :
    Unsaved obj w ((query look >>= next) w) := by
  rw [query_bind_of_error raised]
  exact .raised exn

end Handlers

section Saves

variable {α : Type} [Keyed α] {model : Model α} {change : Bool} {obj : α} {withId : Nat → α}
  {keyed : ∀ i, key (withId i) = i} {w : World}

/-- The row that `obj.save()` writes. -/
def savedRow {α : Type} [Keyed α] (change : Bool) (table : Table α) (obj : α) (withId : Nat → α) : α :=
  if change then obj else withId table.next

theorem saveObject_of_constraints
    (checked : model.constraints w.db (savedRow change (model.table w.db) obj withId) = .ok ()) :
    model.saveObject change obj withId keyed w = .ok (savedRow change (model.table w.db) obj withId)
      { w with db := model.store w.db ((model.table w.db).save (savedRow change (model.table w.db) obj withId)) } := by
  cases change with
  | true => exact bind_of_ok (Model.save_of_constraints checked)
  | false =>
    rw [Model.saveObject, if_neg Bool.false_ne_true, Model.insert_of_constraints keyed checked,
      Table.insert_eq_save]
    rfl

theorem saveObject_of_error {exn : PyExn}
    (refused : model.constraints w.db (savedRow change (model.table w.db) obj withId) = .error exn) :
    model.saveObject change obj withId keyed w = .error exn w := by
  cases change with
  | true => exact bind_of_error (Model.save_of_error refused)
  | false => exact Model.insert_of_error keyed refused

end Saves

section Hooks

variable {py : Interpreter} {order : SetOrder} {w : World}

theorem query_ok_bind {α β : Type} (look : Database → α) (next : α → Procedure β) (w : World) :
    (query (fun db => .ok (look db)) >>= next) w = next (look w.db) w := rfl

/-! ## The draft check -/

theorem checkDraft_of_draft {db : Database} {surveyId : Nat} (draft : IsDraft db surveyId) :
    checkDraft surveyId db = .ok () := by
  obtain ⟨survey, found, isDraft⟩ := draft
  simp only [checkDraft, getRelated, found, validateSurveyIsDraft, bind, Except.bind, rejectIf_eq_ok, isDraft, ne_eq,
    not_true_eq_false, not_false_eq_true]

theorem checkDraft_of_not {db : Database} {surveyId : Nat} (notDraft : ¬ IsDraft db surveyId) :
    ∃ exn, checkDraft surveyId db = .error exn := by
  cases found : db.surveys.get surveyId with
  | none =>
    refine ⟨.attributeError, ?_⟩
    simp only [checkDraft, getRelated, found]
    rfl
  | some survey =>
    have different : survey.status ≠ .draft := fun isDraft => notDraft ⟨survey, found, isDraft⟩
    obtain ⟨message, raised⟩ : ∃ message, validateSurveyIsDraft survey = .error (.validationError message) :=
      ⟨_, if_pos different⟩
    refine ⟨.validationError message, ?_⟩
    simp only [checkDraft, getRelated, found, bind, Except.bind, raised]

theorem requireDraft_of_draft {surveyId : Nat} (draft : IsDraft w.db surveyId) :
    requireDraft surveyId w = .ok () w :=
  query_eq_ok_iff.mpr ⟨checkDraft_of_draft draft, rfl⟩

theorem requireDraft_of_not {surveyId : Nat} (notDraft : ¬ IsDraft w.db surveyId) :
    ∃ exn, requireDraft surveyId w = .error exn w := by
  obtain ⟨exn, raised⟩ := checkDraft_of_not notDraft
  exact ⟨exn, by rw [requireDraft, query, reading, raised]⟩

/-! ## Sections -/

/-- The section with the order it is given when it has none. -/
def orderedSection (db : Database) (obj : Section) : Section :=
  { obj with order := orderOrNext obj.order ((db.sectionsOf obj.surveyId).map Section.order) }

def sectionRow (db : Database) (form : ModelForm Section) : Section :=
  savedRow form.change db.sections (orderedSection db form.obj) (orderedSection db form.obj).withId

def SectionFormAccepted (db : Database) (form : ModelForm Section) : Prop :=
  IsDraft db form.obj.surveyId ∧ db.sectionConstraints (sectionRow db form) = .ok ()

theorem sectionSave_of_accepted {form : ModelForm Section} (accepted : SectionFormAccepted w.db form) :
    SavedAs (sectionRow w.db form) { w.db with sections := w.db.sections.save (sectionRow w.db form) }
      (SectionAdmin.saveModel form w) := by
  obtain ⟨draft, checked⟩ := accepted
  rw [SectionAdmin.saveModel, orRefuse_of_ok (requireDraft_of_draft draft), query_ok_bind]
  exact ⟨_, orBroken_of_ok (saveObject_of_constraints checked), rfl⟩

/-- In a draft it is the database that refuses, which ends the transaction. -/
theorem sectionSave_of_draft {form : ModelForm Section} (refused : ¬ SectionFormAccepted w.db form)
    (draft : IsDraft w.db form.obj.surveyId) : Aborted w (SectionAdmin.saveModel form w) := by
  rw [SectionAdmin.saveModel, orRefuse_of_ok (requireDraft_of_draft draft), query_ok_bind]
  obtain checked | ⟨exn, raised⟩ := ok_or_error (w.db.sectionConstraints (sectionRow w.db form))
  · exact absurd ⟨draft, checked⟩ refused
  · exact orBroken_of_error (saveObject_of_error raised)

theorem sectionSave_of_not {form : ModelForm Section} (refused : ¬ SectionFormAccepted w.db form) :
    Unsaved form.obj w (SectionAdmin.saveModel form w) := by
  by_cases draft : IsDraft w.db form.obj.surveyId
  · exact (sectionSave_of_draft refused draft).unsaved form.obj
  · obtain ⟨exn, raised⟩ := requireDraft_of_not draft
    exact orRefuse_of_error raised

/-! ## Fields -/

def orderedField (db : Database) (obj : Field) : Field :=
  { obj with order := orderOrNext obj.order ((db.fieldsOf obj.sectionId).map Field.order) }

def fieldRow (db : Database) (form : ModelForm Field) : Field :=
  savedRow form.change db.fields (orderedField db form.obj) (orderedField db form.obj).withId

/-- The survey of the submitted section is a draft. -/
def InDraft (db : Database) (sectionId : Nat) : Prop :=
  ∃ parent, db.sections.get sectionId = some parent ∧ IsDraft db parent.surveyId

def FieldFormAccepted (py : Interpreter) (db : Database) (form : ModelForm Field) : Prop :=
  InDraft db form.obj.sectionId ∧ validateFieldColumns py form.obj = .ok () ∧
    db.fieldConstraints (fieldRow db form) = .ok ()

theorem fieldSave_of_accepted {form : ModelForm Field} (accepted : FieldFormAccepted py w.db form) :
    SavedAs (fieldRow w.db form) { w.db with fields := w.db.fields.save (fieldRow w.db form) }
      (FieldAdmin.saveModel py form w) := by
  obtain ⟨⟨parent, found, draft⟩, valid, checked⟩ := accepted
  have isParent : getRelated w.db.sections.get form.obj.sectionId = .ok parent := by
    rw [getRelated, found]
  have passed : (do requireDraft parent.surveyId; query fun _ => validateFieldColumns py form.obj) w = .ok () w := by
    rw [bind_of_ok (requireDraft_of_draft draft)]
    exact query_eq_ok_iff.mpr ⟨valid, rfl⟩
  rw [FieldAdmin.saveModel, query_bind_of_ok isParent, orRefuse_of_ok passed, query_ok_bind]
  exact ⟨_, orBroken_of_ok (saveObject_of_constraints checked), rfl⟩

theorem fieldSave_of_not {form : ModelForm Field} (refused : ¬ FieldFormAccepted py w.db form) :
    Unsaved form.obj w (FieldAdmin.saveModel py form w) := by
  rw [FieldAdmin.saveModel]
  cases found : w.db.sections.get form.obj.sectionId with
  | none => exact unsaved_query_bind (by rw [getRelated, found])
  | some parent =>
    rw [query_bind_of_ok (by rw [getRelated, found])]
    by_cases draft : IsDraft w.db parent.surveyId
    · obtain valid | ⟨exn, raised⟩ := ok_or_error (validateFieldColumns py form.obj)
      · have passed : (do requireDraft parent.surveyId; query fun _ => validateFieldColumns py form.obj) w =
            .ok () w := by
          rw [bind_of_ok (requireDraft_of_draft draft)]
          exact query_eq_ok_iff.mpr ⟨valid, rfl⟩
        rw [orRefuse_of_ok passed, query_ok_bind]
        obtain checked | ⟨exn, raised⟩ := ok_or_error (w.db.fieldConstraints (fieldRow w.db form))
        · exact absurd ⟨⟨parent, found, draft⟩, valid, checked⟩ refused
        · exact (orBroken_of_error (saveObject_of_error raised)).unsaved form.obj
      · exact @orRefuse_of_error _ _ _ _ _ _ exn (by rw [bind_of_ok (requireDraft_of_draft draft), query, reading, raised])
    · obtain ⟨exn, raised⟩ := requireDraft_of_not draft
      exact orRefuse_of_error (bind_of_error raised)

/-! ## Rules and dependencies -/

section Definitions

variable {α δ : Type} [Keyed α] {model : Model α} {form : ModelForm α} {withId : Nat → α}
  {keyed : ∀ i, key (withId i) = i} {surveyId : α → Nat} {toData : Database → Except PyExn δ}
  {validate detectCircularDependencies : Database → δ → Except PyExn Unit}

/-- Every check of the hook passes, and the database takes the row. -/
def PassesChecks (model : Model α) (form : ModelForm α) (withId : Nat → α) (surveyId : α → Nat)
    (toData : Database → Except PyExn δ) (validate detectCircularDependencies : Database → δ → Except PyExn Unit)
    (db : Database) : Prop :=
  IsDraft db (surveyId form.obj) ∧ ∃ data, toData db = .ok data ∧ validate db data = .ok () ∧
    detectCircularDependencies db data = .ok () ∧
    model.constraints db (savedRow form.change (model.table db) form.obj withId) = .ok ()

theorem saveModelWith_of_accepted
    (accepted : PassesChecks model form withId surveyId toData validate detectCircularDependencies w.db) :
    SavedAs (savedRow form.change (model.table w.db) form.obj withId)
      (model.store w.db ((model.table w.db).save (savedRow form.change (model.table w.db) form.obj withId)))
      (saveModelWith model form withId keyed surveyId toData validate detectCircularDependencies w) := by
  obtain ⟨draft, data, isData, valid, noCycle, checked⟩ := accepted
  rw [saveModelWith, orRefuse_of_ok (requireDraft_of_draft draft), query_bind_of_ok isData,
    orRefuse_query_of_ok valid, orRefuse_query_of_ok noCycle, bind_of_ok (saveObject_of_constraints checked)]
  exact ⟨_, rfl, rfl⟩

theorem saveModelWith_of_not
    (refused : ¬ PassesChecks model form withId surveyId toData validate detectCircularDependencies w.db) :
    Unsaved form.obj w
      (saveModelWith model form withId keyed surveyId toData validate detectCircularDependencies w) := by
  rw [saveModelWith]
  by_cases draft : IsDraft w.db (surveyId form.obj)
  · rw [orRefuse_of_ok (requireDraft_of_draft draft)]
    cases isData : toData w.db with
    | error exn => exact unsaved_query_bind isData
    | ok data =>
      rw [query_bind_of_ok isData]
      obtain valid | ⟨exn, raised⟩ := ok_or_error (validate w.db data)
      · rw [orRefuse_query_of_ok valid]
        obtain noCycle | ⟨exn, raised⟩ := ok_or_error (detectCircularDependencies w.db data)
        · rw [orRefuse_query_of_ok noCycle]
          obtain checked | ⟨exn, raised⟩ := ok_or_error
            (model.constraints w.db (savedRow form.change (model.table w.db) form.obj withId))
          · exact absurd ⟨draft, data, isData, valid, noCycle, checked⟩ refused
          · rw [bind_of_error (saveObject_of_error raised)]
            exact .raised exn
        · exact orRefuse_query_of_error raised
      · exact orRefuse_query_of_error raised
  · obtain ⟨exn, raised⟩ := requireDraft_of_not draft
    exact orRefuse_of_error raised

end Definitions

def ruleRow (db : Database) (form : ModelForm ConditionalRule) : ConditionalRule :=
  savedRow form.change db.conditionalRules form.obj form.obj.withId

def RuleFormAccepted (py : Interpreter) (order : SetOrder) (db : Database) (form : ModelForm ConditionalRule) : Prop :=
  PassesChecks conditionalRuleModel form form.obj.withId ConditionalRule.surveyId form.obj.toData
    (fun _ data => validateConditionalRuleData py data none)
    (fun db data => detectCircularDependenciesCr order db data.dependsOnField data.targetField.join form.excludeId) db

theorem ruleSave_of_accepted {form : ModelForm ConditionalRule} (accepted : RuleFormAccepted py order w.db form) :
    SavedAs (ruleRow w.db form) { w.db with conditionalRules := w.db.conditionalRules.save (ruleRow w.db form) }
      (ConditionalRuleAdmin.saveModel py order form w) :=
  saveModelWith_of_accepted accepted

theorem ruleSave_of_not {form : ModelForm ConditionalRule} (refused : ¬ RuleFormAccepted py order w.db form) :
    Unsaved form.obj w (ConditionalRuleAdmin.saveModel py order form w) :=
  saveModelWith_of_not refused

def dependencyRow (db : Database) (form : ModelForm FieldDependency) : FieldDependency :=
  savedRow form.change db.fieldDependencies form.obj form.obj.withId

def DependencyFormAccepted (py : Interpreter) (order : SetOrder) (db : Database) (form : ModelForm FieldDependency) : Prop :=
  PassesChecks fieldDependencyModel form form.obj.withId FieldDependency.surveyId form.obj.toData
    (fun db data => validateFieldDependencyData py db.conditionalRules.rows data none)
    (fun db data => detectCircularDependenciesFd order db data.dependsOnField data.dependentField form.excludeId) db

theorem dependencySave_of_accepted {form : ModelForm FieldDependency} (accepted : DependencyFormAccepted py order w.db form) :
    SavedAs (dependencyRow w.db form)
      { w.db with fieldDependencies := w.db.fieldDependencies.save (dependencyRow w.db form) }
      (FieldDependencyAdmin.saveModel py order form w) :=
  saveModelWith_of_accepted accepted

theorem dependencySave_of_not {form : ModelForm FieldDependency} (refused : ¬ DependencyFormAccepted py order w.db form) :
    Unsaved form.obj w (FieldDependencyAdmin.saveModel py order form w) :=
  saveModelWith_of_not refused

end Hooks

end SurveyPlatform.Verified

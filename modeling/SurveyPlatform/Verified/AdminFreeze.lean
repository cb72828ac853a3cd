import SurveyPlatform.Verified.AdminInlines
import SurveyPlatform.Verified.AdminPages
import SurveyPlatform.Verified.AdminSurveyForms

/-! # The admin site and surveys that are no drafts

The hooks check the survey that the form names and the status it submits, not
the survey the stored row belongs to.  `submit_keepsFrozen_iff` says which pages
leave alone the rows of every survey that is no draft.
-/

namespace SurveyPlatform.Verified

open SurveyPlatform.Library SurveyPlatform.Library.Program SurveyPlatform.Python SurveyPlatform.Surveys

/-- The page and its inlines are opened on stored rows. -/
def PageOpened (db : Database) : AdminForm → Prop
  | .survey form sections =>
    (∀ row, form.initial = some row → db.surveys.get row.id = some row) ∧
      SectionsOpened db form.obj.id sections ∧ (form.initial = none → ∀ inline ∈ sections.forms, inline.initial = none)
  | .section form fields =>
    (∀ row, form.initial = some row → db.sections.get row.id = some row) ∧
      FieldsOpened db form.obj.id fields ∧ (form.initial = none → ∀ inline ∈ fields.forms, inline.initial = none)
  | .field form => ∀ row, form.initial = some row → db.fields.get row.id = some row
  | .conditionalRule form => ∀ row, form.initial = some row → db.conditionalRules.get row.id = some row
  | .fieldDependency form => ∀ row, form.initial = some row → db.fieldDependencies.get row.id = some row

/-! ## One row saved in a draft -/

section OneRow

variable {db : Database}

/-- A row that replaces one of a survey that is no draft is moved out of it. -/
theorem keepsFrozen_sectionSave_iff {row : Section} (draft : IsDraft db row.surveyId) :
    KeepsFrozen db { db with sections := db.sections.save row } ↔
      ∀ old, db.sections.get row.id = some old → ¬ LeftDraft db old.surveyId := by
  constructor
  · intro keeps old stored left
    have found := ((keeps old.surveyId left).section_iff rfl).mpr stored
    have saved := (Table.get_save db.sections row row.id).trans (if_pos rfl)
    have same := saved.symm.trans found
    cases same
    exact left.ne draft rfl
  · intro notLeft s left
    refine sameRows_sectionSave (left.ne_of_draft draft) fun old stored inSurvey => ?_
    exact notLeft old stored (inSurvey ▸ left)

theorem keepsFrozen_fieldSave_iff {row : Field} (draft : InDraft db row.sectionId) :
    KeepsFrozen db { db with fields := db.fields.save row } ↔
      ∀ old, db.fields.get row.id = some old → ∀ parent, db.sections.get old.sectionId = some parent →
        ¬ LeftDraft db parent.surveyId := by
  obtain ⟨newParent, foundNew, draft⟩ := draft
  constructor
  · intro keeps old stored parent foundParent left
    have found := ((keeps parent.surveyId left).field_iff foundParent rfl).mpr stored
    have saved := (Table.get_save db.fields row row.id).trans (if_pos rfl)
    have same := saved.symm.trans found
    cases same
    have sameParent := foundNew.symm.trans foundParent
    cases sameParent
    exact left.ne draft rfl
  · intro notLeft s left
    refine sameRows_fieldSave (fun parent found => ?_) fun old stored parent foundParent inSurvey => ?_
    · have sameParent := foundNew.symm.trans found
      cases sameParent
      exact left.ne_of_draft draft
    · exact notLeft old stored parent foundParent (inSurvey ▸ left)

theorem keepsFrozen_ruleSave_iff {row : ConditionalRule} (draft : IsDraft db row.surveyId) :
    KeepsFrozen db { db with conditionalRules := db.conditionalRules.save row } ↔
      ∀ old, db.conditionalRules.get row.id = some old → ¬ LeftDraft db old.surveyId := by
  constructor
  · intro keeps old stored left
    have found := ((keeps old.surveyId left).rule_iff rfl).mpr stored
    have saved := (Table.get_save db.conditionalRules row row.id).trans (if_pos rfl)
    have same := saved.symm.trans found
    cases same
    exact left.ne draft rfl
  · intro notLeft s left
    refine sameRows_ruleSave (left.ne_of_draft draft) fun old stored inSurvey => ?_
    exact notLeft old stored (inSurvey ▸ left)

theorem keepsFrozen_dependencySave_iff {row : FieldDependency} (draft : IsDraft db row.surveyId) :
    KeepsFrozen db { db with fieldDependencies := db.fieldDependencies.save row } ↔
      ∀ old, db.fieldDependencies.get row.id = some old → ¬ LeftDraft db old.surveyId := by
  constructor
  · intro keeps old stored left
    have found := ((keeps old.surveyId left).dependency_iff rfl).mpr stored
    have saved := (Table.get_save db.fieldDependencies row row.id).trans (if_pos rfl)
    have same := saved.symm.trans found
    cases same
    exact left.ne draft rfl
  · intro notLeft s left
    refine sameRows_dependencySave (left.ne_of_draft draft) fun old stored inSurvey => ?_
    exact notLeft old stored (inSurvey ▸ left)

/-- The row that a form saves is stored under the key of the row it is opened on. -/
theorem stored_under_savedRow_iff {α : Type} [Keyed α] {table : Table α} {form : ModelForm α} {obj : α}
    {withId : Nat → α} (keyed : ∀ i, key (withId i) = i) (sameKey : key obj = key form.obj)
    (opened : ∀ row, form.initial = some row → table.get (key row) = some row) {property : α → Prop} :
    (∀ old, table.get (key (savedRow form.change table obj withId)) = some old → property old) ↔
      ∀ row, form.initial = some row → property row := by
  cases isOpened : form.initial with
  | none =>
    have isNew : savedRow form.change table obj withId = withId table.next := by
      rw [savedRow, ModelForm.change, isOpened]
      rfl
    rw [isNew, keyed, table.get_next]
  | some row =>
    have isObj : savedRow form.change table obj withId = obj := by
      rw [savedRow, ModelForm.change, isOpened]
      rfl
    rw [isObj, sameKey, form.sameKey row isOpened, opened row isOpened]

end OneRow

/-! ## Which pages keep frozen surveys -/

/-- Surveys that are no drafts name none of the sections that the formset deletes. -/
def DeletedSectionsUnnamed (db : Database) (sections : Formset Section) : Prop :=
  ∀ s, LeftDraft db s → ∀ inline ∈ sections.forms, ∀ row, Deletes inline row →
    Unreferenced db (· == row.id) (fieldsIn db (· == row.id)) s

def DeletedFieldsUnnamed (db : Database) (fields : Formset Field) : Prop :=
  ∀ s, LeftDraft db s → ∀ inline ∈ fields.forms, ∀ row, Deletes inline row →
    Unreferenced db (fun _ => false) (· == row.id) s

/-- The rows of the surveys once the page of a survey has saved its own. -/
def savedSurveys (db : Database) (form : ModelForm Survey) (stored : Survey) : Table Survey :=
  if form.obj.status = stored.status then db.surveys.save form.obj else db.surveys

/-- The database once the page of a section has saved its own. -/
def sectionSaved (db : Database) (form : ModelForm Section) : Database :=
  { db with sections := db.sections.save (sectionRow db form) }

/-- The pages after which the surveys that are no drafts have the rows they had. -/
def RespectsFreeze (py : Interpreter) (order : SetOrder) (db : Database) : AdminForm → Prop
  | .survey form sections => ∀ stored, form.initial = some stored → form.obj.status = .draft →
    -- the database takes the sections
    (∃ db', sectionInline.saveFormset form.obj.id sections
      { db with surveys := savedSurveys db form stored } = .ok db') →
    (stored.status ≠ .draft → ∀ inline ∈ sections.forms, ¬ TakesEffect inline) ∧ DeletedSectionsUnnamed db sections
  | .section form fields => SectionFormAccepted db form →
    -- the changed inlines are valid, and the database takes the fields
    (∀ inline ∈ fields.forms, inline.hasChanged = true → validateFieldColumns py inline.obj = .ok ()) →
    (∃ db', fieldInline.saveFormset (sectionRow db form).id fields (sectionSaved db form) = .ok db') →
    (∀ stored, form.initial = some stored → ¬ LeftDraft db stored.surveyId) ∧ DeletedFieldsUnnamed db fields
  | .field form => FieldFormAccepted py db form → ∀ stored, form.initial = some stored →
    ∀ parent, db.sections.get stored.sectionId = some parent → ¬ LeftDraft db parent.surveyId
  | .conditionalRule form => form.obj.clean db = .ok () → RuleFormAccepted py order db form →
    ∀ stored, form.initial = some stored → ¬ LeftDraft db stored.surveyId
  | .fieldDependency form => form.obj.clean db = .ok () → DependencyFormAccepted py order db form →
    ∀ stored, form.initial = some stored → ¬ LeftDraft db stored.surveyId

section Pages

variable {py : Interpreter} {order : SetOrder} {w : World}

theorem field_keepsFrozen_iff {form : ModelForm Field} (opened : PageOpened w.db (.field form)) :
    KeepsFrozen w.db (final (AdminForm.submit py order (.field form)) w).db ↔
      RespectsFreeze py order w.db (.field form) := by
  dsimp only [AdminForm.submit, RespectsFreeze]
  by_cases accepted : FieldFormAccepted py w.db form
  · have inSection : (fieldRow w.db form).sectionId = form.obj.sectionId := by
      unfold fieldRow savedRow
      split <;> rfl
    rw [changeformView_db_of_saved (fieldSave_of_accepted accepted),
      keepsFrozen_fieldSave_iff (inSection ▸ accepted.1), imp_iff_right accepted]
    exact @stored_under_savedRow_iff _ _ _ form (orderedField w.db form.obj) _ (Field.key_withId _) rfl opened _
  · rw [changeformView_db_of_unsaved (fieldSave_of_not accepted)]
    exact iff_of_true (keepsFrozen_refl w.db) fun isAccepted => absurd isAccepted accepted

theorem conditionalRule_keepsFrozen_iff {form : ModelForm ConditionalRule}
    (opened : PageOpened w.db (.conditionalRule form)) :
    KeepsFrozen w.db (final (AdminForm.submit py order (.conditionalRule form)) w).db ↔
      RespectsFreeze py order w.db (.conditionalRule form) := by
  dsimp only [AdminForm.submit, RespectsFreeze]
  obtain passed | ⟨exn, raised⟩ := ok_or_error (form.obj.clean w.db)
  · rw [imp_iff_right passed, final, ifClean_db_of_ok passed, ← final]
    by_cases accepted : RuleFormAccepted py order w.db form
    · have inSurvey : (ruleRow w.db form).surveyId = form.obj.surveyId := by
        unfold ruleRow savedRow
        split <;> rfl
      rw [changeformView_db_of_saved (ruleSave_of_accepted accepted),
        keepsFrozen_ruleSave_iff (inSurvey ▸ accepted.1), imp_iff_right accepted]
      exact stored_under_savedRow_iff (ConditionalRule.key_withId form.obj) rfl opened
    · rw [changeformView_db_of_unsaved (ruleSave_of_not accepted)]
      exact iff_of_true (keepsFrozen_refl w.db) fun isAccepted => absurd isAccepted accepted
  · rw [ifClean_db_of_error raised]
    refine iff_of_true (keepsFrozen_refl w.db) fun passed => ?_
    rw [raised] at passed
    cases passed

theorem fieldDependency_keepsFrozen_iff {form : ModelForm FieldDependency}
    (opened : PageOpened w.db (.fieldDependency form)) :
    KeepsFrozen w.db (final (AdminForm.submit py order (.fieldDependency form)) w).db ↔
      RespectsFreeze py order w.db (.fieldDependency form) := by
  dsimp only [AdminForm.submit, RespectsFreeze]
  obtain passed | ⟨exn, raised⟩ := ok_or_error (form.obj.clean w.db)
  · rw [imp_iff_right passed, final, ifClean_db_of_ok passed, ← final]
    by_cases accepted : DependencyFormAccepted py order w.db form
    · have inSurvey : (dependencyRow w.db form).surveyId = form.obj.surveyId := by
        unfold dependencyRow savedRow
        split <;> rfl
      rw [changeformView_db_of_saved (dependencySave_of_accepted accepted),
        keepsFrozen_dependencySave_iff (inSurvey ▸ accepted.1), imp_iff_right accepted]
      exact stored_under_savedRow_iff (FieldDependency.key_withId form.obj) rfl opened
    · rw [changeformView_db_of_unsaved (dependencySave_of_not accepted)]
      exact iff_of_true (keepsFrozen_refl w.db) fun isAccepted => absurd isAccepted accepted
  · rw [ifClean_db_of_error raised]
    refine iff_of_true (keepsFrozen_refl w.db) fun passed => ?_
    rw [raised] at passed
    cases passed

/-! ## Pages with inlines -/

section CheckForms

variable {α : Type} [Keyed α] {inline : Inline α} {draft : Except PyExn Unit} {check : α → Except PyExn Unit}

theorem checkForms_of_draft (isDraft : draft = .ok ()) {draftChecked : Bool} {forms : List (InlineForm α)} :
    checkForms draft check draftChecked forms = .ok () ↔
      ∀ form ∈ forms, form.hasChanged = true → check form.obj = .ok () := by
  induction forms generalizing draftChecked with
  | nil => exact iff_of_true rfl nofun
  | cons form rest inductionHypothesis =>
    rw [checkForms, List.forall_mem_cons]
    cases changed : form.hasChanged with
    | false =>
      rw [Bool.not_false, if_pos rfl, inductionHypothesis]
      exact (and_iff_right nofun).symm
    | true =>
      have checked : (do check form.obj; checkForms draft check true rest) = .ok () ↔
          check form.obj = .ok () ∧ ∀ form ∈ rest, form.hasChanged = true → check form.obj = .ok () := by
        rw [bind_eq_ok, Unique.exists_iff, inductionHypothesis]
      rw [Bool.not_true, if_neg Bool.false_ne_true, imp_iff_right rfl]
      subst isDraft
      cases draftChecked with
      | true => exact checked
      | false => exact checked

/-- When the survey is no draft, only forms that have not changed pass. -/
theorem unchanged_of_checkForms {exn : PyExn} (notDraft : draft = .error exn) {forms : List (InlineForm α)}
    (passed : checkForms draft check false forms = .ok ()) : ∀ form ∈ forms, form.hasChanged = false := by
  induction forms with
  | nil => exact nofun
  | cons form rest inductionHypothesis =>
    rw [checkForms] at passed
    cases changed : form.hasChanged with
    | false =>
      rw [changed, Bool.not_false, if_pos rfl] at passed
      exact List.forall_mem_cons.mpr ⟨changed, inductionHypothesis passed⟩
    | true =>
      rw [changed, Bool.not_true, if_neg Bool.false_ne_true, notDraft] at passed
      cases passed

end CheckForms

/-! ### Surveys -/

section SurveyPages

variable {form : ModelForm Survey} {sections : Formset Section}

/-- Saved or refused, `obj` goes on with the submitted status. -/
theorem surveySave_of_opened {stored : Survey} (opened : form.initial = some stored) : ∃ reply t,
    SurveyAdmin.saveModel form w = .ok reply t ∧ reply.goOn = .ok form.obj ∧
      t.db = { w.db with surveys := savedSurveys w.db form stored } := by
  by_cases same : form.obj.status = stored.status
  · refine ⟨_, _, saveModel_of_status_eq opened same, rfl, ?_⟩
    rw [savedSurveys, if_pos same]
    rfl
  · obtain ⟨messages, refused⟩ := @saveModel_of_status_ne w stored form opened same
    refine ⟨_, _, refused, rfl, ?_⟩
    rw [savedSurveys, if_neg same]

/-- A new survey gets a key that was never used. -/
theorem surveySave_of_new (opened : form.initial = none) : ∃ obj t surveys,
    SurveyAdmin.saveModel form w = .ok (.saved obj) t ∧ obj.id = w.db.surveys.next ∧
      t.db = { w.db with surveys } := by
  rw [SurveyAdmin.saveModel, opened]
  exact ⟨_, _, _, bind_of_ok (Model.insert_of_constraints (Survey.key_withId _) rfl), rfl, rfl⟩

theorem SameRows.with_surveys {db db' : Database} {s : Nat} (same : SameRows db db' s) (surveys : Table Survey) :
    SameRows { db with surveys } db' s :=
  ⟨rfl, same.sections, same.fields, same.conditionalRules, same.fieldDependencies⟩

theorem Unreferenced.with_surveys {db : Database} {goneSection goneField : Nat → Bool} {s : Nat}
    (unreferenced : Unreferenced db goneSection goneField s) (surveys : Table Survey) :
    Unreferenced { db with surveys } goneSection goneField s :=
  ⟨unreferenced.rules, unreferenced.dependencies⟩

theorem keepsFrozen_saveSections {surveys : Table Survey} {pk : Nat} {db : Database}
    (opened : SectionsOpened w.db pk sections) (own : LeftDraft w.db pk → ∀ inline ∈ sections.forms, ¬ TakesEffect inline)
    (unnamed : DeletedSectionsUnnamed w.db sections)
    (saved : sectionInline.saveFormset pk sections { w.db with surveys } = .ok db) : KeepsFrozen w.db db := by
  intro s left
  by_cases same : pk = s
  · subst same
    rw [eq_of_noEffect saved (own left)]
    exact SameRows.refl w.db pk
  · have kept : SameRows { w.db with surveys } db s :=
      sameRows_saveSections same opened (fun inline member row deletes =>
        (unnamed s left inline member row deletes).with_surveys surveys) saved
    exact ⟨rfl, kept.sections, kept.fields, kept.conditionalRules, kept.fieldDependencies⟩

theorem survey_keepsFrozen_iff (opened : PageOpened w.db (.survey form sections)) :
    KeepsFrozen w.db (final (AdminForm.submit py order (.survey form sections)) w).db ↔
      RespectsFreeze py order w.db (.survey form sections) := by
  obtain ⟨isStored, sectionsOpened, noInlines⟩ := opened
  dsimp only [AdminForm.submit, RespectsFreeze]
  unfold SurveyAdmin.saveFormset
  cases isOpened : form.initial with
  | none =>
    refine iff_of_true ?_ nofun
    obtain ⟨obj, t, surveys, result, isNew, sameDb⟩ := surveySave_of_new (w := w) isOpened
    rw [changeformView_db result rfl, sameDb]
    have noRow : ∀ inline ∈ sections.forms, ∀ row, inline.initial ≠ some row := fun inline member row found =>
      absurd ((noInlines isOpened inline member).symm.trans found) nofun
    cases outcome : inlineResult sectionInline (fun _ => validateSurveyIsDraft obj) (fun _ => .ok ()) obj.id sections
      { w.db with surveys } with
    | none => exact keepsFrozen_refl w.db
    | some db =>
      refine keepsFrozen_saveSections (fun inline member row found => absurd found (noRow inline member row))
        (fun left => ?_) (fun _ _ inline member row deletes => absurd deletes.1 (noRow inline member row))
        (inlineResult_eq_some.mp outcome).2
      -- nothing was stored under the key of the new survey
      obtain ⟨survey, found, _⟩ := left
      rw [isNew, w.db.surveys.get_next] at found
      cases found
  | some stored =>
    have found := isStored stored isOpened
    have sameKey : form.obj.id = stored.id := form.sameKey stored isOpened
    obtain ⟨reply, t, result, goesOn, sameDb⟩ := surveySave_of_opened (w := w) isOpened
    rw [changeformView_db result goesOn, sameDb]
    constructor
    · intro keeps _ same isDraft saves
      cases same
      obtain ⟨db', saved⟩ := saves
      have draft : validateSurveyIsDraft form.obj = .ok () := if_neg (not_not.mpr isDraft)
      have passed : inlineResult sectionInline (fun _ => validateSurveyIsDraft form.obj) (fun _ => .ok ()) form.obj.id
          sections { w.db with surveys := savedSurveys w.db form stored } = some db' :=
        inlineResult_eq_some.mpr ⟨(checkForms_of_draft draft).mpr fun _ _ _ => rfl, saved⟩
      rw [passed, Option.getD_some] at keeps
      refine ⟨fun notDraft inline member => ?_, fun s left inline member row deletes => ?_⟩
      · have same := (keeps stored.id ⟨stored, found, notDraft⟩).with_surveys (savedSurveys w.db form stored)
        have opened : SectionsOpened { w.db with surveys := savedSurveys w.db form stored } form.obj.id sections :=
          sectionsOpened
        exact noEffect_of_sameSections opened saved (sameKey ▸ same) member
      · have same := (keeps s left).with_surveys (savedSurveys w.db form stored)
        have unreferenced := unreferenced_of_sameSections saved same member deletes
        exact ⟨unreferenced.rules, unreferenced.dependencies⟩
    · intro respects
      cases outcome : inlineResult sectionInline (fun _ => validateSurveyIsDraft form.obj) (fun _ => .ok ()) form.obj.id
        sections { w.db with surveys := savedSurveys w.db form stored } with
      | none => exact keepsFrozen_refl w.db
      | some db' =>
        obtain ⟨passed, saved⟩ := inlineResult_eq_some.mp outcome
        by_cases isDraft : form.obj.status = .draft
        · obtain ⟨own, unnamed⟩ := respects stored rfl isDraft ⟨db', saved⟩
          refine keepsFrozen_saveSections sectionsOpened (fun left => own ?_) unnamed saved
          obtain ⟨survey, found', notDraft⟩ := left
          rw [sameKey, found, Option.some.injEq] at found'
          exact found' ▸ notDraft
        · have notDraft : ∃ exn, validateSurveyIsDraft form.obj = .error exn := ⟨_, if_pos isDraft⟩
          obtain ⟨exn, raised⟩ := notDraft
          have unchanged := unchanged_of_checkForms raised passed
          have noEffect : ∀ inline ∈ sections.forms, ¬ TakesEffect inline := fun inline member effect =>
            absurd ((unchanged inline member).symm.trans effect.1) nofun
          rw [Option.getD_some, eq_of_noEffect saved noEffect]
          exact keepsFrozen_refl w.db

end SurveyPages

/-! ### Sections -/

section SectionPages

variable {form : ModelForm Section} {fields : Formset Field}

theorem sectionRow_surveyId (db : Database) (form : ModelForm Section) : (sectionRow db form).surveyId = form.obj.surveyId := by
  unfold sectionRow savedRow
  split <;> rfl

/-- The inlines of a page that saved its section. -/
theorem keepsFrozen_saveFields {db : Database} (draft : IsDraft w.db form.obj.surveyId)
    (moved : KeepsFrozen w.db (sectionSaved w.db form))
    (opened : FieldsOpened w.db (sectionRow w.db form).id fields) (unnamed : DeletedFieldsUnnamed w.db fields)
    (saved : fieldInline.saveFormset (sectionRow w.db form).id fields (sectionSaved w.db form) = .ok db) :
    KeepsFrozen w.db db := by
  intro s left
  have elsewhere : ∀ parent, (sectionSaved w.db form).sections.get (sectionRow w.db form).id = some parent →
      parent.surveyId ≠ s := by
    intro parent found
    have isRow := ((Table.get_save w.db.sections (sectionRow w.db form) _).trans (if_pos rfl)).symm.trans found
    cases isRow
    exact sectionRow_surveyId w.db form ▸ left.ne_of_draft draft
  have later : KeptByFields (sectionSaved w.db form) db s := by
    refine keptByFields_saveFields elsewhere opened (fun inline member row deletes => ?_) saved
    have unreferenced := unnamed s left inline member row deletes
    exact ⟨unreferenced.rules, unreferenced.dependencies⟩
  exact (moved s left).trans later.same

theorem fieldsOpened_of_page (opened : PageOpened w.db (.section form fields)) :
    FieldsOpened w.db (sectionRow w.db form).id fields := by
  obtain ⟨_, fieldsOpened, noInlines⟩ := opened
  intro inline member row isOpened
  have change : form.change = true := by
    cases isNew : form.initial with
    | none => exact absurd ((noInlines isNew inline member).symm.trans isOpened) nofun
    | some _ => rw [ModelForm.change, isNew]; rfl
  have sameKey : (sectionRow w.db form).id = form.obj.id := by
    rw [sectionRow, savedRow, if_pos change]
    rfl
  exact sameKey ▸ fieldsOpened inline member row isOpened

/-- A page whose section is not saved changes nothing. -/
theorem section_db_of_refused (refused : ¬ SectionFormAccepted w.db form) :
    (final (AdminForm.submit py order (.section form fields)) w).db = w.db := by
  by_cases draft : IsDraft w.db form.obj.surveyId
  · exact changeformView_db_of_aborted (sectionSave_of_draft refused draft)
  · have unsaved := sectionSave_of_not refused
    cases result : SectionAdmin.saveModel form w with
    | error exn t =>
      rw [result] at unsaved
      cases unsaved
      exact changeformView_db_of_aborted (result ▸ .raised exn)
    | ok reply t =>
      rw [result] at unsaved
      cases unsaved with
      | broken message => exact changeformView_db_of_aborted (result ▸ .broken message)
      | refused messages =>
        refine (changeformView_db result rfl).trans ?_
        cases outcome : inlineResult fieldInline (checkDraft form.obj.surveyId) (validateFieldColumns py) form.obj.id
          fields w.db with
        | none => rfl
        | some db =>
          obtain ⟨passed, saved⟩ := inlineResult_eq_some.mp outcome
          -- the check of the inlines reads the same survey
          obtain ⟨exn, raised⟩ := checkDraft_of_not draft
          have unchanged := unchanged_of_checkForms raised passed
          exact eq_of_noEffect saved fun inline member effect =>
            absurd ((unchanged inline member).symm.trans effect.1) nofun

theorem section_keepsFrozen_iff (opened : PageOpened w.db (.section form fields)) :
    KeepsFrozen w.db (final (AdminForm.submit py order (.section form fields)) w).db ↔
      RespectsFreeze py order w.db (.section form fields) := by
  have fieldsOpened := fieldsOpened_of_page opened
  by_cases accepted : SectionFormAccepted w.db form
  · have draft : IsDraft w.db (sectionRow w.db form).surveyId := (sectionRow_surveyId w.db form).symm ▸ accepted.1
    have moved : KeepsFrozen w.db (sectionSaved w.db form) ↔
        ∀ stored, form.initial = some stored → ¬ LeftDraft w.db stored.surveyId :=
      (keepsFrozen_sectionSave_iff draft).trans
        (@stored_under_savedRow_iff _ _ _ form (orderedSection w.db form.obj) _ (Section.key_withId _) rfl opened.1 _)
    obtain ⟨t, result, sameDb⟩ := sectionSave_of_accepted accepted
    have after : (final (AdminForm.submit py order (.section form fields)) w).db =
        (inlineResult fieldInline (checkDraft (sectionRow w.db form).surveyId) (validateFieldColumns py)
          (sectionRow w.db form).id fields (sectionSaved w.db form)).getD w.db :=
      (changeformView_db result rfl).trans (by rw [sameDb]; rfl)
    have checksDraft : checkDraft (sectionRow w.db form).surveyId (sectionSaved w.db form) = .ok () :=
      checkDraft_of_draft draft
    rw [after, RespectsFreeze, imp_iff_right accepted, ← moved, ← checkForms_of_draft checksDraft]
    constructor
    · intro keeps passed saves
      obtain ⟨db, saved⟩ := saves
      rw [inlineResult_eq_some.mpr ⟨passed, saved⟩, Option.getD_some] at keeps
      refine ⟨fun s left => ?_, fun s left inline member row deletes => ?_⟩
      · -- the fields leave the sections as the page saved them
        refine ⟨rfl, fun id => ?_, fun _ _ _ _ => rfl, fun _ => rfl, fun _ => rfl⟩
        rw [← sections_saveFields saved]
        exact (keeps s left).sections id
      · have unreferenced := unreferenced_of_sameFields saved
          (fun id rule inSurvey => ((keeps s left).rule_iff inSurvey).mpr)
          (fun id dep inSurvey => ((keeps s left).dependency_iff inSurvey).mpr) member deletes
        exact ⟨unreferenced.rules, unreferenced.dependencies⟩
    · intro holds
      cases outcome : inlineResult fieldInline (checkDraft (sectionRow w.db form).surveyId) (validateFieldColumns py)
        (sectionRow w.db form).id fields (sectionSaved w.db form) with
      | none => exact keepsFrozen_refl w.db
      | some db =>
        obtain ⟨passed, saved⟩ := inlineResult_eq_some.mp outcome
        obtain ⟨isMoved, unnamed⟩ := holds passed ⟨db, saved⟩
        exact keepsFrozen_saveFields accepted.1 isMoved fieldsOpened unnamed saved
  · rw [section_db_of_refused accepted]
    exact iff_of_true (keepsFrozen_refl w.db) fun isAccepted => absurd isAccepted accepted

end SectionPages

/-- A page leaves alone what has left draft exactly when it respects the freeze. -/
theorem submit_keepsFrozen_iff {form : AdminForm} (opened : PageOpened w.db form) :
    KeepsFrozen w.db (final (form.submit py order) w).db ↔ RespectsFreeze py order w.db form := by
  cases form with
  | survey form sections => exact survey_keepsFrozen_iff opened
  | «section» form fields => exact section_keepsFrozen_iff opened
  | field form => exact field_keepsFrozen_iff opened
  | conditionalRule form => exact conditionalRule_keepsFrozen_iff opened
  | fieldDependency form => exact fieldDependency_keepsFrozen_iff opened

end Pages

/-! ## The page of a small survey -/

/-- The delete box of the second section is ticked. -/
def withoutHabits : Formset Section where
  forms := [{
    initial := some ⟨2, 1, "Habits", "", 2⟩
    obj := ⟨2, 1, "Habits", "", 2⟩
    sameKey := fun _ opened => Option.some.inj opened ▸ rfl
    hasChanged := true
    delete := true
    changed_of_delete := fun _ => rfl
    changed_iff := fun _ _ kept => nomatch kept }]
  distinct := List.nodup_singleton _

theorem withoutHabits_opened {db : Database} {form : ModelForm Survey} {survey : Survey}
    (opened : form.initial = some survey) (sameId : form.obj.id = 1) (stored : db.surveys.get survey.id = some survey)
    (section_ : db.sections.get 2 = some ⟨2, 1, "Habits", "", 2⟩) : PageOpened db (.survey form withoutHabits) := by
  refine ⟨fun row isOpened => ?_, fun inline member row isOpened => ?_, fun isNew => absurd (opened.symm.trans isNew) nofun⟩
  · have same := opened.symm.trans isOpened
    cases same
    exact stored
  · cases List.mem_singleton.mp member
    cases isOpened
    exact ⟨section_, sameId.symm, sameId.symm⟩

/-- A section of a draft is deleted on the page of its survey. -/
theorem submit_keepsFrozen_draft :
    KeepsFrozen draftDatabase (final ((AdminForm.survey (healthForm .draft) withoutHabits).submit bareInterpreter .ascending)
      draftWorld).db := by
  have noneLeft : ∀ s, ¬ LeftDraft draftDatabase s := by
    intro s left
    obtain ⟨survey, found, notDraft⟩ := left
    have sameKey : survey.id = s := draftDatabase.surveys.keyed s survey found
    have isRow : survey ∈ draftDatabase.surveys.rows := Table.mem_rows.mpr ((congrArg _ sameKey).trans found)
    cases List.mem_singleton.mp (show survey ∈ [(⟨1, "Health", "", 1, .draft⟩ : Survey)] from isRow)
    exact notDraft rfl
  refine (@submit_keepsFrozen_iff _ _ draftWorld _ (withoutHabits_opened rfl rfl rfl rfl)).mpr ?_
  rintro _ ⟨⟩ _ _
  exact ⟨fun notDraft => absurd rfl notDraft, fun s left => absurd left (noneLeft s)⟩

def publishedHealth : World := ⟨draftDatabase.setStatus 1 .published, fun _ => none⟩

/-- The status box of a published survey is set back to draft. -/
def reopenForm : ModelForm Survey where
  initial := some ⟨1, "Health", "", 1, .published⟩
  obj := ⟨1, "Health", "", 1, .draft⟩
  sameKey := fun _ opened => Option.some.inj opened ▸ rfl

/-- The step back is refused, and the section of the published survey is deleted. -/
theorem submit_deletes_published :
    PageOpened publishedHealth.db (.survey reopenForm withoutHabits) ∧ LeftDraft publishedHealth.db 1 ∧
      ¬ KeepsFrozen publishedHealth.db
        (final ((AdminForm.survey reopenForm withoutHabits).submit bareInterpreter .ascending) publishedHealth).db := by
  have left : LeftDraft publishedHealth.db 1 := ⟨⟨1, "Health", "", 1, .published⟩, rfl, nofun⟩
  refine ⟨withoutHabits_opened rfl rfl rfl rfl, left, fun keeps => ?_⟩
  have kept := (@SameRows.section_iff _ _ _ (keeps 1 left) 2 ⟨2, 1, "Habits", "", 2⟩ rfl).mpr rfl
  cases kept

end SurveyPlatform.Verified

import SurveyPlatform.Surveys.CycleChecks
import SurveyPlatform.Surveys.Views

/-! # The admin site

The `save_model`, `save_formset` and `delete_model` hooks of `apps/surveys/admin.py`,
and the change and delete views that call them in one transaction.  By then the form has assigned
its cleaned values to `obj`, so a hook that reads `obj.status` or `obj.survey`
sees what was submitted, not what is stored.
-/

namespace SurveyPlatform.Surveys

open SurveyPlatform.Library SurveyPlatform.Library.Program SurveyPlatform.Python

/-! ## Forms -/

/-- A valid form: `obj` carries the cleaned values. -/
structure ModelForm (α : Type) [Keyed α] where
  /-- The row the form is opened on; none on the page that adds one. -/
  initial : Option α
  obj : α
  sameKey : ∀ row, initial = some row → key obj = key row

/-- `change` -/
def ModelForm.change {α : Type} [Keyed α] (form : ModelForm α) : Bool := form.initial.isSome

/-- A form of an inline formset. -/
structure InlineForm (α : Type) [Keyed α] extends ModelForm α where
  hasChanged : Bool
  /-- The delete box is ticked. -/
  delete : Bool
  changed_of_delete : delete = true → hasChanged = true
  changed_iff : ∀ row, initial = some row → delete = false → (hasChanged = true ↔ obj ≠ row)

/-- The forms of a formset are for different rows. -/
structure Formset (α : Type) [Keyed α] where
  forms : List (InlineForm α)
  distinct : ((forms.filterMap fun form => form.initial).map key).Nodup

/-! ## Hooks -/

/-- What a hook reports, with `obj` as it left it. -/
inductive Reply (β : Type) where
  | saved (obj : β)
  /-- Messages were shown, and nothing was saved. -/
  | refused (obj : β) (messages : List String)
  /-- An `IntegrityError` was caught; the transaction takes no further statement. -/
  | broken (message : String)

/-- `_validation_error_to_message`, for a `ValidationError`. -/
def validationErrorToMessage : PyExn → Option (List String)
  | .validationErrorDict field message => some [field ++ ": " ++ message]
  | .validationError message => some [message]
  | _ => none

/-- `except ValidationError as exc:` shows the messages and returns. -/
def orRefuse {α β : Type} (obj : β) (body : Procedure α) (next : α → Procedure (Reply β)) : Procedure (Reply β) :=
  fun w =>
    match body w with
    | .ok a t => next a t
    | .error exn t =>
      match validationErrorToMessage exn with
      | some messages => .ok (.refused obj messages) t
      | none => .error exn t

/-- `except IntegrityError:` shows the message and returns. -/
def orBroken {α β : Type} (message : String) (body : Procedure α) (next : α → Procedure (Reply β)) :
    Procedure (Reply β) := fun w =>
  match body w with
  | .ok a t => next a t
  | .error .integrityError t => .ok (.broken message) t
  | .error exn t => .error exn t

/-- `super().save_model(request, obj, form, change)`, that is `obj.save()`. -/
def Model.saveObject {α : Type} [Keyed α] (model : Model α) (change : Bool) (obj : α) (withId : Nat → α)
    (keyed : ∀ i, key (withId i) = i) : Procedure α :=
  if change then do
    model.save obj
    return obj
  else model.insert withId keyed

/-- An object that `obj` refers to; `RelatedObjectDoesNotExist` is an `AttributeError`. -/
def getRelated {α : Type} (find : Nat → Option α) (id : Nat) : Except PyExn α :=
  match find id with
  | some row => .ok row
  | none => .error .attributeError

/-- `if not obj.order: obj.order = max_order + 1` -/
def orderOrNext (order : Nat) (orders : List Nat) : Nat := if order = 0 then nextOrder orders else order

/-! ## Inline formsets -/

/-- The model of an inline formset, and its foreign key to the parent. -/
structure Inline (α : Type) [Keyed α] where
  model : Model α
  withId : α → Nat → α
  key_withId : ∀ row id, key (withId row id) = id
  withParent : α → Nat → α
  key_withParent : ∀ row id, key (withParent row id) = key row
  /-- `obj.delete()` -/
  delete : Nat → Database → Database

def sectionInline : Inline Section where
  model := sectionModel
  withId := Section.withId
  key_withId := Section.key_withId
  withParent := fun row surveyId => { row with surveyId }
  key_withParent := fun _ _ => rfl
  delete := fun id db => db.deleteSections (· == id)

def fieldInline : Inline Field where
  model := fieldModel
  withId := Field.withId
  key_withId := Field.key_withId
  withParent := fun row sectionId => { row with sectionId }
  key_withParent := fun _ _ => rfl
  delete := fun id db => db.deleteFields (· == id)

namespace Inline

variable {α : Type} [Keyed α] (inline : Inline α)

/-- A row written in full, when the database takes it. -/
def write (row : α) (db : Database) : Except PyExn Database := do
  inline.model.constraints db row
  return inline.model.store db ((inline.model.table db).save row)

/-- One turn of `save_existing_objects`. -/
def saveExisting (parentId : Nat) (db : Database) (form : InlineForm α) : Except PyExn Database :=
  if form.initial.isNone then .ok db
  else if form.delete then .ok (inline.delete (key form.obj) db)
  else if form.hasChanged then inline.write (inline.withParent form.obj parentId) db
  else .ok db

/-- One turn of `save_new_objects`; the row gets the next id. -/
def saveNew (parentId : Nat) (db : Database) (form : InlineForm α) : Except PyExn Database :=
  if form.initial.isSome || !form.hasChanged || form.delete then .ok db
  else inline.write (inline.withId (inline.withParent form.obj parentId) (inline.model.table db).next) db

/-- `formset.save()`; what it did before an exception is rolled back with the request. -/
def saveFormset (parentId : Nat) (formset : Formset α) (db : Database) : Except PyExn Database := do
  let db ← formset.forms.foldlM (inline.saveExisting parentId) db
  formset.forms.foldlM (inline.saveNew parentId) db

end Inline

/-- Several statements, of which an exception leaves nothing. -/
def rewriting (change : Database → Except PyExn Database) : Procedure Unit := fun w =>
  match change w.db with
  | .ok db => .ok () { w with db }
  | .error exn => .error exn w

/-- The loop over the changed forms; the draft check is made at the first of them. -/
def checkForms {α : Type} [Keyed α] (draft : Except PyExn Unit) (check : α → Except PyExn Unit) :
    Bool → List (InlineForm α) → Except PyExn Unit
  | _, [] => .ok ()
  | draftChecked, form :: rest =>
    if !form.hasChanged then checkForms draft check draftChecked rest
    else do
      if !draftChecked then draft
      check form.obj
      checkForms draft check true rest

/-- The body the `save_formset` hooks share. -/
def saveFormsetWith {α : Type} [Keyed α] (inline : Inline α) (draft : Database → Except PyExn Unit)
    (check : α → Except PyExn Unit) (parentId surveyId : Nat) (formset : Formset α) : Procedure (Reply Unit) :=
  orRefuse () (query fun db => checkForms (draft db) check false formset.forms) fun _ =>
    orBroken "Duplicate order values are not allowed." (rewriting (inline.saveFormset parentId formset)) fun _ => do
      invalidateStructure (toString surveyId)
      return .saved ()

/-! ## `SurveyAdmin` -/

def SurveyAdmin.saveModel (form : ModelForm Survey) : Procedure (Reply Survey) :=
  match form.initial with
  | none => do
    let new := form.obj.withStatus .draft
    let obj ← surveyModel.insert new.withId new.key_withId
    invalidateStructure (toString obj.id)
    return .saved obj
  | some initial =>
    -- `"status" in form.changed_data`
    if form.obj.status ≠ initial.status then
      orRefuse form.obj (transitionTo form.obj form.obj.status) fun obj => do
        invalidateStructure (toString obj.id)
        return .saved obj
    else do
      saveSurvey form.obj
      invalidateStructure (toString form.obj.id)
      return .saved form.obj

/-- `formset.model` is `Section`, so its rows are not checked. -/
def SurveyAdmin.saveFormset (obj : Survey) (sections : Formset Section) : Procedure (Reply Unit) :=
  saveFormsetWith sectionInline (fun _ => validateSurveyIsDraft obj) (fun _ => .ok ()) obj.id obj.id sections

/-! ## `SectionAdmin` -/

/-- `validate_survey_is_draft(obj.survey)` -/
def checkDraft (surveyId : Nat) (db : Database) : Except PyExn Unit := do
  validateSurveyIsDraft (← getRelated db.surveys.get surveyId)

def requireDraft (surveyId : Nat) : Procedure Unit := query (checkDraft surveyId)

def SectionAdmin.saveModel (form : ModelForm Section) : Procedure (Reply Section) :=
  orRefuse form.obj (requireDraft form.obj.surveyId) fun _ => do
    let orders ← query fun db => .ok ((db.sectionsOf form.obj.surveyId).map Section.order)
    let obj := { form.obj with order := orderOrNext form.obj.order orders }
    orBroken "A section with this order already exists."
      (sectionModel.saveObject form.change obj obj.withId obj.key_withId) fun obj => do
        invalidateStructure (toString obj.surveyId)
        return .saved obj

/-- `validate_field_options` and `validate_validation_rules` -/
def validateFieldColumns (py : Interpreter) (obj : Field) : Except PyExn Unit := do
  validateFieldOptions py obj.fieldType obj.options
  validateValidationRules py obj.fieldType obj.validationRules

def SectionAdmin.saveFormset (py : Interpreter) (obj : Section) (fields : Formset Field) : Procedure (Reply Unit) :=
  saveFormsetWith fieldInline (checkDraft obj.surveyId) (validateFieldColumns py) obj.id obj.surveyId fields

/-! ## `FieldAdmin` -/

def FieldAdmin.saveModel (py : Interpreter) (form : ModelForm Field) : Procedure (Reply Field) := do
  let parent ← query fun db => getRelated db.sections.get form.obj.sectionId
  orRefuse form.obj (do requireDraft parent.surveyId; query fun _ => validateFieldColumns py form.obj) fun _ => do
    let orders ← query fun db => .ok ((db.fieldsOf form.obj.sectionId).map Field.order)
    let obj := { form.obj with order := orderOrNext form.obj.order orders }
    orBroken "A field with this order already exists."
      (fieldModel.saveObject form.change obj obj.withId obj.key_withId) fun obj => do
        invalidateStructure (toString parent.surveyId)
        return .saved obj

/-! ## `ConditionalRuleAdmin` and `FieldDependencyAdmin` -/

/-- The body the two `save_model` hooks share. -/
def saveModelWith {α δ : Type} [Keyed α] (model : Model α) (form : ModelForm α) (withId : Nat → α)
    (keyed : ∀ i, key (withId i) = i) (surveyId : α → Nat) (toData : Database → Except PyExn δ)
    (validate detectCircularDependencies : Database → δ → Except PyExn Unit) : Procedure (Reply α) :=
  orRefuse form.obj (requireDraft (surveyId form.obj)) fun _ => do
    let data ← query toData
    orRefuse form.obj (query fun db => validate db data) fun _ =>
      orRefuse form.obj (query fun db => detectCircularDependencies db data) fun _ => do
        let obj ← model.saveObject form.change form.obj withId keyed
        invalidateStructure (toString (surveyId obj))
        return .saved obj

/-- `obj.pk if change else None` -/
def ModelForm.excludeId {α : Type} [Keyed α] (form : ModelForm α) : Option Nat :=
  if form.change then some (key form.obj) else none

/-- `ConditionalRule.clean`, run by the form. -/
def ConditionalRule.clean (db : Database) (obj : ConditionalRule) : Except PyExn Unit := do
  rejectIf (obj.targetSectionId.isSome = obj.targetFieldId.isSome)
    "Exactly one of target_section or target_field must be set."
  let dependsOn ← getRelated db.placedField obj.dependsOnFieldId
  rejectIf (dependsOn.surveyId ≠ obj.surveyId) "survey must match depends_on_field's survey."

/-- The `data` of the hook, with the related objects. -/
def ConditionalRule.toData (obj : ConditionalRule) (db : Database) : Except PyExn ConditionalRuleData := do
  let targetSection ← obj.targetSectionId.mapM (getRelated db.sections.get)
  let targetField ← obj.targetFieldId.mapM (getRelated db.placedField)
  let dependsOn ← getRelated db.placedField obj.dependsOnFieldId
  return ⟨some targetSection, some targetField, some dependsOn, some obj.operator, some obj.value⟩

def ConditionalRuleAdmin.saveModel (py : Interpreter) (order : SetOrder) (form : ModelForm ConditionalRule) :
    Procedure (Reply ConditionalRule) :=
  saveModelWith conditionalRuleModel form form.obj.withId form.obj.key_withId ConditionalRule.surveyId form.obj.toData
    -- no `survey_pk`, so the survey of the row is not compared with that of its fields
    (fun _ data => validateConditionalRuleData py data none)
    (fun db data => detectCircularDependenciesCr order db data.dependsOnField data.targetField.join form.excludeId)

/-- `FieldDependency.clean`, run by the form. -/
def FieldDependency.clean (db : Database) (obj : FieldDependency) : Except PyExn Unit := do
  let dependent ← getRelated db.placedField obj.dependentFieldId
  rejectIf (dependent.surveyId ≠ obj.surveyId) "survey must match dependent_field's survey."

def FieldDependency.toData (obj : FieldDependency) (db : Database) : Except PyExn FieldDependencyData := do
  let dependent ← getRelated db.placedField obj.dependentFieldId
  let dependsOn ← getRelated db.placedField obj.dependsOnFieldId
  return ⟨some dependent, some dependsOn, some obj.operator, some obj.value, some obj.action, some obj.actionValue⟩

def FieldDependencyAdmin.saveModel (py : Interpreter) (order : SetOrder) (form : ModelForm FieldDependency) :
    Procedure (Reply FieldDependency) :=
  saveModelWith fieldDependencyModel form form.obj.withId form.obj.key_withId FieldDependency.surveyId form.obj.toData
    (fun db data => validateFieldDependencyData py db.conditionalRules.rows data none)
    (fun db data => detectCircularDependenciesFd order db data.dependsOnField data.dependentField form.excludeId)

/-! ## The change view -/

/-- After a caught `IntegrityError` the next statement of the request raises. -/
def Reply.goOn {β : Type} : Reply β → Except PyExn β
  | .saved obj | .refused obj _ => .ok obj
  | .broken _ => .error .databaseError

/-- `construct_change_message` asks a formset for what it saved: one that was not
saved has no `new_objects`. -/
def Reply.changeMessage : Reply Unit → Except PyExn Unit
  | .saved _ => .ok ()
  | .refused _ _ => .error .attributeError
  | .broken _ => .error .databaseError

/-- `save_model`, `save_formset` for the inline formset, and the entry for the log of the
admin site; all in one transaction. -/
def changeformView {β : Type} (saveModel : Procedure (Reply β)) (saveRelated : β → Procedure (Reply Unit)) :
    Procedure Unit := atomicBlock do
  let reply ← saveModel
  let obj ← query fun _ => reply.goOn
  let related ← saveRelated obj
  query fun _ => related.changeMessage

/-- A form whose `clean` raises is shown again. -/
def ifClean (clean : Database → Except PyExn Unit) (save : Procedure Unit) : Procedure Unit := fun w =>
  match clean w.db with
  | .ok _ => save w
  | .error exn => if (validationErrorToMessage exn).isSome then .ok () w else .error exn w

/-- A submitted page of the admin site. -/
inductive AdminForm where
  | survey (form : ModelForm Survey) (sections : Formset Section)
  | «section» (form : ModelForm Section) (fields : Formset Field)
  | field (form : ModelForm Field)
  | conditionalRule (form : ModelForm ConditionalRule)
  | fieldDependency (form : ModelForm FieldDependency)

def AdminForm.submit (py : Interpreter) (order : SetOrder) : AdminForm → Procedure Unit
  | .survey form sections =>
    changeformView (SurveyAdmin.saveModel form) fun obj => SurveyAdmin.saveFormset obj sections
  | .section form fields =>
    changeformView (SectionAdmin.saveModel form) fun obj => SectionAdmin.saveFormset py obj fields
  | .field form => changeformView (FieldAdmin.saveModel py form) fun _ => pure (.saved ())
  | .conditionalRule form =>
    ifClean (fun db => form.obj.clean db) <|
      changeformView (ConditionalRuleAdmin.saveModel py order form) fun _ => pure (.saved ())
  | .fieldDependency form =>
    ifClean (fun db => form.obj.clean db) <|
      changeformView (FieldDependencyAdmin.saveModel py order form) fun _ => pure (.saved ())

/-! ## Deletions -/

/-- The body the `delete_model` hooks share that ask for a draft. -/
def deleteModelWith (surveyId : Nat) (delete : Database → Database) : Procedure (Reply Unit) :=
  orRefuse () (requireDraft surveyId) fun _ => do
    statement delete
    invalidateStructure (toString surveyId)
    return .saved ()

/-- The structure is cleared while `obj` still has its key, and in any status. -/
def SurveyAdmin.deleteModel (obj : Survey) : Procedure (Reply Unit) := do
  invalidateStructure (toString obj.id)
  statement fun db => db.deleteSurvey obj.id
  return .saved ()

def SectionAdmin.deleteModel (obj : Section) : Procedure (Reply Unit) :=
  deleteModelWith obj.surveyId fun db => db.deleteSections (· == obj.id)

def FieldAdmin.deleteModel (obj : Field) : Procedure (Reply Unit) := do
  let parent ← query fun db => getRelated db.sections.get obj.sectionId
  deleteModelWith parent.surveyId fun db => db.deleteFields (· == obj.id)

def ConditionalRuleAdmin.deleteModel (obj : ConditionalRule) : Procedure (Reply Unit) :=
  deleteModelWith obj.surveyId fun db =>
    { db with conditionalRules := db.conditionalRules.deleteWhere (·.id == obj.id) }

def FieldDependencyAdmin.deleteModel (obj : FieldDependency) : Procedure (Reply Unit) :=
  deleteModelWith obj.surveyId fun db =>
    { db with fieldDependencies := db.fieldDependencies.deleteWhere (·.id == obj.id) }

/-- `perms_needed` of a survey: its responses go with it, and `SurveyResponseAdmin` lets
nobody delete one. -/
def SurveyAdmin.permsNeeded (obj : Survey) (db : Database) : Bool :=
  db.responses.rows.any (·.surveyId = obj.id)

/-- What else a deletion takes along, stored answers among it, asks for no further permission. -/
def noPermsNeeded {α : Type} (_ : α) (_ : Database) : Bool := false

/-- `delete_view` after the confirmation; without its object the page redirects. -/
def deleteView {α : Type} (find : Database → Option α) (permsNeeded : α → Database → Bool)
    (deleteModel : α → Procedure (Reply Unit)) : Procedure Unit :=
  atomicBlock do
    let found ← query fun db => .ok (find db)
    found.elim (pure ()) fun obj => do
      query fun db => if permsNeeded obj db then .error .permissionDenied else .ok ()
      let _ ← deleteModel obj

/-- A page of the admin site that deletes an object. -/
inductive DeletePage where
  | survey (pk : Nat)
  | «section» (pk : Nat)
  | field (pk : Nat)
  | conditionalRule (pk : Nat)
  | fieldDependency (pk : Nat)

def DeletePage.submit : DeletePage → Procedure Unit
  | .survey pk => deleteView (·.surveys.get pk) SurveyAdmin.permsNeeded SurveyAdmin.deleteModel
  | .section pk => deleteView (·.sections.get pk) noPermsNeeded SectionAdmin.deleteModel
  | .field pk => deleteView (·.fields.get pk) noPermsNeeded FieldAdmin.deleteModel
  | .conditionalRule pk => deleteView (·.conditionalRules.get pk) noPermsNeeded ConditionalRuleAdmin.deleteModel
  | .fieldDependency pk => deleteView (·.fieldDependencies.get pk) noPermsNeeded FieldDependencyAdmin.deleteModel

end SurveyPlatform.Surveys

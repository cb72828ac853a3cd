import SurveyPlatform.Surveys.CycleChecks

/-! # Services

The create, update and delete services of `apps/surveys/services.py`, the two
revalidation helpers they call, and `Survey.transition_to` of
`apps/surveys/models.py`.

`validated_data` is a record with an `Option` for each key; `assign` is the
`setattr` loop.
-/

namespace SurveyPlatform.Surveys

open SurveyPlatform.Library SurveyPlatform.Library.Program SurveyPlatform.Python

/-! ## Validated data -/

structure SurveyData where
  title : Option String
  description : Option String
  status : Option SurveyStatus

structure SectionData where
  title : Option String
  description : Option String
  order : Option Nat

structure FieldData where
  label : Option String
  fieldType : Option FieldType
  required : Option Bool
  order : Option Nat
  options : Option Json
  isEncrypted : Option Bool
  validationRules : Option Json

def SurveyData.assign (data : SurveyData) (row : Survey) : Survey :=
  { row with
    title := data.title.getD row.title
    description := data.description.getD row.description
    status := data.status.getD row.status }

def SectionData.assign (data : SectionData) (row : Section) : Section :=
  { row with
    title := data.title.getD row.title
    description := data.description.getD row.description
    order := data.order.getD row.order }

def FieldData.assign (data : FieldData) (row : Field) : Field :=
  { row with
    label := data.label.getD row.label
    fieldType := data.fieldType.getD row.fieldType
    required := data.required.getD row.required
    order := data.order.getD row.order
    options := data.options.getD row.options
    isEncrypted := data.isEncrypted.getD row.isEncrypted
    validationRules := data.validationRules.getD row.validationRules }

/-- A nullable foreign key: `null` clears the column, a missing key leaves it. -/
def assignKey {α : Type} [Keyed α] (submitted : Option (Option α)) (stored : Option Nat) : Option Nat :=
  match submitted with
  | some target => target.map key
  | none => stored

instance : Keyed PlacedField := ⟨fun field => field.id⟩

@[simp] theorem key_placedField (field : PlacedField) : key field = field.id := rfl

def ConditionalRuleData.assign (data : ConditionalRuleData) (row : ConditionalRule) : ConditionalRule :=
  { row with
    targetSectionId := assignKey data.targetSection row.targetSectionId
    targetFieldId := assignKey data.targetField row.targetFieldId
    dependsOnFieldId := (data.dependsOnField.map key).getD row.dependsOnFieldId
    operator := data.operator.getD row.operator
    value := data.value.getD row.value }

def FieldDependencyData.assign (data : FieldDependencyData) (row : FieldDependency) : FieldDependency :=
  { row with
    dependentFieldId := (data.dependentField.map key).getD row.dependentFieldId
    dependsOnFieldId := (data.dependsOnField.map key).getD row.dependsOnFieldId
    operator := data.operator.getD row.operator
    value := data.value.getD row.value
    action := data.action.getD row.action
    actionValue := data.actionValue.getD row.actionValue }

theorem SurveyData.key_assign (data : SurveyData) (row : Survey) : key (data.assign row) = key row := rfl
theorem SectionData.key_assign (data : SectionData) (row : Section) : key (data.assign row) = key row := rfl
theorem FieldData.key_assign (data : FieldData) (row : Field) : key (data.assign row) = key row := rfl
theorem ConditionalRuleData.key_assign (data : ConditionalRuleData) (row : ConditionalRule) :
    key (data.assign row) = key row := rfl
theorem FieldDependencyData.key_assign (data : FieldDependencyData) (row : FieldDependency) :
    key (data.assign row) = key row := rfl

def SectionData.isEmpty (data : SectionData) : Bool :=
  data.title.isNone && data.description.isNone && data.order.isNone

def FieldData.isEmpty (data : FieldData) : Bool :=
  data.label.isNone && data.fieldType.isNone && data.required.isNone && data.order.isNone &&
    data.options.isNone && data.isEncrypted.isNone && data.validationRules.isNone

def ConditionalRuleData.isEmpty (data : ConditionalRuleData) : Bool :=
  data.targetSection.isNone && data.targetField.isNone && data.dependsOnField.isNone &&
    data.operator.isNone && data.value.isNone

def FieldDependencyData.isEmpty (data : FieldDependencyData) : Bool :=
  data.dependentField.isNone && data.dependsOnField.isNone && data.operator.isNone && data.value.isNone &&
    data.action.isNone && data.actionValue.isNone

/-- `instance.save(update_fields=list(validated_data.keys()))` does nothing without a key. -/
def saveFields (isEmpty : Bool) (update : Procedure Unit) : Procedure Unit :=
  if isEmpty then pure () else update

@[simp] theorem saveFields_false (update : Procedure Unit) : saveFields false update = update := rfl

/-! ## `Survey.transition_to` -/

/-- At least one section, and a field in every section. -/
def checkPublishable (db : Database) (surveyId : Nat) : Except PyExn Unit := do
  let sections := db.sectionsOf surveyId
  rejectIf (sections.isEmpty) "Cannot publish a survey without at least one section."
  let emptySections := sections.filter fun row => (db.fieldsOf row.id).isEmpty
  -- `Section.Meta.ordering`
  let titles := (emptySections.mergeSort fun a b => a.order ≤ b.order).map Section.title
  rejectIf (!emptySections.isEmpty)
    ("Cannot publish: the following sections have no fields: " ++ join ", " titles ++ ".")

/-- Everything `transition_to` does before it writes. -/
def checkTransition (db : Database) (current : Survey) (newStatus : SurveyStatus) : Except PyExn Unit := do
  rejectIf (newStatus ∉ current.status.allowedTransitions)
    ("Cannot transition from '" ++ current.status.value ++ "' to '" ++ newStatus.value ++ "'.")
  if newStatus = .published then checkPublishable db current.id

/-- A survey with a section, and a field in each of its sections. -/
def Publishable (db : Database) (surveyId : Nat) : Prop :=
  db.sectionsOf surveyId ≠ [] ∧ ∀ row ∈ db.sectionsOf surveyId, db.fieldsOf row.id ≠ []

theorem checkPublishable_eq_ok {db : Database} {surveyId : Nat} :
    checkPublishable db surveyId = .ok () ↔ Publishable db surveyId := by
  simp [checkPublishable, seq_eq_ok, Publishable]

theorem checkTransition_eq_ok {db : Database} {current : Survey} {newStatus : SurveyStatus} :
    checkTransition db current newStatus = .ok () ↔
      newStatus.rank = current.status.rank + 1 ∧ (newStatus = .published → Publishable db current.id) := by
  rw [← SurveyStatus.mem_allowedTransitions, checkTransition, seq_eq_ok, rejectIf_eq_ok, not_not,
    ← checkPublishable_eq_ok]
  -- only the step to `published` looks at the sections
  by_cases publishing : newStatus = .published <;> simp [publishing, pure_eq_ok]

def transitionTo (current : Survey) (newStatus : SurveyStatus) : Procedure Survey := do
  query fun db => checkTransition db current newStatus
  saveStatus current.id newStatus
  return current.withStatus newStatus

/-! ## Revalidation -/

/-- `try: check except ValidationError as e: errors.append(f"{name}: {e.message}")`, for each check. -/
def collectErrors : List (String × Except PyExn Unit) → Except PyExn (List String)
  | [] => .ok []
  | (name, check) :: rest =>
    match check with
    | .ok () => collectErrors rest
    | .error (.validationError message) => (List.cons (name ++ ": " ++ message) ·) <$> collectErrors rest
    -- anything but a `ValidationError` ends the loop
    | .error exn => .error exn

def revalidateRulesForField (py : Interpreter) (db : Database) (field : Field) : Except PyExn Unit := do
  let rules := db.conditionalRules.rows.filter (·.dependsOnFieldId = field.id)
  let sources := db.fieldDependencies.rows.filter (·.dependsOnFieldId = field.id)
  let targets := db.fieldDependencies.rows.filter (·.dependentFieldId = field.id)
  let errors ← collectErrors
    (rules.map (fun rule => ("ConditionalRule #" ++ toString rule.id,
        validateOperatorValue py field rule.operator rule.value)) ++
      sources.map (fun dep => ("FieldDependency #" ++ toString dep.id ++ " (operator/value)",
        validateOperatorValue py field dep.operator dep.value)) ++
      targets.map (fun dep => ("FieldDependency #" ++ toString dep.id ++ " (action_value)",
        validateActionValue py dep.action dep.actionValue field)))
  rejectIf (!errors.isEmpty) ("Changing this field would invalidate existing rules/dependencies: " ++
    join "; " errors)

/-- Inner joins drop a rule whose fields are gone. -/
def revalidateOrderingForSurvey (db : Database) (surveyId : Nat) : Except PyExn Unit := do
  let rules := db.conditionalRules.rows.filter (·.surveyId = surveyId)
  let dependencies := db.fieldDependencies.rows.filter (·.surveyId = surveyId)
  let errors ← collectErrors
    (rules.filterMap (fun rule => (db.placedField rule.dependsOnFieldId).map fun dependsOn =>
        ("ConditionalRule #" ++ toString rule.id, validateOrderingConstraint dependsOn
          (rule.targetSectionId.bind db.sections.get) (rule.targetFieldId.bind db.placedField))) ++
      dependencies.filterMap (fun dep => do
        let dependsOn ← db.placedField dep.dependsOnFieldId
        let dependent ← db.placedField dep.dependentFieldId
        return ("FieldDependency #" ++ toString dep.id, validateFdOrderingConstraint dependsOn dependent)))
  rejectIf (!errors.isEmpty) ("Changing section order would invalidate existing rules/dependencies: " ++
    join "; " errors)

/-! ## Sections -/

/-- `except IntegrityError: raise ...` -/
def onIntegrityError (raised : PyExn) : PyExn → PyExn
  | .integrityError => raised
  | exn => exn

def updateSection (current : Section) (data : SectionData) : Procedure Section := do
  translating (onIntegrityError (.validationError "A section with this order already exists in this survey.")) <|
    atomicBlock do
      saveFields data.isEmpty (sectionModel.update current.id data.assign data.key_assign)
      -- still inside the transaction, so a refusal takes the new order back
      query fun db =>
        if data.order.any (· != current.order) then revalidateOrderingForSurvey db current.surveyId else .ok ()
  invalidateStructure (toString current.surveyId)
  return data.assign current

def deleteSection (current : Section) : Procedure Unit := do
  -- the cache is cleared before the rows go
  invalidateStructure (toString current.surveyId)
  statement fun db => db.deleteSections (· == current.id)

/-! ## Fields -/

/-- `Field(section=section)` before its columns are given. -/
def blankField (sectionId : Nat) : Field :=
  ⟨0, sectionId, "", .text, false, 0, .list [], false, .object []⟩

/-- `data` has at least `label`, `field_type` and `order`. -/
def createField (parent : Section) (data : FieldData) : Procedure Field := do
  let new := data.assign (blankField parent.id)
  let field ← translating
    (onIntegrityError (.validationErrorDict "order" "A field with this order already exists in this section."))
    (fieldModel.insert new.withId new.key_withId)
  invalidateStructure (toString parent.surveyId)
  return field

def updateField (py : Interpreter) (current : PlacedField) (data : FieldData) : Procedure Field := do
  let oldOptions ← query fun _ =>
    if current.options.truthy then current.options.iterate else .ok []
  let updated := data.assign current.toField
  translating (onIntegrityError (.validationError "A field with this order already exists in this section.")) <|
    atomicBlock do
      saveFields data.isEmpty (fieldModel.update current.id data.assign data.key_assign)
      -- compared with the row as it was read, against the values as submitted
      let typeChanged := data.fieldType.any (· != current.fieldType)
      let optionsChanged := data.options.any fun options => !options.pyEq (.list oldOptions)
      query fun db => if typeChanged || optionsChanged then revalidateRulesForField py db updated else .ok ()
  invalidateStructure (toString current.surveyId)
  return updated

def deleteField (current : PlacedField) : Procedure Unit := do
  invalidateStructure (toString current.surveyId)
  statement fun db => db.deleteFields (· == current.id)

/-! ## Conditional rules -/

def blankConditionalRule (surveyId : Nat) : ConditionalRule := ⟨0, surveyId, none, none, 0, .equals, .null⟩

/-- `validated_data` has at least `depends_on_field`, `operator` and `value`. -/
def createConditionalRule (data : ConditionalRuleData) (surveyPk : Nat) : Procedure ConditionalRule := do
  let new := data.assign (blankConditionalRule surveyPk)
  let rule ← conditionalRuleModel.insert new.withId new.key_withId
  invalidateStructure (toString surveyPk)
  return rule

def updateConditionalRule (current : ConditionalRule) (data : ConditionalRuleData) (surveyPk : Nat) :
    Procedure ConditionalRule := do
  saveFields data.isEmpty (conditionalRuleModel.update current.id data.assign data.key_assign)
  invalidateStructure (toString surveyPk)
  return data.assign current

def deleteConditionalRule (current : ConditionalRule) (surveyPk : Nat) : Procedure Unit := do
  invalidateStructure (toString surveyPk)
  statement fun db => { db with conditionalRules := db.conditionalRules.deleteWhere (·.id == current.id) }

/-! ## Field dependencies -/

def blankFieldDependency (surveyId : Nat) : FieldDependency :=
  ⟨0, surveyId, 0, 0, .equals, .null, .showOptions, .null⟩

/-- `validated_data` has every key. -/
def createFieldDependency (data : FieldDependencyData) (surveyPk : Nat) : Procedure FieldDependency := do
  let new := data.assign (blankFieldDependency surveyPk)
  let dep ← fieldDependencyModel.insert new.withId new.key_withId
  invalidateStructure (toString surveyPk)
  return dep

def updateFieldDependency (current : FieldDependency) (data : FieldDependencyData) (surveyPk : Nat) :
    Procedure FieldDependency := do
  saveFields data.isEmpty (fieldDependencyModel.update current.id data.assign data.key_assign)
  invalidateStructure (toString surveyPk)
  return data.assign current

def deleteFieldDependency (current : FieldDependency) (surveyPk : Nat) : Procedure Unit := do
  invalidateStructure (toString surveyPk)
  statement fun db => { db with fieldDependencies := db.fieldDependencies.deleteWhere (·.id == current.id) }

end SurveyPlatform.Surveys

import SurveyPlatform.Surveys.Services

/-! # Write serializers

The serializers of `apps/surveys/serializers.py` on a request body.  What the
REST framework's own fields make of a key is given as `Submitted`; from there on
`is_valid` is followed as it runs: every declared field, then its
`validate_<field>` method, all errors collected, and only then `validate`.

Related objects are looked up by primary key here, as `PrimaryKeyRelatedField`
does.
-/

namespace SurveyPlatform.Surveys

open SurveyPlatform.Library SurveyPlatform.Library.Program SurveyPlatform.Python

/-! ## Declared fields -/

/-- A key of the body: missing, refused by the field with a message, or a value. -/
inductive Submitted (α : Type) where
  | missing
  | refused (message : String)
  | given (value : α)

namespace Submitted

variable {α β : Type}

def error? (required : Bool) : Submitted α → Option String
  | missing => if required then some "This field is required." else none
  | refused message => some message
  | given _ => none

def value? : Submitted α → Option α
  | given value => some value
  | _ => none

/-- A further conversion of the value, which may refuse it. -/
def convert (f : α → Except String β) : Submitted α → Submitted β
  | missing => missing
  | refused message => refused message
  | given value =>
    match f value with
    | .ok value => given value
    | .error message => refused message

end Submitted

/-- `if errors: raise ValidationError(errors)` -/
def raiseErrors (errors : List (String × Option String)) : Except PyExn Unit :=
  match errors.filterMap fun (field, error) => error.map (field, ·) with
  | [] => .ok ()
  | found => .error (.apiValidationError found)

/-- A `JSONField` that does not allow `null`. -/
def notNull (value : Json) : Except String Json :=
  if value.isNone then .error "This field may not be null." else .ok value

/-- `PrimaryKeyRelatedField` -/
def related {α : Type} (find : Nat → Option α) (pk : Nat) : Except String α :=
  match find pk with
  | some row => .ok row
  | none => .error ("Invalid pk \"" ++ toString pk ++ "\" - object does not exist.")

/-- A related field that allows `null`. -/
def relatedOrNull {α : Type} (find : Nat → Option α) : Option Nat → Except String (Option α)
  | none => .ok none
  | some pk => some <$> related find pk

/-- `except DjangoValidationError as e: raise ValidationError({field: e.message})` -/
def underField (field : String) : PyExn → PyExn
  | .validationError message => .apiValidationError [(field, message)]
  | exn => exn

/-- `except DjangoValidationError as e: raise ValidationError(e.message_dict)` -/
def underMessageDict : PyExn → PyExn
  | .validationErrorDict field message => .apiValidationError [(field, message)]
  | exn => exn

/-- A check with its exception translated. -/
def translated {α : Type} (translate : PyExn → PyExn) : Except PyExn α → Except PyExn α
  | .ok value => .ok value
  | .error exn => .error (translate exn)

@[simp] theorem translated_eq_ok {α : Type} {translate : PyExn → PyExn} {check : Except PyExn α} {value : α} :
    translated translate check = .ok value ↔ check = .ok value := by
  cases check <;> simp [translated]

/-! ### What passed -/

theorem raiseErrors_eq_ok {errors : List (String × Option String)} :
    raiseErrors errors = .ok () ↔ ∀ error ∈ errors, error.2 = none := by
  have empty_iff : (errors.filterMap fun (field, error) => error.map (field, ·)) = [] ↔
      ∀ error ∈ errors, error.2 = none := by
    simp [List.filterMap_eq_nil_iff]
  rw [← empty_iff, raiseErrors]
  cases errors.filterMap fun (field, error) => error.map (field, ·) <;> simp

theorem raiseErrors_ok_or_error (errors : List (String × Option String)) :
    raiseErrors errors = .ok () ∨ ∃ found, raiseErrors errors = .error (.apiValidationError found) := by
  unfold raiseErrors
  split
  · exact Or.inl rfl
  · exact Or.inr ⟨_, rfl⟩

theorem error?_required {α : Type} {submitted : Submitted α} (noError : submitted.error? true = none) :
    ∃ value, submitted = .given value := by
  cases submitted with
  | missing => cases noError
  | refused message => cases noError
  | given value => exact ⟨value, rfl⟩

theorem convert_eq_given {α β : Type} {submitted : Submitted α} {f : α → Except String β} {value : β}
    (converted : submitted.convert f = .given value) : ∃ raw, submitted = .given raw ∧ f raw = .ok value := by
  cases submitted with
  | missing => cases converted
  | refused message => cases converted
  | given raw =>
    refine ⟨raw, rfl, ?_⟩
    simp only [Submitted.convert] at converted
    cases result : f raw with
    | ok other => rw [result] at converted; cases converted; rfl
    | error message => rw [result] at converted; cases converted

theorem related_eq_ok {α : Type} {find : Nat → Option α} {pk : Nat} {row : α} :
    related find pk = .ok row ↔ find pk = some row := by
  unfold related
  cases find pk <;> simp

theorem notNull_eq_ok {value json : Json} (result : notNull value = .ok json) : value = json := by
  unfold notNull at result
  split at result
  · cases result
  · cases result; rfl

/-! ## Surveys -/

structure SurveyBody where
  title : Submitted String
  description : Submitted String
  status : Submitted SurveyStatus

/-- `validate_status`; on an update it may already write the new status. -/
def validateStatus (current : Option Survey) (value : SurveyStatus) : Procedure (Option Survey) :=
  match current with
  | none => do
    query fun _ => rejectIf (value ≠ .draft) "New surveys must be created with 'draft' status."
    return none
  | some survey => do
    if value ≠ survey.status then
      -- the status is in the database from here on, whatever else the body holds
      let survey ← transitionTo survey value
      return some survey
    else return some survey

/-- A `ValidationError` of the method becomes an error of its field. -/
def collecting {α : Type} (body : Procedure α) : Procedure (Except String α) := fun w =>
  match body w with
  | .ok value w' => .ok (.ok value) w'
  -- `run_validation` goes on with the next field; what the method wrote stays
  | .error (.validationError message) w' => .ok (.error message) w'
  | .error exn w' => .error exn w'

/-- The `status` field: its own validation, then `validate_status`. -/
def runStatusField (current : Option Survey) : Submitted SurveyStatus → Procedure (Except String (Option Survey))
  | .missing => return .ok current
  | .refused message => return .error message
  | .given value => collecting (validateStatus current value)

/-- `SurveyWriteSerializer.is_valid(raise_exception=True)`: the validated data, and
the instance as validation left it. -/
def validateSurvey (isPartial : Bool) (current : Option Survey) (body : SurveyBody) :
    Procedure (SurveyData × Option Survey) := do
  let status ← runStatusField current body.status
  match status with
  | .ok current =>
    -- the other fields may be refused after the status was written
    query fun _ => raiseErrors [("title", body.title.error? !isPartial),
      ("description", body.description.error? false)]
    return (⟨body.title.value?, body.description.value?, body.status.value?⟩, current)
  | .error message =>
    query fun _ => raiseErrors [("title", body.title.error? !isPartial),
      ("description", body.description.error? false), ("status", some message)]
    return (⟨none, none, none⟩, current)

/-! ## Sections -/

structure SectionBody where
  title : Submitted String
  description : Submitted String
  order : Submitted Nat

def validateSection (isPartial : Bool) (body : SectionBody) : Except PyExn SectionData := do
  raiseErrors [("title", body.title.error? !isPartial), ("description", body.description.error? false),
    ("order", body.order.error? false)]
  return ⟨body.title.value?, body.description.value?, body.order.value?⟩

/-! ## Fields -/

structure FieldBody where
  label : Submitted String
  fieldType : Submitted FieldType
  required : Submitted Bool
  order : Submitted Nat
  options : Submitted Json
  isEncrypted : Submitted Bool
  validationRules : Submitted Json

/-- `FieldSerializer.validate`: the submitted keys over the stored ones. -/
def validateFieldData (py : Interpreter) (current : Field) (data : FieldData) : Except PyExn FieldData := do
  -- a submitted value counts, or else the stored one
  let merged := data.assign current
  translated underMessageDict (validateFieldOptions py merged.fieldType merged.options)
  translated underMessageDict (validateValidationRules py merged.fieldType merged.validationRules)
  return data

def validateField (py : Interpreter) (isPartial : Bool) (current : Field) (body : FieldBody) :
    Except PyExn FieldData := do
  let options := body.options.convert notNull
  let validationRules := body.validationRules.convert notNull
  raiseErrors [("label", body.label.error? !isPartial), ("field_type", body.fieldType.error? !isPartial),
    ("required", body.required.error? false), ("order", body.order.error? false),
    ("options", options.error? false), ("is_encrypted", body.isEncrypted.error? false),
    ("validation_rules", validationRules.error? false)]
  validateFieldData py current ⟨body.label.value?, body.fieldType.value?, body.required.value?,
    body.order.value?, options.value?, body.isEncrypted.value?, validationRules.value?⟩

/-! ## Conditional rules -/

structure ConditionalRuleBody where
  targetSection : Submitted (Option Nat)
  targetField : Submitted (Option Nat)
  dependsOnField : Submitted Nat
  operator : Submitted ComparisonOperator
  value : Submitted Json

/-- The declared fields of `ConditionalRuleSerializer`. -/
def conditionalRuleFields (db : Database) (isPartial : Bool) (body : ConditionalRuleBody) :
    Except PyExn ConditionalRuleData := do
  let targetSection := body.targetSection.convert (relatedOrNull db.sections.get)
  let targetField := body.targetField.convert (relatedOrNull db.placedField)
  let dependsOnField := body.dependsOnField.convert (related db.placedField)
  let value := body.value.convert notNull
  raiseErrors [("target_section", targetSection.error? false), ("target_field", targetField.error? false),
    ("depends_on_field", dependsOnField.error? !isPartial), ("operator", body.operator.error? !isPartial),
    ("value", value.error? !isPartial)]
  return ⟨targetSection.value?, targetField.value?, dependsOnField.value?, body.operator.value?, value.value?⟩

/-- `ConditionalRuleSerializer.is_valid(raise_exception=True)` -/
def validateConditionalRule (py : Interpreter) (db : Database) (surveyPk : Nat) (isPartial : Bool)
    (body : ConditionalRuleBody) : Except PyExn ConditionalRuleData := do
  let data ← conditionalRuleFields db isPartial body
  translated (underField "non_field_errors") (validateConditionalRuleData py data (some surveyPk))
  return data

/-! ## Field dependencies -/

structure FieldDependencyBody where
  dependentField : Submitted Nat
  dependsOnField : Submitted Nat
  operator : Submitted ComparisonOperator
  value : Submitted Json
  action : Submitted Action
  actionValue : Submitted Json

/-- The declared fields of `FieldDependencySerializer`. -/
def fieldDependencyFields (db : Database) (isPartial : Bool) (body : FieldDependencyBody) :
    Except PyExn FieldDependencyData := do
  let dependentField := body.dependentField.convert (related db.placedField)
  let dependsOnField := body.dependsOnField.convert (related db.placedField)
  let value := body.value.convert notNull
  let actionValue := body.actionValue.convert notNull
  raiseErrors [("dependent_field", dependentField.error? !isPartial),
    ("depends_on_field", dependsOnField.error? !isPartial), ("operator", body.operator.error? !isPartial),
    ("value", value.error? !isPartial), ("action", body.action.error? !isPartial),
    ("action_value", actionValue.error? !isPartial)]
  return ⟨dependentField.value?, dependsOnField.value?, body.operator.value?, value.value?,
    body.action.value?, actionValue.value?⟩

/-- `FieldDependencySerializer.is_valid(raise_exception=True)` -/
def validateFieldDependency (py : Interpreter) (db : Database) (surveyPk : Nat) (isPartial : Bool)
    (body : FieldDependencyBody) : Except PyExn FieldDependencyData := do
  let data ← fieldDependencyFields db isPartial body
  translated (underField "non_field_errors")
    (validateFieldDependencyData py db.conditionalRules.rows data (some surveyPk))
  return data

end SurveyPlatform.Surveys

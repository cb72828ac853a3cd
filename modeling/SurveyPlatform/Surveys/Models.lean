import SurveyPlatform.Library.Table
import SurveyPlatform.Python.Values

/-! # Survey structure models

The rows of `apps/surveys/models.py` and `apps/responses/models.py`.  Foreign
keys are the `_id` columns; `created_at`, `updated_at` and `submitted_at` are
left out, since no modelled function reads them.

`PlacedField` is a `Field` instance together with its `section`, as the rule
validators follow it; it carries the proof that the two belong together.
-/

namespace SurveyPlatform.Surveys

open SurveyPlatform.Library SurveyPlatform.Python

/-! ## Choices -/

inductive SurveyStatus where
  | draft | published | archived
  deriving DecidableEq, Repr

inductive FieldType where
  | text | number | date | dropdown | checkbox | radio | textarea | email
  deriving DecidableEq, Repr

inductive ComparisonOperator where
  | equals | notEquals | contains | greaterThan | lessThan | isIn
  deriving DecidableEq, Repr

inductive Action where
  | showOptions | hideOptions | setValue
  deriving DecidableEq, Repr

def SurveyStatus.value : SurveyStatus → String
  | .draft => "draft"
  | .published => "published"
  | .archived => "archived"

def FieldType.value : FieldType → String
  | .text => "text"
  | .number => "number"
  | .date => "date"
  | .dropdown => "dropdown"
  | .checkbox => "checkbox"
  | .radio => "radio"
  | .textarea => "textarea"
  | .email => "email"

def ComparisonOperator.value : ComparisonOperator → String
  | .equals => "equals"
  | .notEquals => "not_equals"
  | .contains => "contains"
  | .greaterThan => "greater_than"
  | .lessThan => "less_than"
  | .isIn => "in"

def Action.value : Action → String
  | .showOptions => "show_options"
  | .hideOptions => "hide_options"
  | .setValue => "set_value"

/-! ## Rows -/

structure Survey where
  id : Nat
  title : String
  description : String
  createdBy : Nat
  status : SurveyStatus
  deriving DecidableEq, Repr

structure Section where
  id : Nat
  surveyId : Nat
  title : String
  description : String
  order : Nat
  deriving DecidableEq, Repr

structure Field where
  id : Nat
  sectionId : Nat
  label : String
  fieldType : FieldType
  required : Bool
  order : Nat
  options : Json
  isEncrypted : Bool
  validationRules : Json

structure ConditionalRule where
  id : Nat
  surveyId : Nat
  targetSectionId : Option Nat
  targetFieldId : Option Nat
  dependsOnFieldId : Nat
  operator : ComparisonOperator
  value : Json

structure FieldDependency where
  id : Nat
  surveyId : Nat
  dependentFieldId : Nat
  dependsOnFieldId : Nat
  operator : ComparisonOperator
  value : Json
  action : Action
  actionValue : Json

structure SurveyResponse where
  id : Nat
  surveyId : Nat
  userId : Nat
  deriving DecidableEq, Repr

structure FieldResponse where
  id : Nat
  surveyResponseId : Nat
  fieldId : Nat
  value : String
  deriving DecidableEq, Repr

instance : Keyed Survey := ⟨Survey.id⟩
instance : Keyed Section := ⟨Section.id⟩
instance : Keyed Field := ⟨Field.id⟩
instance : Keyed ConditionalRule := ⟨ConditionalRule.id⟩
instance : Keyed FieldDependency := ⟨FieldDependency.id⟩
instance : Keyed SurveyResponse := ⟨SurveyResponse.id⟩
instance : Keyed FieldResponse := ⟨FieldResponse.id⟩

@[simp] theorem key_survey (row : Survey) : key row = row.id := rfl
@[simp] theorem key_section (row : Section) : key row = row.id := rfl
@[simp] theorem key_field (row : Field) : key row = row.id := rfl
@[simp] theorem key_conditionalRule (row : ConditionalRule) : key row = row.id := rfl
@[simp] theorem key_fieldDependency (row : FieldDependency) : key row = row.id := rfl
@[simp] theorem key_surveyResponse (row : SurveyResponse) : key row = row.id := rfl
@[simp] theorem key_fieldResponse (row : FieldResponse) : key row = row.id := rfl

/-! ## New rows

An insert fills in the id; an instance has none before. -/

def Survey.withId (row : Survey) (id : Nat) : Survey := { row with id }
def Section.withId (row : Section) (id : Nat) : Section := { row with id }
def Field.withId (row : Field) (id : Nat) : Field := { row with id }
def ConditionalRule.withId (row : ConditionalRule) (id : Nat) : ConditionalRule := { row with id }
def FieldDependency.withId (row : FieldDependency) (id : Nat) : FieldDependency := { row with id }
def SurveyResponse.withId (row : SurveyResponse) (id : Nat) : SurveyResponse := { row with id }
def FieldResponse.withId (row : FieldResponse) (id : Nat) : FieldResponse := { row with id }

theorem Survey.key_withId (row : Survey) (id : Nat) : key (row.withId id) = id := rfl
theorem Section.key_withId (row : Section) (id : Nat) : key (row.withId id) = id := rfl
theorem Field.key_withId (row : Field) (id : Nat) : key (row.withId id) = id := rfl
theorem ConditionalRule.key_withId (row : ConditionalRule) (id : Nat) : key (row.withId id) = id := rfl
theorem FieldDependency.key_withId (row : FieldDependency) (id : Nat) : key (row.withId id) = id := rfl
theorem SurveyResponse.key_withId (row : SurveyResponse) (id : Nat) : key (row.withId id) = id := rfl
theorem FieldResponse.key_withId (row : FieldResponse) (id : Nat) : key (row.withId id) = id := rfl

/-! ## Fields in place -/

/-- A `Field` instance with its `section`. -/
structure PlacedField extends Field where
  sectionRow : Section
  placed : sectionRow.id = sectionId

/-- A field with the row found for its `section_id`. -/
def Field.placeIn (field : Field) (parent : Option Section) : Option PlacedField :=
  parent.bind fun parent =>
    -- the foreign key names this row
    if placed : parent.id = field.sectionId then some ⟨field, parent, placed⟩ else none

theorem Field.placeIn_eq_some {field : Field} {parent : Option Section} {placedField : PlacedField} :
    field.placeIn parent = some placedField ↔
      parent = some placedField.sectionRow ∧ placedField.toField = field := by
  cases parent with
  | none => simp [placeIn]
  | some parent =>
    simp only [placeIn, Option.bind_some, Option.some.injEq]
    constructor
    · intro found
      split at found
      · cases found; exact ⟨rfl, rfl⟩
      · cases found
    · intro holds
      obtain ⟨rfl, rfl⟩ := holds
      simp [placedField.placed]

/-- `field.section.survey_id` -/
def PlacedField.surveyId (field : PlacedField) : Nat := field.sectionRow.surveyId

/-! ## Classes of field types -/

/-- `field_type in CHOICE_TYPES` -/
def FieldType.isChoice : FieldType → Bool
  | .dropdown | .radio | .checkbox => true
  | _ => false

/-- `field_type in TEXT_TYPES` -/
def FieldType.isText : FieldType → Bool
  | .text | .textarea | .email => true
  | _ => false

/-- `field_type in NUMERIC_TYPES` -/
def FieldType.isNumeric : FieldType → Bool
  | .number => true
  | _ => false

/-! ## The status machine -/

def Survey.withStatus (row : Survey) (status : SurveyStatus) : Survey := { row with status }

theorem Survey.key_withStatus (status : SurveyStatus) (row : Survey) : key (row.withStatus status) = key row := rfl

/-- `Survey.ALLOWED_TRANSITIONS` -/
def SurveyStatus.allowedTransitions : SurveyStatus → List SurveyStatus
  | .draft => [.published]
  | .published => [.archived]
  | .archived => []

/-- The position of a status along draft → published → archived. -/
def SurveyStatus.rank : SurveyStatus → Nat
  | .draft => 0
  | .published => 1
  | .archived => 2

/-- An allowed transition is exactly one step forward. -/
theorem SurveyStatus.mem_allowedTransitions {s t : SurveyStatus} :
    t ∈ s.allowedTransitions ↔ t.rank = s.rank + 1 := by
  cases s <;> cases t <;> simp [allowedTransitions, rank]

end SurveyPlatform.Surveys

import SurveyPlatform.Surveys.Conditions

/-! # Submission validation

`validate_submission` of `apps/responses/services.py` with its three checks, on
the prefetched structure of a survey.

`SurveyStructure` is what `prefetch_survey_structure` returns, with the facts
the database guarantees about it as fields.  A run ends with the cleaned
answers, with `ValidationError(errors)`, or with an exception a check let
through (`SubmissionExn`).
-/

namespace SurveyPlatform.Responses

open SurveyPlatform.Library SurveyPlatform.Python SurveyPlatform.Surveys

structure SurveyStructure where
  sections : List Section
  fields : List Field
  sectionRules : List ConditionalRule
  fieldRules : List ConditionalRule
  dependencies : List FieldDependency
  sectionIds : (sections.map Section.id).Nodup
  fieldIds : (fields.map Field.id).Nodup
  placed : ∀ field ∈ fields, ∃ parent ∈ sections, parent.id = field.sectionId

def SurveyStructure.section? (survey : SurveyStructure) (id : Nat) : Option Section :=
  survey.sections.find? (·.id = id)

def SurveyStructure.field? (survey : SurveyStructure) (id : Nat) : Option PlacedField := do
  let field ← survey.fields.find? (·.id = id)
  field.placeIn (survey.section? field.sectionId)

inductive SubmissionExn where
  | invalid (errors : Dict String String)
  | raised (exn : PyExn)

/-! ## `_validate_field_type` -/

def listStr (py : Interpreter) (strings : List String) : String := py.str (.list (strings.map .str))

def validateFieldType (py : Interpreter) (field : Field) (value : Json) (valueStr : String) :
    Except PyExn (Option String) :=
  match field.fieldType with
  | .number =>
    match parseFloat valueStr with
    -- any number passes, also `nan` and `inf`
    | some _ => .ok none
    | none => .ok (some "Must be a number.")
  | .email =>
    if matchesEmailPattern valueStr then .ok none else .ok (some "Invalid email address.")
  | .date =>
    if matchesDatePattern valueStr then .ok none
    else .ok (some "Invalid date format. Use YYYY-MM-DD.")
  | .dropdown | .radio => do
    let options ← py.strs field.options
    if options.contains valueStr then return none
    else return some ("Invalid choice. Must be one of: " ++ py.str field.options)
  | .checkbox =>
    match value with
    | .list items => do
      let validOptions ← py.strs field.options
      let invalid := (items.map py.str).filter (fun v => !validOptions.contains v)
      if invalid = [] then return none
      else return some ("Invalid choices: " ++ listStr py invalid ++ ". Must be from: " ++ py.str field.options)
    | _ => .ok (some "Checkbox value must be a list.")
  | .text | .textarea => .ok none

/-! ## `_validate_rules` -/

/-- `key in rules` -/
def ruleIn (key : String) : Json → Except PyExn Bool
  | .object entries => .ok (entries.lookup key).isSome
  | .list items => .ok (items.any (·.pyEq (.str key)))
  | .str text => .ok (isIn key text)
  | _ => .error .typeError

/-- `rules[key]` -/
def ruleGet (key : String) : Json → Except PyExn Json
  | .object entries => match entries.lookup key with
    | some value => .ok value
    -- `field_map[field_id]`; a visible id has its field, so this does not happen
    | none => .error .keyError
  | _ => .error .typeError

/-- One rule of the chain: if present and violated, its message. -/
def applyRule (py : Interpreter) (key : String) (violated : Json → Except PyExn Bool)
    (message : String → String) (rules : Json) : Except PyExn (Option String) := do
  if ← ruleIn key rules then
    let bound ← ruleGet key rules
    if ← violated bound then return some (message (py.str bound)) else return none
  else return none

/-- The first message of a chain of checks. -/
def firstMessage : List (Except PyExn (Option String)) → Except PyExn (Option String)
  | [] => .ok none
  | check :: rest => do
    match ← check with
    | some message => return some message
    | none => firstMessage rest

theorem firstMessage_eq_none {checks : List (Except PyExn (Option String))} :
    firstMessage checks = .ok none ↔ ∀ check ∈ checks, check = .ok none := by
  induction checks with
  | nil => simp [firstMessage]
  | cons check rest inductionHypothesis =>
    rw [List.forall_mem_cons, ← inductionHypothesis]
    cases check with
    | error exn => simp [firstMessage, bind, Except.bind]
    | ok message => cases message <;> simp [firstMessage, bind, Except.bind, pure, Except.pure]

/-- `float(value_str) < float(bound)`, where a value that is no number violates nothing. -/
def outOfRange (valueStr : String) (beyond : PyFloat → PyFloat → Bool) (bound : Json) :
    Except PyExn Bool :=
  tryExcept PyExn.isValueOrType (.ok false) do
    let x ← (Json.str valueStr).toFloat
    -- a bound that is no number violates nothing either
    let limit ← bound.toFloat
    return beyond x limit

def validateRules (py : Interpreter) (field : Field) (valueStr : String) : Except PyExn (Option String) :=
  let rules := field.validationRules
  if rules.truthy then
    firstMessage [
      applyRule py "min_length" (fun bound => (Json.int valueStr.length).ltNumber bound)
        (fun bound => "Minimum length is " ++ bound ++ ".") rules,
      applyRule py "max_length" (fun bound => bound.ltNumber (.int valueStr.length))
        (fun bound => "Maximum length is " ++ bound ++ ".") rules,
      applyRule py "min" (outOfRange valueStr fun x limit => x.lt limit)
        (fun bound => "Minimum value is " ++ bound ++ ".") rules,
      applyRule py "max" (outOfRange valueStr fun x limit => limit.lt x)
        (fun bound => "Maximum value is " ++ bound ++ ".") rules,
      applyRule py "regex" (fun pattern => (!·) <$> py.reMatch pattern valueStr)
        (fun _ => "Value does not match required pattern.") rules]
  else .ok none

/-! ## `_validate_dependency_options` -/

/-- `value if isinstance(value, list) else [value]` -/
def checkedItems : Json → List Json
  | .list items => items
  | value => [value]

/-- The message of one active modification, if the value violates it. -/
def modificationError (py : Interpreter) (value : Json) (modification : Modification) :
    Except PyExn (Option String) := do
  match modification.action with
  | .showOptions =>
    let allowed ← py.strs modification.actionValue
    let invalid := ((checkedItems value).map py.str).filter (fun v => !allowed.contains v)
    if invalid = [] then return none
    else return some ("Invalid choices given current conditions: " ++ listStr py invalid)
  | .hideOptions =>
    let hidden ← py.strs modification.actionValue
    let blocked := ((checkedItems value).map py.str).filter (fun v => hidden.contains v)
    if blocked = [] then return none
    else return some ("Options not available given current conditions: " ++ listStr py blocked)
  | .setValue => return none

/-- The loop over a field's modifications, `modifications.get(field.id)`; it returns at the first
violated one. -/
def validateDependencyOptions (py : Interpreter) (value : Json) (modifications : List Modification) :
    Except PyExn (Option String) :=
  firstMessage (modifications.map (modificationError py value))

/-! ## One field -/

/-- `value is None or str(value).strip() == ""` -/
def isBlank (py : Interpreter) : Option Json → Bool
  | none => true
  | some value => value.isNone || strip (py.str value) == ""

inductive Verdict where
  | rejected (message : String)
  | skipped
  | kept (value : Json)

/-- The checks of a value that is not blank, up to the first message. -/
def valueError? (py : Interpreter) (field : Field) (value : Json) (modifications : List Modification) :
    Except PyExn (Option String) :=
  firstMessage [
    validateFieldType py field value (py.str value),
    validateRules py field (py.str value),
    validateDependencyOptions py value modifications]

/-- No value is at fault exactly when none of the three checks finds anything. -/
theorem valueError?_eq_none {py : Interpreter} {field : Field} {value : Json} {modifications : List Modification} :
    valueError? py field value modifications = .ok none ↔
      validateFieldType py field value (py.str value) = .ok none ∧
        validateRules py field (py.str value) = .ok none ∧
          ∀ modification ∈ modifications, modificationError py value modification = .ok none := by
  simp only [valueError?, validateDependencyOptions, firstMessage_eq_none, List.forall_mem_cons,
    List.forall_mem_map, List.not_mem_nil, false_implies, implies_true, and_true]

/-- The body of the loop over the visible fields. -/
def checkField (py : Interpreter) (answers : Dict String Json) (modifications : List Modification)
    (field : Field) : Except PyExn Verdict :=
  match answers.get? (fieldIdStr field.id) with
  | none => .ok (if field.required then .rejected "This field is required." else .skipped)
  | some value =>
    -- a list or an object is never blank: its text has brackets
    if isBlank py (some value) then
      .ok (if field.required then .rejected "This field is required." else .skipped)
    else do
      match ← valueError? py field value modifications with
      | some message => return .rejected message
      | none => return .kept value

/-! ## `validate_submission` -/

def fieldsBySection (fields : List Field) : Dict Nat (List Field) :=
  Dict.groupBy Field.sectionId (fun field => field) fields

def fieldsById (fields : List Field) : Dict Nat Field :=
  fields.foldl (fun d field => d.set field.id field) Dict.empty

/-- The share of `all_visible_field_ids` one section adds. -/
def sectionVisibleIds (py : Interpreter) (answers : Dict String Json) (fieldRules : List ConditionalRule)
    (bySection : Dict Nat (List Field)) (visibleSectionIds : List Nat) (current : Section) :
    Except PyExn (List Nat) :=
  if current.id ∈ visibleSectionIds then
    getVisibleFields py answers ((bySection.get? current.id).getD []) fieldRules
  else .ok []

def visibleFieldIds (py : Interpreter) (survey : SurveyStructure) (answers : Dict String Json) :
    Except PyExn (Finset Nat) := do
  let bySection := fieldsBySection survey.fields
  -- a field is looked at only inside a visible section
  let visibleSectionIds ← getVisibleSections py answers survey.sections survey.sectionRules
  survey.sections.foldlM (fun allVisibleFieldIds current => do
    let visibleIds ← sectionVisibleIds py answers survey.fieldRules bySection visibleSectionIds current
    return allVisibleFieldIds ∪ visibleIds.toFinset) ∅

/-- The two dicts the loop fills. -/
structure Outcome where
  errors : Dict String String
  cleaned : Dict String Json

def recordVerdict (outcome : Outcome) (fieldId : Nat) : Verdict → Outcome
  | .rejected message => { outcome with errors := outcome.errors.set (fieldIdStr fieldId) message }
  | .skipped => outcome
  | .kept value => { outcome with cleaned := outcome.cleaned.set (fieldIdStr fieldId) value }

def checkVisible (py : Interpreter) (answers : Dict String Json) (byId : Dict Nat Field)
    (modifications : Dict Nat (List Modification)) (outcome : Outcome) (fieldId : Nat) :
    Except PyExn Outcome :=
  match byId.get? fieldId with
  | none => .error .keyError
  | some field => do
    let verdict ← checkField py answers ((modifications.get? field.id).getD []) field
    return recordVerdict outcome field.id verdict

/-- Everything before the final test of `errors`. -/
def runChecks (py : Interpreter) (order : SetOrder) (survey : SurveyStructure)
    (answers : Dict String Json) : Except PyExn Outcome := do
  let allVisibleFieldIds ← visibleFieldIds py survey answers
  let modifications ← resolveDependencies py answers survey.dependencies
  (order.iterate allVisibleFieldIds).foldlM
    (checkVisible py answers (fieldsById survey.fields) modifications) ⟨Dict.empty, Dict.empty⟩

def validateSubmission (py : Interpreter) (order : SetOrder) (survey : SurveyStructure)
    (answers : Dict String Json) : Except SubmissionExn (Dict String Json) :=
  match runChecks py order survey answers with
  | .error exn => .error (.raised exn)
  | .ok outcome =>
    if outcome.errors.isEmpty then .ok outcome.cleaned else .error (.invalid outcome.errors)

end SurveyPlatform.Responses

import SurveyPlatform.Python.Dates
import SurveyPlatform.Surveys.Models
import Mathlib.Data.List.Dedup

/-! # Validation helpers

The `validate_*` functions of `apps/surveys/services.py`.  A validator returns,
or raises Django's `ValidationError` with the message of the first violated
constraint; exceptions it does not catch go through.

Submitted data is a dict in which a key may be missing: `ConditionalRuleData`
and `FieldDependencyData` hold an `Option` for each key, and a second one where
the column is nullable.  Related objects come as instances, so a field is a
`PlacedField`.
-/

namespace SurveyPlatform.Surveys

open SurveyPlatform.Python

/-! ## Raising -/

/-- `raise ValidationError(message)` -/
def reject (message : String) : Except PyExn Unit := .error (.validationError message)

/-- `if bad: raise ValidationError(message)` -/
def rejectIf (bad : Prop) [Decidable bad] (message : String) : Except PyExn Unit :=
  if bad then reject message else .ok ()

@[simp] theorem reject_ne_ok {message : String} : reject message ≠ .ok () := by simp [reject]

@[simp] theorem rejectIf_eq_ok {bad : Prop} [Decidable bad] {message : String} :
    rejectIf bad message = .ok () ↔ ¬ bad := by
  by_cases holds : bad <;> simp [rejectIf, holds]

/-- A sequence of two checks passes when both do. -/
theorem seq_eq_ok {first second : Except PyExn Unit} :
    (first >>= fun _ => second) = .ok () ↔ first = .ok () ∧ second = .ok () := by
  cases first <;> simp [bind, Except.bind]

/-- `for x in items: check(x)` -/
def checkEach {α : Type} (check : α → Except PyExn Unit) : List α → Except PyExn Unit
  | [] => .ok ()
  | item :: rest => do
    check item
    checkEach check rest

theorem checkEach_eq_ok {α : Type} {check : α → Except PyExn Unit} {items : List α} :
    checkEach check items = .ok () ↔ ∀ item ∈ items, check item = .ok () := by
  induction items with
  | nil => simp [checkEach]
  | cons item rest inductionHypothesis => rw [checkEach, seq_eq_ok, inductionHypothesis, List.forall_mem_cons]

/-- A check that runs when a key is there. -/
def whenSome {α : Type} (value : Option α) (check : α → Except PyExn Unit) : Except PyExn Unit :=
  match value with
  | some value => check value
  | none => .ok ()

theorem whenSome_eq_ok {α : Type} {value : Option α} {check : α → Except PyExn Unit} :
    whenSome value check = .ok () ↔ ∀ x, value = some x → check x = .ok () := by
  cases value <;> simp [whenSome]

/-- `sorted(set(strings))` -/
def sortedSet (strings : List String) : List String := strings.dedup.mergeSort fun a b => decide (a ≤ b)

/-- `value or []` -/
def orEmpty (value : Json) : Json := if value.truthy then value else .list []

/-- `if str(value) not in [str(o) for o in options]: raise ...` -/
def requireOption (py : Interpreter) (options value : Json) (message : String) : Except PyExn Unit := do
  let allowed ← py.strs options
  rejectIf (py.str value ∉ allowed) message

/-- `if not isinstance(value, list): raise ...`, then a check of every item. -/
def requireItems (value : Json) (message : String) (check : Json → Except PyExn Unit) : Except PyExn Unit :=
  match value with
  | .list items => checkEach check items
  | _ => reject message

/-- `isinstance(value, (int, float))`, or else `float(value)` in a `try`. -/
def requireNumeric (value : Json) (message : String) : Except PyExn Unit :=
  if value.isNumber then .ok ()
  else tryExcept PyExn.isValueOrType (reject message) (value.toFloat >>= fun _ => .ok ())

def validateDateString (value : Json) : Except PyExn Unit :=
  match value with
  | .str text =>
    match fromIsoFormat text with
    | some _ => .ok ()
    -- `fromisoformat` raised `ValueError`
    | none => reject ("'" ++ text ++ "' is not a valid date (expected YYYY-MM-DD).")
  | _ => reject "Date values must be strings in YYYY-MM-DD format."

/-! ## Field definitions -/

def validateFieldOptions (py : Interpreter) (fieldType : FieldType) (options : Json) : Except PyExn Unit :=
  let refuse := fun message => (.error (.validationErrorDict "options" message) : Except PyExn Unit)
  if fieldType.isChoice then
    if !options.truthy then refuse "Options are required for dropdown, radio, and checkbox fields."
    else do
      -- a truthy number or boolean cannot be iterated: `TypeError`
      let items ← options.iterate
      checkEach (fun opt =>
        if opt.isStr || opt.isNumber then .ok () else refuse "Each option must be a string or number.") items
      if items.length ≠ (items.map py.str).dedup.length then refuse "Options must not contain duplicates."
      else .ok ()
  else if options.truthy then refuse ("Options are not allowed for '" ++ fieldType.value ++ "' fields.")
  else .ok ()

def validationRuleKeys : List String := ["min", "max", "min_length", "max_length", "regex"]

/-- The `'min'`/`'max'` part of `validate_validation_rules`: the error it leaves. -/
def boundsError (fieldType : FieldType) (min? max? : Option Json) : Except PyExn (Option String) :=
  if min?.isNone && max?.isNone then .ok none
  else if !fieldType.isNumeric then
    .ok (some ("'min'/'max' are only allowed for number fields, not '" ++ fieldType.value ++ "'."))
  else
    let notNumber := fun bound : Option Json => bound.any (!·.isNumber)
    -- both bounds are looked at, and the message for `'max'` replaces the one for `'min'`
    if notNumber max? then .ok (some "'max' must be a number.")
    else if notNumber min? then .ok (some "'min' must be a number.")
    else
      match min?, max? with
      | some low, some high => do
        if ← high.ltNumber low then return some "'min' must be less than or equal to 'max'." else return none
      | _, _ => .ok none

/-- `not isinstance(bound, int) or bound < 0` -/
def badLength (bound : Json) : Except PyExn Bool :=
  if !bound.isInt then .ok true else bound.ltNumber (.int 0)

/-- The `'min_length'`/`'max_length'` part, which may overwrite the error so far. -/
def lengthsError (fieldType : FieldType) (min? max? : Option Json) (error? : Option String) :
    Except PyExn (Option String) :=
  if min?.isNone && max?.isNone then .ok error?
  else if !fieldType.isText then
    .ok (error?.or (some ("'min_length'/'max_length' are only allowed for text/textarea/email fields, not '" ++
      fieldType.value ++ "'.")))
  else do
    let minBad ← match min? with
      | some low => badLength low
      | none => .ok false
    -- this message replaces an earlier one; the next keeps it
    let error? := if minBad then some "'min_length' must be a non-negative integer." else error?
    let maxBad ← match max? with
      | some high => badLength high
      | none => .ok false
    let error? := if maxBad then error?.or (some "'max_length' must be a non-negative integer.") else error?
    match min?, max?, error? with
    | some low, some high, none => do
      if ← high.ltNumber low then return some "'min_length' must be less than or equal to 'max_length'."
      else return none
    | _, _, error? => .ok error?

/-- The `'regex'` part, which never overwrites an error. -/
def regexError (py : Interpreter) (fieldType : FieldType) (pattern? : Option Json) (error? : Option String) :
    Except PyExn (Option String) :=
  match pattern? with
  | none => .ok error?
  | some pattern =>
    if !fieldType.isText then
      .ok (error?.or (some ("'regex' is only allowed for text/textarea/email fields, not '" ++
        fieldType.value ++ "'.")))
    else
      match pattern with
      | .str pattern =>
        -- an `OverflowError` or `RecursionError` of the pattern parser goes through
        tryExcept (· == .reError) (.ok (error?.or (some "'regex' is not a valid regular expression.")))
          (py.reCompile pattern >>= fun _ => .ok error?)
      | _ => .ok (error?.or (some "'regex' must be a string."))

def validateValidationRules (py : Interpreter) (fieldType : FieldType) (rules : Json) : Except PyExn Unit :=
  let refuse := fun message => (.error (.validationErrorDict "validation_rules" message) : Except PyExn Unit)
  if !rules.truthy then .ok ()
  else
    match rules with
    | .object entries => do
      let unknownKeys := (entries.map Prod.fst).filter (!validationRuleKeys.contains ·)
      if unknownKeys ≠ [] then
        refuse ("Unknown keys: " ++ join ", " (sortedSet unknownKeys) ++ ". Allowed: " ++
          join ", " (sortedSet validationRuleKeys) ++ ".")
      else do
        let error? ← boundsError fieldType (entries.lookup "min") (entries.lookup "max")
        let error? ← lengthsError fieldType (entries.lookup "min_length") (entries.lookup "max_length") error?
        let error? ← regexError py fieldType (entries.lookup "regex") error?
        match error? with
        | some message => refuse message
        | none => .ok ()
    | _ => refuse "Must be a JSON object."

/-! ## Operators, values and actions -/

/-- `operator in {GREATER_THAN, LESS_THAN}` -/
def ComparisonOperator.isNumericOnly : ComparisonOperator → Bool
  | .greaterThan | .lessThan => true
  | _ => false

def validateOperatorValue (py : Interpreter) (dependsOnField : Field) (operator : ComparisonOperator)
    (value : Json) : Except PyExn Unit :=
  let fieldType := dependsOnField.fieldType
  let fieldOptions := orEmpty dependsOnField.options
  let requireFieldOption := fun v => requireOption py fieldOptions v
    ("Value '" ++ py.str v ++ "' is not a valid option for field '" ++ dependsOnField.label ++ "'.")
  let notList := "Value must be a list for 'in' operator."
  if (fieldType.isText || fieldType.isChoice) && operator.isNumericOnly then
    reject ("ComparisonOperator '" ++ operator.value ++ "' is not allowed for '" ++ fieldType.value ++ "' fields.")
  else
    match fieldType with
    | .number =>
      match operator with
      | .isIn => requireItems value notList fun v =>
        rejectIf (!v.isNumber) "All values in 'in' list must be numeric for number fields."
      -- a substring of the text form: any value will do
      | .contains => .ok ()
      | _ => requireNumeric value "Value must be numeric for number fields."
    | .date =>
      match operator with
      | .isIn => requireItems value notList validateDateString
      | .contains => .ok ()
      | _ => validateDateString value
    | .dropdown | .radio | .checkbox =>
      match operator with
      | .isIn => requireItems value notList fun v =>
        if fieldOptions.truthy then requireFieldOption v else .ok ()
      | .equals | .notEquals =>
        -- a checkbox is compared with a whole list, which is not checked
        if fieldType = .checkbox || !fieldOptions.truthy then .ok () else requireFieldOption value
      | .contains => if fieldOptions.truthy then requireFieldOption value else .ok ()
      | _ => .ok ()
    | .text | .textarea | .email => .ok ()

def validateActionValue (py : Interpreter) (action : Action) (actionValue : Json) (dependentField : Field) :
    Except PyExn Unit :=
  let fieldOptions := orEmpty dependentField.options
  match action with
  | .showOptions | .hideOptions => do
    rejectIf (!dependentField.fieldType.isChoice) ("'" ++ action.value ++
      "' action requires a choice field (dropdown/radio/checkbox), not '" ++ dependentField.fieldType.value ++ "'.")
    let notList := "action_value for '" ++ action.value ++ "' must be a non-empty list."
    rejectIf (!actionValue.truthy) notList
    requireItems actionValue notList fun v =>
      if fieldOptions.truthy then
        requireOption py fieldOptions v ("action_value '" ++ py.str v ++ "' is not a valid option for field '" ++
          dependentField.label ++ "'. Valid options: " ++ py.str fieldOptions ++ ".")
      else .ok ()
  | .setValue =>
    match dependentField.fieldType with
    | .dropdown | .radio =>
      if fieldOptions.truthy then
        requireOption py fieldOptions actionValue ("set_value '" ++ py.str actionValue ++
          "' must be one of the field's options: " ++ py.str fieldOptions ++ ".")
      else .ok ()
    | .checkbox =>
      requireItems actionValue "set_value for checkbox fields must be a list." fun v =>
        if fieldOptions.truthy then
          requireOption py fieldOptions v ("set_value item '" ++ py.str v ++
            "' must be one of the field's options: " ++ py.str fieldOptions ++ ".")
        else .ok ()
    | .number => requireNumeric actionValue "set_value must be numeric for number fields."
    | .email =>
      match actionValue with
      | .str text => rejectIf (!isIn "@" text) "set_value must be a valid email address."
      | _ => reject "set_value must be a valid email address."
    | .date => validateDateString actionValue
    | .text | .textarea => .ok ()

/-! ## Ordering -/

/-- The order of two numbers, with the message the two ordering validators share. -/
def requireBefore (source target : Nat) (message : String) : Except PyExn Unit :=
  rejectIf (source ≥ target) (message ++ toString source ++ " >= " ++ toString target ++ ").")

/-- The rule for two fields: by field order in one section, by section order otherwise. -/
def requireFieldBefore (name : String) (dependsOnField target : PlacedField) : Except PyExn Unit :=
  if dependsOnField.sectionRow.id = target.sectionRow.id then
    requireBefore dependsOnField.order target.order
      ("depends_on_field must appear before " ++ name ++ " within the same section (field order ")
  else
    requireBefore dependsOnField.sectionRow.order target.sectionRow.order
      ("depends_on_field's section must appear before " ++ name ++ "'s section (section order ")

def validateOrderingConstraint (dependsOnField : PlacedField) (targetSection : Option Section)
    (targetField : Option PlacedField) : Except PyExn Unit := do
  whenSome targetSection fun target => requireBefore dependsOnField.sectionRow.order target.order
    "depends_on_field's section must appear before the target_section (section order "
  whenSome targetField fun target => requireFieldBefore "target_field" dependsOnField target

def validateFdOrderingConstraint (dependsOnField dependentField : PlacedField) : Except PyExn Unit :=
  requireFieldBefore "dependent_field" dependsOnField dependentField

/-! ## Submitted data -/

/-- `validated_data` of a `ConditionalRule`. -/
structure ConditionalRuleData where
  targetSection : Option (Option Section)
  targetField : Option (Option PlacedField)
  dependsOnField : Option PlacedField
  operator : Option ComparisonOperator
  value : Option Json

/-- `validated_data` of a `FieldDependency`. -/
structure FieldDependencyData where
  dependentField : Option PlacedField
  dependsOnField : Option PlacedField
  operator : Option ComparisonOperator
  value : Option Json
  action : Option Action
  actionValue : Option Json

/-- `data.get(key)` of a JSON column, with `None` for a missing key. -/
def present (value : Option Json) : Option Json := value.filter (!·.isNone)

def validateSelfReference (name : String) (target dependsOn : Option PlacedField) : Except PyExn Unit :=
  whenSome target fun target => whenSome dependsOn fun dependsOn =>
    rejectIf (target.id = dependsOn.id)
      (name ++ " cannot be the same as depends_on_field (self-reference).")

def validateSelfReferenceCr (data : ConditionalRuleData) : Except PyExn Unit :=
  validateSelfReference "target_field" data.targetField.join data.dependsOnField

def validateSelfReferenceFd (data : FieldDependencyData) : Except PyExn Unit :=
  validateSelfReference "dependent_field" data.dependentField data.dependsOnField

/-- `if obj and obj.survey_id != survey_pk: raise ...` -/
def requireSurvey (name : String) (surveyId : Option Nat) (surveyPk : Nat) : Except PyExn Unit :=
  whenSome surveyId fun surveyId => rejectIf (surveyId ≠ surveyPk) (name ++ " does not belong to this survey.")

def validateSurveyPkMatchCr (data : ConditionalRuleData) (surveyPk : Nat) : Except PyExn Unit := do
  requireSurvey "depends_on_field" (data.dependsOnField.map PlacedField.surveyId) surveyPk
  requireSurvey "target_section" (data.targetSection.join.map Section.surveyId) surveyPk
  requireSurvey "target_field" (data.targetField.join.map PlacedField.surveyId) surveyPk

def validateSurveyPkMatchFd (data : FieldDependencyData) (surveyPk : Nat) : Except PyExn Unit := do
  requireSurvey "depends_on_field" (data.dependsOnField.map PlacedField.surveyId) surveyPk
  requireSurvey "dependent_field" (data.dependentField.map PlacedField.surveyId) surveyPk

def validateSurveyIsDraft (survey : Survey) : Except PyExn Unit :=
  rejectIf (survey.status ≠ .draft) ("Cannot modify structure of a " ++ survey.status.value ++
    " survey. Only draft surveys can be modified.")

def validateConditionalRuleData (py : Interpreter) (data : ConditionalRuleData) (surveyPk : Option Nat) :
    Except PyExn Unit := do
  let targetSection := data.targetSection.join
  let targetField := data.targetField.join
  rejectIf (targetSection.isNone && targetField.isNone) "Either target_section or target_field must be set."
  rejectIf (targetSection.isSome && targetField.isSome)
    "Only one of target_section or target_field can be set."
  whenSome data.dependsOnField fun dependsOn => do
    whenSome targetSection fun target => rejectIf (target.surveyId ≠ dependsOn.surveyId)
      "target_section must belong to the same survey as depends_on_field."
    whenSome targetField fun target => rejectIf (target.surveyId ≠ dependsOn.surveyId)
      "target_field must belong to the same survey as depends_on_field."
  -- the survey of the URL is compared only when the request names `depends_on_field`
  whenSome surveyPk fun surveyPk => whenSome data.dependsOnField fun _ => validateSurveyPkMatchCr data surveyPk
  validateSelfReferenceCr data
  whenSome data.dependsOnField fun dependsOn => validateOrderingConstraint dependsOn targetSection targetField
  whenSome data.dependsOnField fun dependsOn => whenSome data.operator fun operator =>
    whenSome (present data.value) fun value => validateOperatorValue py dependsOn.toField operator value

/-- One stored rule against the options a dependency hides. -/
def conflictsWith (py : Interpreter) (hiddenOptions : List String) (dependent : Field)
    (rule : ConditionalRule) : Except PyExn Unit :=
  match rule.operator with
  | .equals | .notEquals | .contains =>
    rejectIf (py.str rule.value ∈ hiddenOptions) ("Hiding option '" ++ py.str rule.value ++ "' on field '" ++
      dependent.label ++ "' conflicts with an existing conditional rule that checks for this value.")
  | .isIn =>
    match rule.value with
    | .list items =>
      let conflicting := hiddenOptions.filter (· ∈ items.map py.str)
      rejectIf (conflicting ≠ []) ("Hiding options " ++ py.str (.list ((sortedSet conflicting).map .str)) ++
        " on field '" ++ dependent.label ++ "' conflicts with an existing conditional rule.")
    -- a stored `in` rule without a list is not looked at
    | _ => .ok ()
  | .greaterThan | .lessThan => .ok ()

/-- `conditionalRules` are the stored rules. -/
def validateCrFdConflict (py : Interpreter) (conditionalRules : List ConditionalRule) (action : Action)
    (actionValue : Json) (dependent : Field) : Except PyExn Unit :=
  if action ≠ .hideOptions then .ok ()
  else do
    -- `[str(v) for v in action_value or []]`; a number or `True` here raises `TypeError`
    let hiddenOptions ← py.strs (orEmpty actionValue)
    checkEach (conflictsWith py hiddenOptions dependent)
      (conditionalRules.filter (·.dependsOnFieldId = dependent.id))

def validateFieldDependencyData (py : Interpreter) (conditionalRules : List ConditionalRule)
    (data : FieldDependencyData) (surveyPk : Option Nat) : Except PyExn Unit := do
  whenSome data.dependentField fun dependent => whenSome data.dependsOnField fun dependsOn =>
    rejectIf (dependent.surveyId ≠ dependsOn.surveyId)
      "dependent_field and depends_on_field must belong to the same survey."
  whenSome surveyPk fun surveyPk => validateSurveyPkMatchFd data surveyPk
  validateSelfReferenceFd data
  whenSome data.dependentField fun dependent => whenSome data.dependsOnField fun dependsOn =>
    validateFdOrderingConstraint dependsOn dependent
  whenSome data.dependsOnField fun dependsOn => whenSome data.operator fun operator =>
    whenSome (present data.value) fun value => validateOperatorValue py dependsOn.toField operator value
  whenSome data.dependentField fun dependent => whenSome data.action fun action =>
    whenSome (present data.actionValue) fun actionValue =>
      validateActionValue py action actionValue dependent.toField
  whenSome data.dependentField fun dependent => whenSome data.action fun action =>
    whenSome (present data.actionValue) fun actionValue =>
      validateCrFdConflict py conditionalRules action actionValue dependent.toField

end SurveyPlatform.Surveys

import SurveyPlatform.Verified.RuleGroups
import SurveyPlatform.Verified.SubmissionLoop

/-! # What a submission can raise

The definitions of a survey are validated when they are written.  On accepted
definitions only one exception escapes from `validate_submission`: the
`OverflowError` of `float` on an integer beyond the doubles, in a `greater_than`
or `less_than` comparison or against a `min` or `max` of a number field.
-/

namespace SurveyPlatform.Verified

open SurveyPlatform.Library SurveyPlatform.Python SurveyPlatform.Surveys SurveyPlatform.Responses

/-! ## Conditions -/

/-- The condition compares numbers, and one of the two is beyond the doubles. -/
def Overflows (answers : Dict String Json) (condition : Condition) : Prop :=
  condition.operator.isNumericOnly = true ∧
    ∃ answer, answerTo answers condition.dependsOnFieldId = some answer ∧ FloatOverflows answer condition.value

/-- The rules are evaluated up to one that overflows. -/
def ReachesOverflow (py : Interpreter) (answers : Dict String Json) (rules : List ConditionalRule) : Prop :=
  ∃ before rule after, rules = before ++ rule :: after ∧
    (∀ earlier ∈ before, evaluateCondition py earlier.condition answers = .ok false) ∧
    Overflows answers rule.condition

section Conditions

variable {py : Interpreter} {answers : Dict String Json}

theorem evaluateCondition_returns_iff (condition : Condition) :
    (∃ holds, evaluateCondition py condition answers = .ok holds) ↔ ¬ Overflows answers condition := by
  unfold evaluateCondition Overflows
  cases answered : answerTo answers condition.dependsOnFieldId with
  | none => simp
  | some answer =>
    simp only [Option.some.injEq, exists_eq_left', not_and]
    unfold compareAnswer
    cases condition.operator with
    | greaterThan =>
      simpa [ComparisonOperator.isNumericOnly] using
        compareFloats_returns_iff answer condition.value (fun x y => y.lt x)
    | lessThan =>
      simpa [ComparisonOperator.isNumericOnly] using
        compareFloats_returns_iff answer condition.value (fun x y => x.lt y)
    | isIn =>
      cases condition.value <;> simp [ComparisonOperator.isNumericOnly]
    | _ => simp [ComparisonOperator.isNumericOnly]

theorem anyTrue_returns_iff (rules : List ConditionalRule) :
    (∃ holds, anyTrue (fun rule => evaluateCondition py rule.condition answers) rules = .ok holds) ↔
      ¬ ReachesOverflow py answers rules := by
  induction rules with
  | nil =>
    simp [anyTrue, ReachesOverflow]
  | cons head rest inductionHypothesis =>
    have reaches : ReachesOverflow py answers (head :: rest) ↔ Overflows answers head.condition ∨
        (evaluateCondition py head.condition answers = .ok false ∧ ReachesOverflow py answers rest) := by
      constructor
      · intro holds
        obtain ⟨before, rule, after, split, earlier, overflows⟩ := holds
        cases before with
        | nil =>
          obtain ⟨rfl, rfl⟩ := List.cons.inj split
          exact Or.inl overflows
        | cons first before =>
          obtain ⟨rfl, rfl⟩ := List.cons.inj split
          rw [List.forall_mem_cons] at earlier
          exact Or.inr ⟨earlier.1, before, rule, after, rfl, earlier.2, overflows⟩
      · rintro (overflows | ⟨isFalse, before, rule, after, rfl, earlier, overflows⟩)
        · exact ⟨[], head, rest, rfl, by simp, overflows⟩
        · exact ⟨head :: before, rule, after, rfl, List.forall_mem_cons.mpr ⟨isFalse, earlier⟩, overflows⟩
    rw [anyTrue_cons, reaches]
    have returns := @evaluateCondition_returns_iff py answers head.condition
    cases evaluated : evaluateCondition py head.condition answers with
    | error exn =>
      have overflows : Overflows answers head.condition := by
        simpa [evaluated] using returns
      simp [overflows]
    | ok holds =>
      have safe : ¬ Overflows answers head.condition := returns.mp ⟨holds, evaluated⟩
      cases holds with
      | true => simp [safe]
      | false => simpa [safe] using inductionHypothesis

/-- A target can be tested exactly when its rules reach no overflow. -/
theorem showsTarget_returns_iff (rules : List ConditionalRule) :
    (∃ shown, showsTarget py answers rules = .ok shown) ↔ ¬ ReachesOverflow py answers rules := by
  unfold showsTarget
  split
  · rename_i none
    simp [none, ReachesOverflow]
  · exact anyTrue_returns_iff rules

theorem resolveDependencies_returns_iff (dependencies : List FieldDependency) :
    (∃ modifications, resolveDependencies py answers dependencies = .ok modifications) ↔
      ∀ dep ∈ dependencies, ¬ Overflows answers dep.condition := by
  constructor
  · intro returns dep member
    obtain ⟨modifications, resolved⟩ := returns
    exact (evaluateCondition_returns_iff _).mp (resolveDependencies_evaluated resolved dep member)
  · intro safe
    exact resolveDependencies_returns fun dep member => (evaluateCondition_returns_iff _).mpr (safe dep member)

end Conditions

/-! ## Field definitions -/

/-- What `validate_validation_rules` leaves in a column that is not empty. -/
structure RulesAccepted (py : Interpreter) (fieldType : FieldType) (entries : List (String × Json)) : Prop where
  low : ∀ bound, entries.lookup "min" = some bound → fieldType.isNumeric = true
  high : ∀ bound, entries.lookup "max" = some bound → fieldType.isNumeric = true
  shortest : ∀ bound, entries.lookup "min_length" = some bound → fieldType.isText = true ∧ bound.isInt = true
  longest : ∀ bound, entries.lookup "max_length" = some bound → fieldType.isText = true ∧ bound.isInt = true
  regex : ∀ pattern, entries.lookup "regex" = some pattern →
    fieldType.isText = true ∧ ∃ text, pattern = .str text ∧ py.reCompile text = .ok ()

section Definitions

variable {py : Interpreter} {fieldType : FieldType}

theorem validateValidationRules_eq_ok {rules : Json}
    (accepted : validateValidationRules py fieldType rules = .ok ()) (nonempty : rules.truthy = true) :
    ∃ entries, rules = .object entries ∧ RulesAccepted py fieldType entries := by
  cases rules with
  | object entries =>
    have entry : entries ≠ [] := by simpa [Json.truthy] using nonempty
    have fits := (validateValidationRules_object_iff entry).mp accepted
    refine ⟨entries, rfl, ?_, ?_, ?_, ?_, fits.regex⟩
    · exact fun bound given => (fits.bounds.low bound given).1
    · exact fun bound given => (fits.bounds.high bound given).1
    · exact fun bound given => (fits.lengths.low bound given).imp_right isInt_of_isLength
    · exact fun bound given => (fits.lengths.high bound given).imp_right isInt_of_isLength
  | _ => simp [validateValidationRules, nonempty] at accepted

end Definitions

/-! ## The checks of one answer -/

/-- The answer is compared with a `min` or `max` beyond the doubles. -/
def BoundOverflows (py : Interpreter) (field : Field) (value : Json) : Prop :=
  ∃ entries, field.validationRules = .object entries ∧
    ((∃ low, entries.lookup "min" = some low ∧ FloatOverflows (.str (py.str value)) low) ∨
      -- a violated `min` ends the checks before `max`
      ((∀ low, entries.lookup "min" = some low →
          outOfRange (py.str value) (fun x limit => x.lt limit) low = .ok false) ∧
        ∃ high, entries.lookup "max" = some high ∧ FloatOverflows (.str (py.str value)) high))

/-- The columns of a field as the builder validated them. -/
structure FieldAccepted (py : Interpreter) (field : Field) : Prop where
  options : validateFieldOptions py field.fieldType field.options = .ok ()
  validationRules : validateValidationRules py field.fieldType field.validationRules = .ok ()

section Checks

variable {py : Interpreter}

theorem firstMessage_cons_returns_iff {check : Except PyExn (Option String)}
    {rest : List (Except PyExn (Option String))} :
    (∃ message, firstMessage (check :: rest) = .ok message) ↔
      (∃ message, check = .ok message) ∧ (check = .ok none → ∃ other, firstMessage rest = .ok other) := by
  rw [firstMessage]
  cases check with
  | error exn => simp [bind, Except.bind]
  | ok message => cases message <;> simp [bind, Except.bind, pure, Except.pure]

theorem firstMessage_returns {checks : List (Except PyExn (Option String))}
    (returns : ∀ check ∈ checks, ∃ message, check = .ok message) :
    ∃ message, firstMessage checks = .ok message := by
  induction checks with
  | nil => exact ⟨none, rfl⟩
  | cons check rest inductionHypothesis =>
    rw [List.forall_mem_cons] at returns
    exact firstMessage_cons_returns_iff.mpr ⟨returns.1, fun _ => inductionHypothesis returns.2⟩

theorem applyRule_object (key : String) (violated : Json → Except PyExn Bool) (message : String → String)
    (entries : List (String × Json)) :
    applyRule py key violated message (.object entries) =
      match entries.lookup key with
      | none => .ok none
      | some bound => (fun isViolated => if isViolated then some (message (py.str bound)) else none) <$> violated bound := by
  unfold applyRule ruleIn ruleGet
  cases found : entries.lookup key with
  | none => simp only [found]; rfl
  | some bound =>
    simp only [found, Option.isSome_some, bind, Except.bind, if_true]
    cases violated bound with
    | error exn => rfl
    | ok isViolated => cases isViolated <;> rfl

theorem applyRule_absent {key : String} {violated : Json → Except PyExn Bool} {message : String → String}
    {entries : List (String × Json)} (absent : entries.lookup key = none) :
    applyRule py key violated message (.object entries) = .ok none := by
  rw [applyRule_object, absent]

theorem applyRule_returns_iff {key : String} {violated : Json → Except PyExn Bool} {message : String → String}
    {entries : List (String × Json)} :
    (∃ result, applyRule py key violated message (.object entries) = .ok result) ↔
      ∀ bound, entries.lookup key = some bound → ∃ isViolated, violated bound = .ok isViolated := by
  rw [applyRule_object]
  cases entries.lookup key with
  | none => simp
  | some bound => cases checked : violated bound <;> simp [checked, Functor.map, Except.map]

theorem applyRule_eq_none {key : String} {violated : Json → Except PyExn Bool} {message : String → String}
    {entries : List (String × Json)} :
    applyRule py key violated message (.object entries) = .ok none ↔
      ∀ bound, entries.lookup key = some bound → violated bound = .ok false := by
  rw [applyRule_object]
  cases entries.lookup key with
  | none => simp
  | some bound =>
    cases checked : violated bound with
    | error exn => simp [checked, Functor.map, Except.map]
    | ok isViolated => cases isViolated <;> simp [checked, Functor.map, Except.map]

theorem ltNumber_returns_of_isInt {x y : Json} (left : x.isInt = true) (right : y.isInt = true) :
    ∃ holds, x.ltNumber y = .ok holds := by
  cases x <;> cases left <;> cases y <;> cases right <;> exact ⟨_, rfl⟩

/-- The lengths and the pattern of a field are checked without an exception. -/
theorem validateRules_returns_of_not_numeric {field : Field} (accepted : FieldAccepted py field)
    (notNumber : field.fieldType.isNumeric = false) (valueStr : String) :
    ∃ message, validateRules py field valueStr = .ok message := by
  unfold validateRules
  dsimp only
  split
  · rename_i nonempty
    obtain ⟨entries, isObject, rules⟩ := validateValidationRules_eq_ok accepted.validationRules nonempty
    rw [isObject]
    apply firstMessage_returns
    simp only [List.forall_mem_cons, applyRule_returns_iff]
    refine ⟨?_, ?_, ?_, ?_, ?_, by simp⟩
    · intro bound given
      exact ltNumber_returns_of_isInt rfl (rules.shortest bound given).2
    · intro bound given
      exact ltNumber_returns_of_isInt (rules.longest bound given).2 rfl
    · intro bound given
      rw [rules.low bound given] at notNumber
      cases notNumber
    · intro bound given
      rw [rules.high bound given] at notNumber
      cases notNumber
    · intro pattern given
      obtain ⟨_, text, rfl, compiled⟩ := rules.regex pattern given
      refine ⟨!py.reMatches text valueStr, ?_⟩
      simp [Interpreter.reMatch, compiled, bind, Except.bind, pure, Except.pure, Functor.map, Except.map]
  · exact ⟨none, rfl⟩

theorem outOfRange_returns_iff (valueStr : String) (beyond : PyFloat → PyFloat → Bool) (bound : Json) :
    (∃ holds, outOfRange valueStr beyond bound = .ok holds) ↔ ¬ FloatOverflows (.str valueStr) bound :=
  compareFloats_returns_iff (.str valueStr) bound beyond

/-- A number field stops at a bound beyond the doubles, if the check gets that far. -/
theorem validateRules_returns_iff_of_numeric {field : Field} (accepted : FieldAccepted py field)
    (isNumber : field.fieldType.isNumeric = true) (value : Json) :
    (∃ message, validateRules py field (py.str value) = .ok message) ↔ ¬ BoundOverflows py field value := by
  have notText : ¬ field.fieldType.isText = true := by
    cases fieldType : field.fieldType <;> simp_all [FieldType.isNumeric, FieldType.isText]
  have lookup_eq_none : ∀ {entries : List (String × Json)} {key : String},
      (∀ bound, entries.lookup key = some bound → field.fieldType.isText = true) → entries.lookup key = none :=
    fun textOnly => Option.eq_none_iff_forall_ne_some.mpr fun bound given => notText (textOnly bound given)
  unfold validateRules BoundOverflows
  dsimp only
  split
  · rename_i nonempty
    obtain ⟨entries, isObject, rules⟩ := validateValidationRules_eq_ok accepted.validationRules nonempty
    have noShortest := lookup_eq_none fun bound given => (rules.shortest bound given).1
    have noLongest := lookup_eq_none fun bound given => (rules.longest bound given).1
    have noRegex := lookup_eq_none fun pattern given => (rules.regex pattern given).1
    rw [isObject, applyRule_absent noShortest, applyRule_absent noLongest, applyRule_absent noRegex]
    have lowReturns := outOfRange_returns_iff (py.str value) (fun x limit => x.lt limit)
    have highReturns := outOfRange_returns_iff (py.str value) (fun x limit => limit.lt x)
    have noneLeft : ∃ message, firstMessage [] = .ok message := ⟨none, rfl⟩
    simp only [firstMessage_cons_returns_iff, applyRule_returns_iff, applyRule_eq_none, lowReturns, highReturns,
      noneLeft, implies_true, and_true, Except.ok.injEq, exists_eq', true_and, forall_const, Json.object.injEq,
      exists_eq_left', not_or, not_and, not_exists]
  · rename_i empty
    -- an empty object has no bounds
    have noBounds : ∀ entries, field.validationRules = .object entries → entries = [] := by
      intro entries isObject
      rw [isObject] at empty
      simpa [Json.truthy] using empty
    refine iff_of_true ⟨none, rfl⟩ ?_
    rintro ⟨entries, isObject, overflow⟩
    rw [noBounds entries isObject] at overflow
    simp at overflow

theorem BoundOverflows.parses {field : Field} {value : Json} (overflow : BoundOverflows py field value) :
    ∃ x, parseFloat (py.str value) = some x := by
  have converted : ∃ bound, FloatOverflows (.str (py.str value)) bound := by
    obtain ⟨_, _, ⟨low, _, overflows⟩ | ⟨_, high, _, overflows⟩⟩ := overflow
    · exact ⟨low, overflows⟩
    · exact ⟨high, overflows⟩
  obtain ⟨bound, huge | ⟨⟨x, converted⟩, _⟩⟩ := converted
  · cases huge
  · rw [Json.toFloat] at converted
    cases parsed : parseFloat (py.str value) with
    | some x => exact ⟨x, rfl⟩
    | none => simp [parsed] at converted

theorem not_boundOverflows {field : Field} (accepted : FieldAccepted py field)
    (notNumber : field.fieldType.isNumeric = false) (value : Json) : ¬ BoundOverflows py field value := by
  rintro ⟨entries, isObject, overflow⟩
  have nonempty : field.validationRules.truthy = true := by
    cases entries with
    | nil => simp at overflow
    | cons entry rest => rw [isObject]; rfl
  obtain ⟨entries', isObject', rules⟩ := validateValidationRules_eq_ok accepted.validationRules nonempty
  cases isObject.symm.trans isObject'
  obtain ⟨low, given, _⟩ | ⟨_, high, given, _⟩ := overflow
  · rw [rules.low low given] at notNumber
    cases notNumber
  · rw [rules.high high given] at notNumber
    cases notNumber

/-- The options of a choice field can be iterated. -/
theorem strs_options_returns {field : Field} (accepted : FieldAccepted py field)
    (isChoice : field.fieldType.isChoice = true) : ∃ options, py.strs field.options = .ok options := by
  have options := accepted.options
  simp only [validateFieldOptions, isChoice, if_true] at options
  split at options
  · cases options
  · rw [bind_eq_ok] at options
    obtain ⟨items, iterated, _⟩ := options
    exact ⟨items.map py.str, by simp [Interpreter.strs, iterated, Functor.map, Except.map]⟩

theorem validateFieldType_returns {field : Field} (accepted : FieldAccepted py field) (value : Json)
    (valueStr : String) : ∃ message, validateFieldType py field value valueStr = .ok message := by
  unfold validateFieldType
  cases fieldType : field.fieldType with
  | number => cases parseFloat valueStr <;> exact ⟨_, rfl⟩
  | email => dsimp only; split <;> exact ⟨_, rfl⟩
  | date => dsimp only; split <;> exact ⟨_, rfl⟩
  | dropdown | radio =>
    obtain ⟨options, iterated⟩ := strs_options_returns accepted (by rw [fieldType]; rfl)
    simp only [iterated, bind, Except.bind]
    split <;> exact ⟨_, rfl⟩
  | checkbox =>
    obtain ⟨options, iterated⟩ := strs_options_returns accepted (by rw [fieldType]; rfl)
    cases value with
    | list items =>
      simp only [iterated, bind, Except.bind]
      split <;> exact ⟨_, rfl⟩
    | _ => exact ⟨_, rfl⟩
  | text | textarea => exact ⟨_, rfl⟩

/-- A modification whose option list is a list. -/
def Modification.Listed (modification : Modification) : Prop :=
  modification.action ≠ .setValue → ∃ items, modification.actionValue = .list items

theorem modificationError_returns {modification : Modification} (listed : Modification.Listed modification)
    (value : Json) : ∃ message, modificationError py value modification = .ok message := by
  obtain ⟨action, actionValue⟩ := modification
  unfold modificationError
  cases action with
  | setValue => exact ⟨_, rfl⟩
  | _ =>
    obtain ⟨items, rfl⟩ := listed (by simp)
    simp only [Interpreter.strs, Json.iterate, Functor.map, Except.map, bind, Except.bind]
    split <;> exact ⟨_, rfl⟩

/-- The checks of an answer return unless they reach a bound beyond the doubles. -/
theorem valueError?_returns_iff {field : Field} (accepted : FieldAccepted py field) {modifications : List Modification}
    (listed : ∀ modification ∈ modifications, Modification.Listed modification) (value : Json) :
    (∃ message, valueError? py field value modifications = .ok message) ↔ ¬ BoundOverflows py field value := by
  have typeReturns := validateFieldType_returns accepted value (py.str value)
  have optionsReturn : ∃ message, validateDependencyOptions py value modifications = .ok message := by
    apply firstMessage_returns
    simp only [List.forall_mem_map]
    exact fun modification member => modificationError_returns (listed modification member) value
  have noneLeft : ∃ message, firstMessage [] = .ok message := ⟨none, rfl⟩
  unfold valueError?
  simp only [firstMessage_cons_returns_iff, typeReturns, optionsReturn, noneLeft, implies_true, and_true, true_and]
  cases isNumber : field.fieldType.isNumeric with
  | false =>
    exact iff_of_true (fun _ => validateRules_returns_of_not_numeric accepted isNumber _)
      (not_boundOverflows accepted isNumber value)
  | true =>
    rw [validateRules_returns_iff_of_numeric accepted isNumber]
    constructor
    · intro checked overflow
      -- a text that is no number fails the type check, and is compared with no bound
      obtain ⟨x, parsed⟩ := overflow.parses
      refine checked ?_ overflow
      cases fieldType : field.fieldType with
      | number => simp [validateFieldType, fieldType, parsed]
      | _ => rw [fieldType] at isNumber; cases isNumber
    · exact fun safe _ => safe

end Checks

/-! ## A whole submission -/

/-- The data of a stored rule, with the instances its columns name. -/
def ruleData (survey : SurveyStructure) (rule : ConditionalRule) : ConditionalRuleData where
  targetSection := some (rule.targetSectionId.bind survey.section?)
  targetField := some (rule.targetFieldId.bind survey.field?)
  dependsOnField := survey.field? rule.dependsOnFieldId
  operator := some rule.operator
  value := some rule.value

def dependencyData (survey : SurveyStructure) (dep : FieldDependency) : FieldDependencyData where
  dependentField := survey.field? dep.dependentFieldId
  dependsOnField := survey.field? dep.dependsOnFieldId
  operator := some dep.operator
  value := some dep.value
  action := some dep.action
  actionValue := some dep.actionValue

/-- Every definition passed its validator, whichever rules were stored at the time. -/
structure SurveyAccepted (py : Interpreter) (survey : SurveyStructure) : Prop where
  fields : ∀ field ∈ survey.fields, FieldAccepted py field
  rules : ∀ rule ∈ survey.sectionRules ++ survey.fieldRules, ∃ surveyPk,
    validateConditionalRuleData py (ruleData survey rule) surveyPk = .ok ()
  dependencies : ∀ dep ∈ survey.dependencies, ∃ storedRules surveyPk,
    validateFieldDependencyData py storedRules (dependencyData survey dep) surveyPk = .ok ()
  -- the column is not nullable
  actionValues : ∀ dep ∈ survey.dependencies, dep.actionValue.isNone = false

/-- No number beyond the doubles is reached: not by a section rule, not by a
field rule of a shown section, not by a dependency, and not by a bound of a
visible, answered field. -/
structure NeverOverflows (py : Interpreter) (survey : SurveyStructure) (answers : Dict String Json) : Prop where
  sections : ∀ current ∈ survey.sections,
    ¬ ReachesOverflow py answers (rulesFor (·.targetSectionId) survey.sectionRules current.id)
  fields : ∀ field ∈ survey.fields, Shown py answers (·.targetSectionId) survey.sectionRules field.sectionId →
    ¬ ReachesOverflow py answers (rulesFor (·.targetFieldId) survey.fieldRules field.id)
  dependencies : ∀ dep ∈ survey.dependencies, ¬ Overflows answers dep.condition
  bounds : ∀ field ∈ survey.fields, Visible py survey answers field → ∀ value,
    answers.get? (fieldIdStr field.id) = some value → isBlank py (some value) = false →
      ¬ BoundOverflows py field value

section Submission

variable {py : Interpreter} {survey : SurveyStructure} {answers : Dict String Json}

theorem find?_of_mem {α : Type} {id : α → Nat} {items : List α} (nodup : (items.map id).Nodup) {item : α}
    (member : item ∈ items) : items.find? (fun other => id other = id item) = some item := by
  cases found : items.find? (fun other => id other = id item) with
  | none => simpa using List.find?_eq_none.mp found item member
  | some other =>
    have same : id other = id item := by simpa using List.find?_some found
    rw [List.inj_on_of_nodup_map nodup (List.mem_of_find?_eq_some found) member same]

/-- A field of the survey is found with its section. -/
theorem field?_of_mem {field : Field} (member : field ∈ survey.fields) :
    ∃ placedField, survey.field? field.id = some placedField ∧ placedField.toField = field := by
  obtain ⟨parent, inSections, inSection⟩ := survey.placed field member
  have parentFound : survey.section? field.sectionId = some parent := by
    rw [SurveyStructure.section?, ← inSection]
    exact find?_of_mem survey.sectionIds inSections
  refine ⟨⟨field, parent, inSection⟩, ?_, rfl⟩
  rw [SurveyStructure.field?, find?_of_mem survey.fieldIds member]
  exact Field.placeIn_eq_some.mpr ⟨parentFound, rfl⟩

theorem SurveyAccepted.listed (accepted : SurveyAccepted py survey) {field : Field} (member : field ∈ survey.fields) :
    ∀ modification ∈ activeModifications py answers survey.dependencies field.id, Modification.Listed modification := by
  simp only [activeModifications, List.forall_mem_map, List.mem_filter, Bool.and_eq_true, decide_eq_true_eq, and_imp]
  intro dep inDependencies sameField _ notSet
  obtain ⟨placedField, found, _⟩ := field?_of_mem member
  obtain ⟨storedRules, surveyPk, passes⟩ := accepted.dependencies dep inDependencies
  simp only [validateFieldDependencyData, seq_eq_ok, whenSome_eq_ok, dependencyData, sameField, found,
    Option.some.injEq, forall_eq'] at passes
  obtain ⟨_, _, _, _, _, actionPasses, _⟩ := passes
  have actionValue : validateActionValue py dep.action dep.actionValue placedField.toField = .ok () :=
    actionPasses _ (by simp [present, accepted.actionValues dep inDependencies])
  change dep.action ≠ .setValue at notSet
  unfold validateActionValue at actionValue
  change ∃ items, dep.actionValue = .list items
  cases action : dep.action with
  | setValue => exact absurd action notSet
  | _ =>
    simp only [action, seq_eq_ok] at actionValue
    obtain ⟨_, _, isList⟩ := actionValue
    unfold requireItems at isList
    split at isList
    · exact ⟨_, by assumption⟩
    · simp at isList

variable (py survey answers) in
/-- On accepted definitions a submission returns or is rejected exactly when no
number beyond the doubles is reached. -/
theorem validateSubmission_never_raises_iff (order : SetOrder) (accepted : SurveyAccepted py survey) :
    (∀ exn, validateSubmission py order survey answers ≠ .error (.raised exn)) ↔
      NeverOverflows py survey answers := by
  have completes : (∀ exn, validateSubmission py order survey answers ≠ .error (.raised exn)) ↔
      ∃ outcome, runChecks py order survey answers = .ok outcome := by
    unfold validateSubmission
    cases runChecks py order survey answers with
    | error exn => simp
    | ok outcome => dsimp only; split <;> simp
  have visible := visibleFieldIds_returns_iff py survey answers
  rw [completes]
  constructor
  · intro holds
    obtain ⟨outcome, ran⟩ := holds
    have checked := runChecks_ok ran
    simp only [runChecks, bind_eq_ok] at ran
    obtain ⟨ids, idsResult, modifications, resolved, _⟩ := ran
    obtain ⟨sectionsTested, fieldsTested⟩ := visible.mp ⟨ids, idsResult⟩
    refine ⟨?_, ?_, ?_, ?_⟩
    · intro current member
      exact (showsTarget_returns_iff _).mp (sectionsTested current member)
    · intro field member sectionShown
      obtain ⟨parent, inSections, inSection⟩ := survey.placed field member
      obtain ⟨shown, tested⟩ := sectionsTested parent inSections
      rw [inSection] at tested
      rw [(showsTarget_ok_iff tested).mpr sectionShown] at tested
      exact (showsTarget_returns_iff _).mp (fieldsTested field member tested)
    · exact (resolveDependencies_returns_iff _).mp ⟨modifications, resolved⟩
    · intro field member isVisible value given notBlank
      have returned := checked.returned field member isVisible
      simp only [fieldError?, given, notBlank, Bool.false_eq_true, if_false] at returned
      exact (valueError?_returns_iff (accepted.fields field member) (accepted.listed member) value).mp returned
  · intro safe
    obtain ⟨ids, idsResult⟩ := visible.mpr ⟨fun current member => (showsTarget_returns_iff _).mpr (safe.sections current member),
      fun field member tested => (showsTarget_returns_iff _).mpr
        (safe.fields field member ((showsTarget_ok_iff tested).mp rfl))⟩
    obtain ⟨modifications, resolved⟩ := (resolveDependencies_returns_iff _).mpr safe.dependencies
    apply runChecks_returns order idsResult resolved
    intro field member isVisible
    unfold fieldError?
    cases given : answers.get? (fieldIdStr field.id) with
    | none => exact ⟨_, rfl⟩
    | some value =>
      dsimp only
      split
      · exact ⟨_, rfl⟩
      · rename_i notBlank
        exact (valueError?_returns_iff (accepted.fields field member) (accepted.listed member) value).mpr
          (safe.bounds field member isVisible value given (by simpa using notBlank))

/-- Without numbers beyond the doubles in the answers and in the definitions, none is reached. -/
theorem NeverOverflows.of_not_huge
    (answersSmall : ∀ key answer, answers.get? key = some answer → answer.isHuge = false)
    (valuesSmall : ∀ condition ∈ conditions survey, condition.value.isHuge = false)
    (boundsSmall : ∀ field ∈ survey.fields, ∀ entries, field.validationRules = .object entries →
      ∀ key bound, entries.lookup key = some bound → bound.isHuge = false) :
    NeverOverflows py survey answers := by
  have safe : ∀ condition ∈ conditions survey, ¬ Overflows answers condition := by
    rintro condition member ⟨_, answer, answered, huge | ⟨_, huge⟩⟩
    · obtain ⟨given, _⟩ := Option.filter_eq_some_iff.mp answered
      rw [answersSmall _ answer given] at huge
      cases huge
    · rw [valuesSmall condition member] at huge
      cases huge
  have rulesSafe : ∀ rule ∈ survey.sectionRules ++ survey.fieldRules, ¬ Overflows answers rule.condition := by
    intro rule member
    apply safe
    rw [conditions, ← List.map_append]
    exact List.mem_append_left _ (List.mem_map_of_mem member)
  refine ⟨?_, ?_, ?_, ?_⟩
  · rintro current _ ⟨before, rule, after, split, _, overflows⟩
    have member : rule ∈ survey.sectionRules :=
      List.mem_of_mem_filter (p := fun rule => rule.targetSectionId = some current.id)
        (by rw [← rulesFor, split]; simp)
    exact rulesSafe rule (List.mem_append_left _ member) overflows
  · rintro field _ _ ⟨before, rule, after, split, _, overflows⟩
    have member : rule ∈ survey.fieldRules :=
      List.mem_of_mem_filter (p := fun rule => rule.targetFieldId = some field.id)
        (by rw [← rulesFor, split]; simp)
    exact rulesSafe rule (List.mem_append_right _ member) overflows
  · intro dep member
    apply safe
    exact List.mem_append_right _ (List.mem_map_of_mem (f := FieldDependency.condition) member)
  · rintro field member _ value _ _ ⟨entries, isObject, ⟨low, given, huge | ⟨_, huge⟩⟩ | ⟨_, high, given, huge | ⟨_, huge⟩⟩⟩
    · cases huge
    · rw [boundsSmall field member entries isObject _ low given] at huge
      cases huge
    · cases huge
    · rw [boundsSmall field member entries isObject _ high given] at huge
      cases huge

end Submission

/-! ## A comparison of numbers -/

def numberField (id order : Nat) (label : String) : Field :=
  ⟨id, 1, label, .number, false, order, .list [], false, .object []⟩

/-- One section with two number fields: the second is shown when the first is over 18. -/
def ageSurvey : SurveyStructure where
  sections := [⟨1, 1, "About you", "", 1⟩]
  fields := [numberField 1 1 "Age", numberField 2 2 "Since when?"]
  sectionRules := []
  fieldRules := [⟨1, 1, none, some 2, 1, .greaterThan, .int 18⟩]
  dependencies := []
  sectionIds := List.nodup_singleton 1
  fieldIds := List.nodup_cons.mpr ⟨fun same => (by cases List.mem_singleton.mp same), List.nodup_singleton 2⟩
  placed := by
    intro field member
    simp only [List.mem_cons, List.not_mem_nil, or_false] at member
    rcases member with rfl | rfl <;> exact ⟨_, List.mem_singleton_self _, rfl⟩

theorem ageSurvey_accepted : SurveyAccepted bareInterpreter ageSurvey where
  fields := by
    intro field member
    simp only [ageSurvey, List.mem_cons, List.not_mem_nil, or_false] at member
    rcases member with rfl | rfl <;> exact ⟨rfl, rfl⟩
  rules := by
    intro rule member
    simp only [ageSurvey, List.nil_append, List.mem_singleton] at member
    subst member
    exact ⟨some 1, rfl⟩
  dependencies := by simp [ageSurvey]
  actionValues := by simp [ageSurvey]

/-- The age 40 is compared without an exception. -/
theorem validateSubmission_never_raises_age : ¬ ∃ exn,
    validateSubmission bareInterpreter .ascending ageSurvey (Dict.empty.set "1" (.int 40)) = .error (.raised exn) := by
  apply not_exists.mpr
  apply (validateSubmission_never_raises_iff _ _ _ .ascending ageSurvey_accepted).mpr
  apply NeverOverflows.of_not_huge
  · intro key answer given
    simp only [Dict.get?_set, Dict.get?_empty] at given
    split at given <;> cases given
    decide +kernel
  · intro condition member
    simp only [conditions, ageSurvey, List.map_cons, List.map_nil, List.nil_append, List.append_nil,
      List.mem_singleton] at member
    subst member
    decide +kernel
  · intro field member entries isObject
    simp only [ageSurvey, List.mem_cons, List.not_mem_nil, or_false] at member
    rcases member with rfl | rfl <;> cases isObject <;> simp

/-- The exception that escapes, if one does. -/
def escaping {α : Type} : Except SubmissionExn α → Option PyExn
  | .error (.raised exn) => some exn
  | _ => none

theorem escaping_eq_some {α : Type} {result : Except SubmissionExn α} {exn : PyExn} :
    escaping result = some exn ↔ result = .error (.raised exn) := by
  cases result with
  | ok value => simp [escaping]
  | error refusal => cases refusal <;> simp [escaping]

/-- The number `10 ^ 400` in place of an age ends the request with `OverflowError`. -/
theorem validateSubmission_raises_overflow :
    SurveyAccepted bareInterpreter ageSurvey ∧
      validateSubmission bareInterpreter .ascending ageSurvey (Dict.empty.set "1" (.int (10 ^ 400))) =
        .error (.raised .overflowError) :=
  have raised : escaping (validateSubmission bareInterpreter .ascending ageSurvey
      (Dict.empty.set "1" (.int (10 ^ 400)))) = some .overflowError := by decide +kernel
  ⟨ageSurvey_accepted, escaping_eq_some.mp raised⟩

end SurveyPlatform.Verified

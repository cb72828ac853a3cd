import SurveyPlatform.Verified.RuleValidity

/-! # Updating rules and dependencies

The serializers validate the submitted keys alone, and the services write them
onto the stored row.  For each of the two endpoints this module says exactly
when a successful update leaves a valid row (`RuleUpdateSound`,
`DependencyUpdateSound`), and shows a request where it does not.
-/

namespace SurveyPlatform.Verified

open SurveyPlatform.Library SurveyPlatform.Library.Program SurveyPlatform.Python SurveyPlatform.Surveys

section Updates

variable {py : Interpreter} {order : SetOrder} {user : User} {surveyPk pk : Nat} {isPartial : Bool} {w w' : World}

/-! ## Conditional rules: what a success tells -/

/-- The facts behind a successful update of a conditional rule. -/
structure RuleUpdated (py : Interpreter) (surveyPk pk : Nat) (w : World) (data : ConditionalRuleData)
    (current : ConditionalRule) (w' : World) : Prop where
  stored : w.db.conditionalRules.get pk = some current
  inSurvey : current.surveyId = surveyPk
  draft : ∃ survey, w.db.surveys.get surveyPk = some survey ∧ survey.status = .draft
  accepted : RuleAccepted py data surveyPk
  -- the cycle check raises `AttributeError` on a target field without its `depends_on_field`
  checkable : data.targetField.join ≠ none → data.dependsOnField ≠ none
  written : w'.db = { w.db with
    conditionalRules := w.db.conditionalRules.modify pk data.assign data.key_assign }

theorem detectCircularDependenciesCr_checkable {db : Database} {dependsOn target : Option PlacedField}
    {exclude : Option Nat} (passed : detectCircularDependenciesCr order db dependsOn target exclude = .ok ()) :
    target ≠ none → dependsOn ≠ none := by
  cases target with
  | none => simp
  | some target =>
    cases dependsOn with
    | none => cases passed
    | some dependsOn => simp

theorem conditionalRuleUpdate_ok {body : ConditionalRuleBody} {row : ConditionalRule}
    (success : conditionalRuleUpdate py order user surveyPk pk isPartial body w = .ok row w') :
    ∃ data current, conditionalRuleFields w.db isPartial body = .ok data ∧
      RuleUpdated py surveyPk pk w data current w' := by
  simp only [conditionalRuleUpdate, requireAdmin_bind_eq_ok_iff, getOr404_bind_eq_ok_iff,
    query_bind_eq_ok_iff] at success
  obtain ⟨_, current, found, data, validated, success⟩ := success
  simp only [conditionalRulePerformUpdate, getOr404_bind_eq_ok_iff, check_bind_eq_ok_iff] at success
  obtain ⟨survey, isSurvey, draft, circular, success⟩ := success
  simp only [updateConditionalRule, bind_eq_ok_iff, pure_eq_ok_iff] at success
  obtain ⟨_, saved, wrote, _, _, invalidated, _, rfl⟩ := success
  simp only [validateConditionalRule, bind_eq_ok, translated_eq_ok, pure_eq_ok] at validated
  obtain ⟨_, fields, _, accepted, rfl⟩ := validated
  rw [validateConditionalRuleData_eq_ok] at accepted
  rw [getConditionalRule, Option.filter_eq_some_iff] at found
  obtain ⟨stored, inSurvey⟩ := found
  have sameKey : current.id = pk := w.db.conditionalRules.keyed pk current stored
  -- an empty body has no target and is refused, so something is written
  have notEmpty : data.isEmpty = false := by
    by_contra empty
    rw [Bool.not_eq_false] at empty
    simp only [ConditionalRuleData.isEmpty, Bool.and_eq_true, Option.isNone_iff_eq_none] at empty
    exact accepted.someTarget ⟨by rw [empty.1.1.1.1]; rfl, by rw [empty.1.1.1.2]; rfl⟩
  rw [notEmpty, saveFields_false, Model.update_eq_ok_iff] at wrote
  obtain ⟨_, _, _, rfl⟩ := wrote
  refine ⟨_, current, fields, stored, by simpa using inSurvey, ⟨survey, isSurvey, ensureDraftSurvey_eq_ok.mp draft⟩,
    accepted, ?_, ?_⟩
  · rw [checkCircularCr, translated_eq_ok] at circular
    exact detectCircularDependenciesCr_checkable circular
  · rw [invalidateStructure_eq_ok invalidated]
    subst sameKey
    rfl

/-! ## Conditional rules: when the row stays valid -/

/-- What has to hold besides the checks of the submitted keys. -/
structure RuleUpdateSound (py : Interpreter) (db : Database) (current : ConditionalRule)
    (data : ConditionalRuleData) : Prop where
  /-- No target is submitted over a stored one of the other kind. -/
  oneTarget : (data.assign current).targetSectionId = none ∨ (data.assign current).targetFieldId = none
  /-- Without `depends_on_field`, the submitted section follows the stored one. -/
  section_ : data.dependsOnField = none → ∀ target, data.targetSection.join = some target →
    target.surveyId = current.surveyId ∧ ∀ dependsOn, db.placedField current.dependsOnFieldId = some dependsOn →
      dependsOn.sectionRow.order < target.order
  /-- Unless all three keys are submitted, operator and value fit the field the rule ends with. -/
  value : data.dependsOnField = none ∨ data.operator = none ∨ data.value = none →
    ∀ dependsOn, db.placedField (data.assign current).dependsOnFieldId = some dependsOn →
      ∀ value, present (some (data.assign current).value) = some value →
        validateOperatorValue py dependsOn.toField (data.assign current).operator value = .ok ()

/-- When at most one target is left, it is the submitted one. -/
theorem overRule_targets {data : ConditionalRuleData} (full : ConditionalRuleData) (accepted : RuleAccepted py data surveyPk)
    (oneTarget : (overRule data full).targetSection.join = none ∨ (overRule data full).targetField.join = none) :
    (overRule data full).targetSection.join = data.targetSection.join ∧
      (overRule data full).targetField.join = data.targetField.join := by
  have someTarget := accepted.someTarget
  have notBoth := accepted.oneTarget
  simp only [overRule] at oneTarget ⊢
  cases section_ : data.targetSection.join with
  | some target =>
    rw [Option.join_eq_some_iff] at section_
    simp only [section_, Option.some_or, Option.join_some, reduceCtorEq, false_or, true_and] at oneTarget ⊢
    rw [oneTarget, eq_comm]
    simpa [section_] using notBoth
  | none =>
    cases field : data.targetField.join with
    | none => exact absurd ⟨section_, field⟩ someTarget
    | some target =>
      rw [Option.join_eq_some_iff] at field
      simp only [field, Option.some_or, Option.join_some, reduceCtorEq, or_false, and_true] at oneTarget ⊢
      exact oneTarget

/-- Two columns that were checked together where both are submitted, and fit where one is kept, fit. -/
theorem fits_of_submitted_or_kept {α β : Type} (submitted : Option α) (submittedValue : Option β) (stored : α)
    (storedValue : β) (fits : α → β → Prop)
    (together : ∀ new newValue, submitted = some new → submittedValue = some newValue → fits new newValue)
    (kept : submitted = none ∨ submittedValue = none → fits (submitted.getD stored) (submittedValue.getD storedValue)) :
    fits (submitted.getD stored) (submittedValue.getD storedValue) := by
  cases isNew : submitted with
  | none => exact isNew ▸ kept (Or.inl isNew)
  | some new =>
    cases isNewValue : submittedValue with
    | none => exact isNew ▸ isNewValue ▸ kept (Or.inr isNewValue)
    | some newValue => exact together new newValue isNew isNewValue

theorem overRule_accepted_iff {current : ConditionalRule} {data full : ConditionalRuleData}
    (resolved : RuleResolved w.db data) (stored : fullRule w.db current = some full)
    (inSurvey : current.surveyId = surveyPk) (acceptedFull : RuleAccepted py full surveyPk)
    (accepted : RuleAccepted py data surveyPk)
    (checkable : data.targetField.join ≠ none → data.dependsOnField ≠ none) :
    RuleAccepted py (overRule data full) surveyPk ↔ RuleUpdateSound py w.db current data := by
  obtain ⟨_, _, dependsOn, _, _, found, isFull⟩ := fullRule_eq_some.mp stored
  obtain ⟨targetSection, targetField, newDependsOn, followSection, followField, foundNew, same⟩ :=
    fullRule_eq_some.mp (fullRule_assign resolved stored)
  have oneTarget_iff : ((data.assign current).targetSectionId = none ∨ (data.assign current).targetFieldId = none) ↔
      targetSection = none ∨ targetField = none := by
    rw [follow_eq_some_none followSection, follow_eq_some_none followField]
  have targets := overRule_targets full accepted
  -- the field the updated row reads: the submitted one, or the stored one
  have source : some newDependsOn = data.dependsOnField.or (some dependsOn) := by
    have sameSource := congrArg ConditionalRuleData.dependsOnField same
    rw [isFull] at sameSource
    exact sameSource.symm
  rw [same] at targets ⊢
  simp only [Option.join_some] at targets
  constructor
  · intro accepted'
    -- at most one target is left, and then it is the submitted one
    have oneTarget : targetSection = none ∨ targetField = none := by
      have notBoth := accepted'.oneTarget
      cases targetSection <;> simp_all
    obtain ⟨sameSection, _⟩ := targets oneTarget
    refine ⟨oneTarget_iff.mpr oneTarget, ?_, ?_⟩
    · intro missing target isTarget
      -- without `depends_on_field` in the body the row keeps the stored one
      rw [missing, Option.none_or, Option.some.injEq] at source
      subst source
      have isSection : targetSection = some target := sameSection.trans isTarget
      refine ⟨(accepted'.sectionSurvey _ rfl target isSection).trans inSurvey.symm, ?_⟩
      intro other foundOther
      rw [found, Option.some.injEq] at foundOther
      exact foundOther ▸ accepted'.afterSection _ rfl target isSection
    · intro _ other foundOther value isValue
      rw [foundNew, Option.some.injEq] at foundOther
      exact foundOther ▸ accepted'.value _ rfl _ rfl value isValue
  · intro sound
    obtain ⟨sameSection, sameField⟩ := targets (oneTarget_iff.mp sound.oneTarget)
    subst sameSection sameField
    cases given : data.dependsOnField with
    | some field =>
      -- all that was checked together was submitted; operator and value may be stored ones
      rw [given, Option.some_or, Option.some.injEq] at source
      subst source
      refine ⟨accepted.someTarget, accepted.oneTarget, ?_, ?_, ?_, ?_, ?_, ?_, ?_⟩
      · rintro _ ⟨⟩; exact accepted.dependsOnSurvey _ given
      · rintro _ ⟨⟩; exact accepted.sectionSurvey _ given
      · rintro _ ⟨⟩; exact accepted.fieldSurvey _ given
      · rintro target isTarget _ ⟨⟩; exact accepted.notSelf target isTarget _ given
      · rintro _ ⟨⟩; exact accepted.afterSection _ given
      · rintro _ ⟨⟩; exact accepted.afterField _ given
      · rintro _ ⟨⟩ _ ⟨⟩
        refine fits_of_submitted_or_kept data.operator data.value current.operator current.value
          (fun operator json => ∀ value, present (some json) = some value →
            validateOperatorValue py newDependsOn.toField operator value = .ok ()) ?_ ?_
        · intro operator json isOperator isJson value isValue
          exact accepted.value _ given operator isOperator value (isJson ▸ isValue)
        -- a stored operator or value may not fit the new field
        · intro kept
          exact sound.value (Or.inr kept) _ foundNew
    | none =>
      rw [given, Option.none_or, Option.some.injEq] at source
      subst source
      -- a target field comes with its `depends_on_field`, so the target is a section
      have noField : data.targetField.join = none := by
        by_contra isField
        exact checkable isField given
      have placed := sound.section_ given
      refine ⟨accepted.someTarget, accepted.oneTarget, ?_, ?_, ?_, ?_, ?_, ?_, ?_⟩
      · rintro _ ⟨⟩; exact acceptedFull.dependsOnSurvey _ (by rw [isFull])
      · rintro _ ⟨⟩ target isTarget; exact (placed target isTarget).1.trans inSurvey
      · rintro _ ⟨⟩ target isTarget; simp [noField] at isTarget
      · rintro target isTarget; simp [noField] at isTarget
      · rintro _ ⟨⟩ target isTarget; exact (placed target isTarget).2 _ found
      · rintro _ ⟨⟩ target isTarget; simp [noField] at isTarget
      · rintro _ ⟨⟩ _ ⟨⟩ value isValue
        exact sound.value (Or.inl given) _ foundNew value isValue

/-- Every rule of a draft survey is valid. -/
def RulesValid (py : Interpreter) (db : Database) : Prop :=
  ∀ id rule survey, db.conditionalRules.get id = some rule → db.surveys.get rule.surveyId = some survey →
    survey.status = .draft → RuleValid py db rule

/-- A successful PUT or PATCH leaves a valid row exactly when the keys left out of
the body fit the submitted ones. -/
theorem conditionalRuleUpdate_valid_iff {body : ConditionalRuleBody} {row current : ConditionalRule}
    {data : ConditionalRuleData} (valid : RulesValid py w.db)
    (success : conditionalRuleUpdate py order user surveyPk pk isPartial body w = .ok row w')
    (stored : w.db.conditionalRules.get pk = some current)
    (fields : conditionalRuleFields w.db isPartial body = .ok data) :
    (∃ updated, w'.db.conditionalRules.get pk = some updated ∧ RuleValid py w'.db updated) ↔
      RuleUpdateSound py w.db current data := by
  obtain ⟨data', current', fields', updated⟩ := conditionalRuleUpdate_ok success
  rw [fields, Except.ok.injEq] at fields'
  subst fields'
  obtain ⟨stored', inSurvey, ⟨survey, isSurvey, draft⟩, accepted, checkable, written⟩ := updated
  rw [stored, Option.some.injEq] at stored'
  subst stored'
  obtain ⟨full, isFull, acceptedFull⟩ := valid pk current survey stored (inSurvey ▸ isSurvey) draft
  rw [inSurvey, validateConditionalRuleData_eq_ok] at acceptedFull
  have resolved := conditionalRuleFields_resolved fields
  have newRow : w'.db.conditionalRules.get pk = some (data.assign current) := by
    simp [written, stored]
  -- full rows are read from the sections and fields, which the update leaves alone
  have sameFull : fullRule w'.db = fullRule w.db := by
    rw [written]
    rfl
  have newFull : fullRule w'.db (data.assign current) = some (overRule data full) := by
    rw [sameFull]
    exact fullRule_assign resolved isFull
  rw [← overRule_accepted_iff resolved isFull inSurvey acceptedFull accepted checkable,
    ← validateConditionalRuleData_eq_ok]
  simp only [newRow, Option.some.injEq, exists_eq_left', RuleValid, newFull]
  rw [show (data.assign current).surveyId = surveyPk from inSurvey]

/-! ## Updating a rule of a small draft -/

theorem draftDatabase_rulesValid : RulesValid bareInterpreter draftDatabase := by
  intro id rule survey found _ _
  have onlyRule : id = 1 := by
    by_contra other
    simp [draftDatabase, Table.empty, Table.insert, other] at found
  subst onlyRule
  cases found
  exact ⟨_, rfl, rfl⟩

/-- `PATCH {"target_field": 2, "depends_on_field": 1, "value": "b"}` -/
def newValueBody : ConditionalRuleBody := ⟨.missing, .given (some 2), .given 1, .missing, .given (.str "b")⟩

theorem conditionalRuleUpdate_valid_newValue : ∃ row w' data,
    conditionalRuleUpdate bareInterpreter .ascending administrator 1 1 true newValueBody draftWorld = .ok row w' ∧
      ((∃ updated, w'.db.conditionalRules.get 1 = some updated ∧ RuleValid bareInterpreter w'.db updated) ↔
        RuleUpdateSound bareInterpreter draftDatabase ⟨1, 1, none, some 2, 1, .equals, .str "a"⟩ data) := by
  have success : conditionalRuleUpdate bareInterpreter .ascending administrator 1 1 true newValueBody draftWorld =
    .ok _ _ := rfl
  exact ⟨_, _, _, success, conditionalRuleUpdate_valid_iff draftDatabase_rulesValid success rfl rfl⟩

/-- `PATCH {"target_section": 2, "depends_on_field": 1}` leaves both targets set. -/
def secondTargetBody : ConditionalRuleBody := ⟨.given (some 2), .missing, .given 1, .missing, .missing⟩

theorem conditionalRuleUpdate_breaks_secondTarget : RulesValid bareInterpreter draftDatabase ∧ ∃ row w',
    conditionalRuleUpdate bareInterpreter .ascending administrator 1 1 true secondTargetBody draftWorld = .ok row w' ∧
      w'.db.conditionalRules.get 1 = some row ∧ ¬ RuleValid bareInterpreter w'.db row := by
  refine ⟨draftDatabase_rulesValid, _, _, rfl, rfl, ?_⟩
  intro holds
  obtain ⟨full, isFull, accepted⟩ := holds
  cases isFull
  cases accepted

/-! ## Field dependencies: what a success tells -/

/-- The facts behind a successful update of a field dependency. -/
structure DependencyUpdated (py : Interpreter) (surveyPk pk : Nat) (w : World) (data : FieldDependencyData)
    (current : FieldDependency) (w' : World) : Prop where
  stored : w.db.fieldDependencies.get pk = some current
  inSurvey : current.surveyId = surveyPk
  accepted : DependencyAccepted py w.db.conditionalRules.rows data surveyPk
  -- the cycle check raises `AttributeError` unless both fields are submitted
  checkable : data.dependsOnField ≠ none ∧ data.dependentField ≠ none
  written : w'.db = { w.db with
    fieldDependencies := w.db.fieldDependencies.modify pk data.assign data.key_assign }

theorem detectCircularDependenciesFd_checkable {db : Database} {dependsOn dependent : Option PlacedField}
    {exclude : Option Nat} (passed : detectCircularDependenciesFd order db dependsOn dependent exclude = .ok ()) :
    dependsOn ≠ none ∧ dependent ≠ none := by
  cases dependsOn with
  | none => cases passed
  | some dependsOn =>
    cases dependent with
    | none => cases passed
    | some dependent => simp

theorem fieldDependencyUpdate_ok {body : FieldDependencyBody} {row : FieldDependency}
    (success : fieldDependencyUpdate py order user surveyPk pk isPartial body w = .ok row w') :
    ∃ data current, fieldDependencyFields w.db isPartial body = .ok data ∧
      DependencyUpdated py surveyPk pk w data current w' := by
  simp only [fieldDependencyUpdate, requireAdmin_bind_eq_ok_iff, getOr404_bind_eq_ok_iff,
    query_bind_eq_ok_iff] at success
  obtain ⟨_, current, found, data, validated, success⟩ := success
  simp only [fieldDependencyPerformUpdate, getOr404_bind_eq_ok_iff, check_bind_eq_ok_iff] at success
  obtain ⟨survey, isSurvey, draft, circular, success⟩ := success
  simp only [updateFieldDependency, bind_eq_ok_iff, pure_eq_ok_iff] at success
  obtain ⟨_, saved, wrote, _, _, invalidated, _, rfl⟩ := success
  simp only [validateFieldDependency, bind_eq_ok, translated_eq_ok, pure_eq_ok] at validated
  obtain ⟨_, fields, _, accepted, rfl⟩ := validated
  rw [checkCircularFd, translated_eq_ok] at circular
  have checkable := detectCircularDependenciesFd_checkable circular
  rw [getFieldDependency, Option.filter_eq_some_iff] at found
  obtain ⟨stored, inSurvey⟩ := found
  have sameKey : current.id = pk := w.db.fieldDependencies.keyed pk current stored
  -- both fields are submitted, so something is written
  have notEmpty : data.isEmpty = false := by
    cases given : data.dependsOnField with
    | none => exact absurd given checkable.1
    | some dependsOn => simp [FieldDependencyData.isEmpty, given]
  rw [notEmpty, saveFields_false, Model.update_eq_ok_iff] at wrote
  obtain ⟨_, _, _, rfl⟩ := wrote
  refine ⟨_, current, fields, stored, by simpa using inSurvey, validateFieldDependencyData_eq_ok.mp accepted,
    checkable, ?_⟩
  rw [invalidateStructure_eq_ok invalidated]
  subst sameKey
  rfl

/-! ## Field dependencies: when the row stays valid -/

/-- What has to hold besides the checks of the submitted keys. -/
structure DependencyUpdateSound (py : Interpreter) (db : Database) (current : FieldDependency)
    (data : FieldDependencyData) : Prop where
  /-- A stored operator or value kept by the update fits the submitted `depends_on_field`. -/
  value : data.operator = none ∨ data.value = none → ∀ dependsOn, data.dependsOnField = some dependsOn →
    ∀ value, present (some (data.assign current).value) = some value →
      validateOperatorValue py dependsOn.toField (data.assign current).operator value = .ok ()
  /-- A stored action or action value kept by the update fits the submitted `dependent_field`. -/
  action : data.action = none ∨ data.actionValue = none → ∀ dependent, data.dependentField = some dependent →
    ∀ actionValue, present (some (data.assign current).actionValue) = some actionValue →
      validateActionValue py (data.assign current).action actionValue dependent.toField = .ok () ∧
        validateCrFdConflict py db.conditionalRules.rows (data.assign current).action actionValue
          dependent.toField = .ok ()

theorem overDependency_accepted_iff {current : FieldDependency} {data full : FieldDependencyData}
    (resolved : DependencyResolved w.db data) (stored : fullDependency w.db current = some full)
    (accepted : DependencyAccepted py w.db.conditionalRules.rows data surveyPk)
    (checkable : data.dependsOnField ≠ none ∧ data.dependentField ≠ none) :
    DependencyAccepted py w.db.conditionalRules.rows (overDependency data full) surveyPk ↔
      DependencyUpdateSound py w.db current data := by
  obtain ⟨dependsOn, given⟩ := Option.ne_none_iff_exists'.mp checkable.1
  obtain ⟨dependent, given'⟩ := Option.ne_none_iff_exists'.mp checkable.2
  obtain ⟨_, _, _, _, same⟩ := fullDependency_eq_some.mp (fullDependency_assign resolved stored)
  -- both fields are submitted; operator, value, action and its value may be stored ones
  have merged : overDependency data full = ⟨some dependent, some dependsOn, some (data.assign current).operator,
      some (data.assign current).value, some (data.assign current).action,
      some (data.assign current).actionValue⟩ := by
    have isDependent := congrArg FieldDependencyData.dependentField same
    have isDependsOn := congrArg FieldDependencyData.dependsOnField same
    simp only [overDependency, given, given', Option.some_or] at isDependent isDependsOn
    rw [same, ← isDependent, ← isDependsOn]
  rw [merged]
  constructor
  · intro accepted'
    refine ⟨?_, ?_⟩
    · intro _ other isOther value isValue
      rw [given, Option.some.injEq] at isOther
      exact isOther ▸ accepted'.value dependsOn rfl _ rfl value isValue
    · intro _ other isOther actionValue isValue
      rw [given', Option.some.injEq] at isOther
      exact isOther ▸ ⟨accepted'.action dependent rfl _ rfl actionValue isValue,
        accepted'.noConflict dependent rfl _ rfl actionValue isValue⟩
  · intro sound
    -- submitted together they were checked together; otherwise the condition says they fit
    have keptAction : ∀ actionValue, present (some (data.assign current).actionValue) = some actionValue →
        validateActionValue py (data.assign current).action actionValue dependent.toField = .ok () ∧
          validateCrFdConflict py w.db.conditionalRules.rows (data.assign current).action actionValue
            dependent.toField = .ok () := by
      refine fits_of_submitted_or_kept data.action data.actionValue current.action current.actionValue
        (fun action json => ∀ actionValue, present (some json) = some actionValue →
          validateActionValue py action actionValue dependent.toField = .ok () ∧
            validateCrFdConflict py w.db.conditionalRules.rows action actionValue dependent.toField = .ok ()) ?_ ?_
      · intro action json isAction isJson actionValue isValue
        exact ⟨accepted.action _ given' action isAction actionValue (isJson ▸ isValue),
          accepted.noConflict _ given' action isAction actionValue (isJson ▸ isValue)⟩
      · intro kept
        exact sound.action kept dependent given'
    refine ⟨?_, ?_, ?_, ?_, ?_, ?_, ?_⟩
    · rintro _ ⟨⟩; exact accepted.dependsOnSurvey _ given
    · rintro _ ⟨⟩; exact accepted.dependentSurvey _ given'
    · rintro _ ⟨⟩ _ ⟨⟩; exact accepted.notSelf _ given' _ given
    · rintro _ ⟨⟩ _ ⟨⟩; exact accepted.after _ given' _ given
    · rintro _ ⟨⟩ _ ⟨⟩
      refine fits_of_submitted_or_kept data.operator data.value current.operator current.value
        (fun operator json => ∀ value, present (some json) = some value →
          validateOperatorValue py dependsOn.toField operator value = .ok ()) ?_ ?_
      · intro operator json isOperator isJson value isValue
        exact accepted.value _ given operator isOperator value (isJson ▸ isValue)
      · intro kept
        exact sound.value kept _ given
    · rintro _ ⟨⟩ _ ⟨⟩ actionValue isValue; exact (keptAction actionValue isValue).1
    · rintro _ ⟨⟩ _ ⟨⟩ actionValue isValue; exact (keptAction actionValue isValue).2

/-- A successful PUT or PATCH leaves a valid row exactly when the stored operator,
value, action and action value it keeps fit the submitted fields. -/
theorem fieldDependencyUpdate_valid_iff {body : FieldDependencyBody} {row current : FieldDependency}
    {data : FieldDependencyData} (valid : DependencyValid py w.db current)
    (success : fieldDependencyUpdate py order user surveyPk pk isPartial body w = .ok row w')
    (stored : w.db.fieldDependencies.get pk = some current)
    (fields : fieldDependencyFields w.db isPartial body = .ok data) :
    (∃ updated, w'.db.fieldDependencies.get pk = some updated ∧ DependencyValid py w'.db updated) ↔
      DependencyUpdateSound py w.db current data := by
  obtain ⟨data', current', fields', stored', inSurvey, accepted, checkable, written⟩ := fieldDependencyUpdate_ok success
  rw [fields, Except.ok.injEq] at fields'
  subst fields'
  rw [stored, Option.some.injEq] at stored'
  subst stored'
  obtain ⟨full, isFull, _⟩ := valid
  have resolved := fieldDependencyFields_resolved fields
  have newRow : w'.db.fieldDependencies.get pk = some (data.assign current) := by
    simp [written, stored]
  have sameRules : w'.db.conditionalRules = w.db.conditionalRules := by rw [written]
  have sameFull : fullDependency w'.db = fullDependency w.db := by
    rw [written]
    rfl
  have newFull : fullDependency w'.db (data.assign current) = some (overDependency data full) := by
    rw [sameFull]
    exact fullDependency_assign resolved isFull
  rw [← overDependency_accepted_iff resolved isFull accepted checkable, ← validateFieldDependencyData_eq_ok]
  simp only [newRow, Option.some.injEq, exists_eq_left', DependencyValid, newFull, sameRules]
  rw [show (data.assign current).surveyId = surveyPk from inSurvey]

/-! ## Updating a dependency of the draft -/

/-- `PATCH {"dependent_field": 2, "depends_on_field": 1, "action_value": ["d"]}` -/
def hideOtherBody : FieldDependencyBody :=
  ⟨.given 2, .given 1, .missing, .missing, .missing, .given (.list [.str "d"])⟩

theorem fieldDependencyUpdate_valid_hideOther : ∃ row w' data,
    fieldDependencyUpdate bareInterpreter .ascending administrator 1 1 true hideOtherBody draftWorld = .ok row w' ∧
      ((∃ updated, w'.db.fieldDependencies.get 1 = some updated ∧ DependencyValid bareInterpreter w'.db updated) ↔
        DependencyUpdateSound bareInterpreter draftDatabase
          ⟨1, 1, 2, 1, .equals, .str "b", .hideOptions, .list [.str "c"]⟩ data) := by
  have success : fieldDependencyUpdate bareInterpreter .ascending administrator 1 1 true hideOtherBody draftWorld =
    .ok _ _ := rfl
  exact ⟨_, _, _, success, fieldDependencyUpdate_valid_iff ⟨_, rfl, rfl⟩ success rfl rfl⟩

/-- `PATCH {"dependent_field": 2, "depends_on_field": 1, "value": "z"}`: without the
operator the value is not checked, and no option is `"z"`. -/
def noOptionBody : FieldDependencyBody :=
  ⟨.given 2, .given 1, .missing, .given (.str "z"), .missing, .missing⟩

theorem fieldDependencyUpdate_breaks_noOption :
    DependencyValid bareInterpreter draftDatabase
        ⟨1, 1, 2, 1, .equals, .str "b", .hideOptions, .list [.str "c"]⟩ ∧ ∃ row w',
      fieldDependencyUpdate bareInterpreter .ascending administrator 1 1 true noOptionBody draftWorld = .ok row w' ∧
        w'.db.fieldDependencies.get 1 = some row ∧ ¬ DependencyValid bareInterpreter w'.db row := by
  refine ⟨⟨_, rfl, rfl⟩, _, _, rfl, rfl, ?_⟩
  intro holds
  obtain ⟨full, isFull, accepted⟩ := holds
  cases isFull
  cases accepted

end Updates

end SurveyPlatform.Verified

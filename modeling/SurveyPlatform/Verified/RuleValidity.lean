import SurveyPlatform.Surveys.Views

/-! # What the rule validators accept

One specification for each validator of submitted rules: `validate_conditional_rule_data`
accepts exactly `RuleAccepted` data, `validate_field_dependency_data` exactly
`DependencyAccepted` data.  `fullRule` and `fullDependency` are the data of a
stored row, with its instances looked up.
-/

namespace SurveyPlatform.Verified

open SurveyPlatform.Library SurveyPlatform.Python SurveyPlatform.Surveys

/-! ## Ordering -/

/-- A field comes before another: by order in its section, or by sections. -/
def FieldBefore (dependsOn target : PlacedField) : Prop :=
  if dependsOn.sectionRow.id = target.sectionRow.id then dependsOn.order < target.order
  else dependsOn.sectionRow.order < target.sectionRow.order

theorem requireFieldBefore_eq_ok {name : String} {dependsOn target : PlacedField} :
    requireFieldBefore name dependsOn target = .ok () ↔ FieldBefore dependsOn target := by
  unfold requireFieldBefore FieldBefore
  split <;> simp [requireBefore]

theorem validateOrderingConstraint_eq_ok {dependsOn : PlacedField} {targetSection : Option Section}
    {targetField : Option PlacedField} :
    validateOrderingConstraint dependsOn targetSection targetField = .ok () ↔
      (∀ target, targetSection = some target → dependsOn.sectionRow.order < target.order) ∧
        ∀ target, targetField = some target → FieldBefore dependsOn target := by
  simp [validateOrderingConstraint, seq_eq_ok, whenSome_eq_ok, requireFieldBefore_eq_ok, requireBefore]

/-! ## Conditional rules -/

/-- What `validate_conditional_rule_data` asks of the data of a rule of a survey. -/
structure RuleAccepted (py : Interpreter) (data : ConditionalRuleData) (surveyPk : Nat) : Prop where
  someTarget : ¬ (data.targetSection.join = none ∧ data.targetField.join = none)
  oneTarget : ¬ (data.targetSection.join.isSome = true ∧ data.targetField.join.isSome = true)
  dependsOnSurvey : ∀ dependsOn, data.dependsOnField = some dependsOn → dependsOn.surveyId = surveyPk
  sectionSurvey : ∀ dependsOn, data.dependsOnField = some dependsOn → ∀ target,
    data.targetSection.join = some target → target.surveyId = surveyPk
  fieldSurvey : ∀ dependsOn, data.dependsOnField = some dependsOn → ∀ target,
    data.targetField.join = some target → target.surveyId = surveyPk
  notSelf : ∀ target, data.targetField.join = some target → ∀ dependsOn, data.dependsOnField = some dependsOn →
    target.id ≠ dependsOn.id
  afterSection : ∀ dependsOn, data.dependsOnField = some dependsOn → ∀ target,
    data.targetSection.join = some target → dependsOn.sectionRow.order < target.order
  afterField : ∀ dependsOn, data.dependsOnField = some dependsOn → ∀ target,
    data.targetField.join = some target → FieldBefore dependsOn target
  value : ∀ dependsOn, data.dependsOnField = some dependsOn → ∀ operator, data.operator = some operator →
    ∀ value, present data.value = some value →
      validateOperatorValue py dependsOn.toField operator value = .ok ()

theorem validateConditionalRuleData_eq_ok {py : Interpreter} {data : ConditionalRuleData} {surveyPk : Nat} :
    validateConditionalRuleData py data (some surveyPk) = .ok () ↔ RuleAccepted py data surveyPk := by
  simp only [validateConditionalRuleData, seq_eq_ok, whenSome_eq_ok, rejectIf_eq_ok, validateSurveyPkMatchCr,
    requireSurvey, validateSelfReferenceCr, validateSelfReference, validateOrderingConstraint_eq_ok,
    Bool.and_eq_true, Option.isNone_iff_eq_none, Option.map_eq_some_iff, Option.some.injEq, ne_eq, not_not]
  constructor
  · intro holds
    -- the third check is implied by the fourth: both compare surveys
    obtain ⟨someTarget, oneTarget, _, survey, notSelf, order, value⟩ := holds
    refine ⟨someTarget, oneTarget, ?_, ?_, ?_, notSelf, fun d given => (order d given).1,
      fun d given => (order d given).2, value⟩
    · intro dependsOn given
      exact (survey surveyPk rfl dependsOn given).1 _ ⟨dependsOn, given, rfl⟩
    · intro dependsOn given target isTarget
      exact (survey surveyPk rfl dependsOn given).2.1 _ ⟨target, isTarget, rfl⟩
    · intro dependsOn given target isTarget
      exact (survey surveyPk rfl dependsOn given).2.2 _ ⟨target, isTarget, rfl⟩
  · intro accepted
    refine ⟨accepted.someTarget, accepted.oneTarget, ?_, ?_, accepted.notSelf,
      fun d given => ⟨accepted.afterSection d given, accepted.afterField d given⟩, accepted.value⟩
    · intro dependsOn given
      -- the same survey as the URL, hence as each other
      have same := accepted.dependsOnSurvey dependsOn given
      exact ⟨fun target isTarget => (accepted.sectionSurvey dependsOn given target isTarget).trans same.symm,
        fun target isTarget => (accepted.fieldSurvey dependsOn given target isTarget).trans same.symm⟩
    · rintro _ rfl dependsOn given
      refine ⟨?_, ?_, ?_⟩
      · intro _ holds
        obtain ⟨field, isField, rfl⟩ := holds
        exact accepted.dependsOnSurvey field isField
      · intro _ holds
        obtain ⟨target, isTarget, rfl⟩ := holds
        exact accepted.sectionSurvey dependsOn given target isTarget
      · intro _ holds
        obtain ⟨target, isTarget, rfl⟩ := holds
        exact accepted.fieldSurvey dependsOn given target isTarget

/-! ## Field dependencies -/

/-- What `validate_field_dependency_data` asks of the data of a dependency of a survey. -/
structure DependencyAccepted (py : Interpreter) (conditionalRules : List ConditionalRule)
    (data : FieldDependencyData) (surveyPk : Nat) : Prop where
  dependsOnSurvey : ∀ dependsOn, data.dependsOnField = some dependsOn → dependsOn.surveyId = surveyPk
  dependentSurvey : ∀ dependent, data.dependentField = some dependent → dependent.surveyId = surveyPk
  notSelf : ∀ dependent, data.dependentField = some dependent → ∀ dependsOn,
    data.dependsOnField = some dependsOn → dependent.id ≠ dependsOn.id
  after : ∀ dependent, data.dependentField = some dependent → ∀ dependsOn,
    data.dependsOnField = some dependsOn → FieldBefore dependsOn dependent
  value : ∀ dependsOn, data.dependsOnField = some dependsOn → ∀ operator, data.operator = some operator →
    ∀ value, present data.value = some value →
      validateOperatorValue py dependsOn.toField operator value = .ok ()
  action : ∀ dependent, data.dependentField = some dependent → ∀ action, data.action = some action →
    ∀ actionValue, present data.actionValue = some actionValue →
      validateActionValue py action actionValue dependent.toField = .ok ()
  noConflict : ∀ dependent, data.dependentField = some dependent → ∀ action, data.action = some action →
    ∀ actionValue, present data.actionValue = some actionValue →
      validateCrFdConflict py conditionalRules action actionValue dependent.toField = .ok ()

theorem validateFieldDependencyData_eq_ok {py : Interpreter} {conditionalRules : List ConditionalRule}
    {data : FieldDependencyData} {surveyPk : Nat} :
    validateFieldDependencyData py conditionalRules data (some surveyPk) = .ok () ↔
      DependencyAccepted py conditionalRules data surveyPk := by
  simp only [validateFieldDependencyData, seq_eq_ok, whenSome_eq_ok, rejectIf_eq_ok, validateSurveyPkMatchFd,
    requireSurvey, validateSelfReferenceFd, validateSelfReference, validateFdOrderingConstraint,
    requireFieldBefore_eq_ok, Option.map_eq_some_iff, Option.some.injEq, ne_eq, not_not]
  constructor
  · intro holds
    obtain ⟨_, survey, notSelf, after, value, action, noConflict⟩ := holds
    obtain ⟨dependsOnSurvey, dependentSurvey⟩ := survey surveyPk rfl
    exact ⟨fun field given => dependsOnSurvey _ ⟨field, given, rfl⟩,
      fun field given => dependentSurvey _ ⟨field, given, rfl⟩, notSelf, after, value, action, noConflict⟩
  · intro accepted
    refine ⟨?_, ?_, accepted.notSelf, accepted.after, accepted.value, accepted.action, accepted.noConflict⟩
    · intro dependent given dependsOn given'
      exact (accepted.dependentSurvey dependent given).trans (accepted.dependsOnSurvey dependsOn given').symm
    · intro _ same
      subst same
      refine ⟨?_, ?_⟩
      · intro _ holds
        obtain ⟨field, isField, rfl⟩ := holds
        exact accepted.dependsOnSurvey field isField
      · intro _ holds
        obtain ⟨field, isField, rfl⟩ := holds
        exact accepted.dependentSurvey field isField

/-! ## Stored rows -/

/-- A nullable foreign key followed; `none` when it dangles. -/
def follow {α : Type} (find : Nat → Option α) : Option Nat → Option (Option α)
  | none => some none
  | some id => (find id).map some

/-- A stored rule as data for its validator: every key there, with the instance it refers to. -/
def fullRule (db : Database) (rule : ConditionalRule) : Option ConditionalRuleData := do
  let targetSection ← follow db.sections.get rule.targetSectionId
  let targetField ← follow db.placedField rule.targetFieldId
  let dependsOn ← db.placedField rule.dependsOnFieldId
  return ⟨some targetSection, some targetField, some dependsOn, some rule.operator, some rule.value⟩

/-- The full row passes `validate_conditional_rule_data` with its survey. -/
def RuleValid (py : Interpreter) (db : Database) (rule : ConditionalRule) : Prop :=
  ∃ full, fullRule db rule = some full ∧ validateConditionalRuleData py full (some rule.surveyId) = .ok ()

def fullDependency (db : Database) (dep : FieldDependency) : Option FieldDependencyData := do
  let dependent ← db.placedField dep.dependentFieldId
  let dependsOn ← db.placedField dep.dependsOnFieldId
  return ⟨some dependent, some dependsOn, some dep.operator, some dep.value, some dep.action, some dep.actionValue⟩

/-- The full row passes `validate_field_dependency_data` with its survey. -/
def DependencyValid (py : Interpreter) (db : Database) (dep : FieldDependency) : Prop :=
  ∃ full, fullDependency db dep = some full ∧
    validateFieldDependencyData py db.conditionalRules.rows full (some dep.surveyId) = .ok ()

/-! ## Submitted keys over stored ones -/

/-- The keys of the body, and the stored ones for the rest. -/
def overRule (data full : ConditionalRuleData) : ConditionalRuleData :=
  ⟨data.targetSection.or full.targetSection, data.targetField.or full.targetField,
    data.dependsOnField.or full.dependsOnField, data.operator.or full.operator, data.value.or full.value⟩

def overDependency (data full : FieldDependencyData) : FieldDependencyData :=
  ⟨data.dependentField.or full.dependentField, data.dependsOnField.or full.dependsOnField,
    data.operator.or full.operator, data.value.or full.value, data.action.or full.action,
    data.actionValue.or full.actionValue⟩

/-- Every instance in the data is the stored row of its id, and no JSON value is `null`. -/
structure RuleResolved (db : Database) (data : ConditionalRuleData) : Prop where
  targetSection : ∀ target, data.targetSection.join = some target → db.sections.get target.id = some target
  targetField : ∀ target, data.targetField.join = some target → db.placedField target.id = some target
  dependsOnField : ∀ field, data.dependsOnField = some field → db.placedField field.id = some field
  value : ∀ value, data.value = some value → value.isNone = false

structure DependencyResolved (db : Database) (data : FieldDependencyData) : Prop where
  dependentField : ∀ field, data.dependentField = some field → db.placedField field.id = some field
  dependsOnField : ∀ field, data.dependsOnField = some field → db.placedField field.id = some field
  value : ∀ value, data.value = some value → value.isNone = false
  actionValue : ∀ value, data.actionValue = some value → value.isNone = false

theorem placedField_id {db : Database} {id : Nat} {field : PlacedField} (found : db.placedField id = some field) :
    field.id = id :=
  db.fields.keyed id field.toField (Database.placedField_eq_some.mp found).1

theorem value?_related {α : Type} {find : Nat → Option α} {submitted : Submitted Nat} {row : α}
    (value : (submitted.convert (related find)).value? = some row) : ∃ pk, find pk = some row := by
  cases submitted with
  | given pk =>
    simp only [Submitted.convert, related] at value
    cases found : find pk with
    | none => simp [found, Submitted.value?] at value
    | some other =>
      simp only [found, Submitted.value?, Option.some.injEq] at value
      exact ⟨pk, value ▸ found⟩
  | missing => cases value
  | refused message => cases value

theorem value?_relatedOrNull {α : Type} {find : Nat → Option α} {submitted : Submitted (Option Nat)} {row : α}
    (value : (submitted.convert (relatedOrNull find)).value?.join = some row) : ∃ pk, find pk = some row := by
  cases submitted with
  | given pk? =>
    cases pk? with
    | none => simp [Submitted.convert, relatedOrNull, Submitted.value?] at value
    | some pk =>
      cases found : find pk with
      | none => simp [Submitted.convert, relatedOrNull, related, found, Submitted.value?, Functor.map,
          Except.map] at value
      | some other =>
        simp only [Submitted.convert, relatedOrNull, related, found, Submitted.value?, Functor.map, Except.map,
          Option.join_some, Option.some.injEq] at value
        exact ⟨pk, value ▸ found⟩
  | missing => simp [Submitted.convert, Submitted.value?] at value
  | refused message => simp [Submitted.convert, Submitted.value?] at value

theorem value?_notNull {submitted : Submitted Json} {value : Json}
    (given : (submitted.convert notNull).value? = some value) : value.isNone = false := by
  cases submitted with
  | given json =>
    simp only [Submitted.convert, notNull] at given
    by_cases null : json.isNone = true
    · simp [null, Submitted.value?] at given
    · simp only [null, Submitted.value?, Bool.false_eq_true, if_false, Option.some.injEq] at given
      rw [← given, Bool.eq_false_iff]
      exact null
  | missing => cases given
  | refused message => cases given

theorem conditionalRuleFields_resolved {db : Database} {isPartial : Bool} {body : ConditionalRuleBody}
    {data : ConditionalRuleData} (fields : conditionalRuleFields db isPartial body = .ok data) :
    RuleResolved db data := by
  simp only [conditionalRuleFields, bind_eq_ok, pure, Except.pure, Except.ok.injEq] at fields
  obtain ⟨_, _, rfl⟩ := fields
  refine ⟨fun target given => ?_, fun target given => ?_, fun field given => ?_, fun value given => ?_⟩
  · obtain ⟨pk, found⟩ := value?_relatedOrNull given
    rwa [← db.sections.keyed pk target found] at found
  · obtain ⟨pk, found⟩ := value?_relatedOrNull given
    rwa [placedField_id found]
  · obtain ⟨pk, found⟩ := value?_related given
    rwa [placedField_id found]
  · exact value?_notNull given

theorem fieldDependencyFields_resolved {db : Database} {isPartial : Bool} {body : FieldDependencyBody}
    {data : FieldDependencyData} (fields : fieldDependencyFields db isPartial body = .ok data) :
    DependencyResolved db data := by
  simp only [fieldDependencyFields, bind_eq_ok, pure, Except.pure, Except.ok.injEq] at fields
  obtain ⟨_, _, rfl⟩ := fields
  refine ⟨fun field given => ?_, fun field given => ?_, fun value given => ?_, fun value given => ?_⟩
  · obtain ⟨pk, found⟩ := value?_related given
    rwa [placedField_id found]
  · obtain ⟨pk, found⟩ := value?_related given
    rwa [placedField_id found]
  · exact value?_notNull given
  · exact value?_notNull given

theorem follow_assignKey {α : Type} [Keyed α] {find : Nat → Option α} {submitted : Option (Option α)}
    {stored : Option Nat} {target : Option α}
    (resolved : ∀ row, submitted.join = some row → find (key row) = some row)
    (followed : follow find stored = some target) :
    follow find (assignKey submitted stored) = some (submitted.getD target) := by
  cases submitted with
  | none => exact followed
  | some given =>
    cases given with
    -- `null` clears the column, and the row has no such target then
    | none => rfl
    | some row =>
      have found := resolved row rfl
      simp [assignKey, follow, found]

theorem find_assigned {find : Nat → Option PlacedField} {submitted : Option PlacedField} {stored : Nat}
    {field : PlacedField} (resolved : ∀ row, submitted = some row → find row.id = some row)
    (found : find stored = some field) :
    find ((submitted.map key).getD stored) = some (submitted.getD field) := by
  cases submitted with
  | none => exact found
  | some row => exact resolved row rfl

/-- The instances and values of a stored row. -/
theorem fullRule_eq_some {db : Database} {rule : ConditionalRule} {full : ConditionalRuleData} :
    fullRule db rule = some full ↔ ∃ targetSection targetField dependsOn,
      follow db.sections.get rule.targetSectionId = some targetSection ∧
        follow db.placedField rule.targetFieldId = some targetField ∧
        db.placedField rule.dependsOnFieldId = some dependsOn ∧
        full = ⟨some targetSection, some targetField, some dependsOn, some rule.operator, some rule.value⟩ := by
  simp only [fullRule, Option.bind_eq_bind, Option.bind_eq_some_iff, Option.pure_def, Option.some.injEq]
  constructor
  · intro holds
    obtain ⟨targetSection, followSection, targetField, followField, dependsOn, found, rfl⟩ := holds
    exact ⟨targetSection, targetField, dependsOn, followSection, followField, found, rfl⟩
  · intro holds
    obtain ⟨targetSection, targetField, dependsOn, followSection, followField, found, rfl⟩ := holds
    exact ⟨targetSection, followSection, targetField, followField, dependsOn, found, rfl⟩

theorem fullDependency_eq_some {db : Database} {dep : FieldDependency} {full : FieldDependencyData} :
    fullDependency db dep = some full ↔ ∃ dependent dependsOn,
      db.placedField dep.dependentFieldId = some dependent ∧ db.placedField dep.dependsOnFieldId = some dependsOn ∧
        full = ⟨some dependent, some dependsOn, some dep.operator, some dep.value, some dep.action,
          some dep.actionValue⟩ := by
  simp only [fullDependency, Option.bind_eq_bind, Option.bind_eq_some_iff, Option.pure_def, Option.some.injEq]
  constructor
  · intro holds
    obtain ⟨dependent, foundDependent, dependsOn, found, rfl⟩ := holds
    exact ⟨dependent, dependsOn, foundDependent, found, rfl⟩
  · intro holds
    obtain ⟨dependent, dependsOn, foundDependent, found, rfl⟩ := holds
    exact ⟨dependent, foundDependent, dependsOn, found, rfl⟩

theorem follow_eq_some_none {α : Type} {find : Nat → Option α} {id : Option Nat} {target : Option α}
    (followed : follow find id = some target) : id = none ↔ target = none := by
  cases id with
  | none => cases followed; simp
  | some id =>
    simp only [follow, Option.map_eq_some_iff] at followed
    obtain ⟨row, _, rfl⟩ := followed
    simp

/-! ## Constraints of a full row -/

section Constraints

variable {db : Database}

theorem requireRow_eq_ok {α : Type} [Keyed α] {table : Table α} {id : Nat} :
    Database.requireRow table id = .ok () ↔ (table.get id).isSome = true := by
  by_cases stored : (table.get id).isSome = true <;> simp [Database.requireRow, stored]

theorem isSome_of_follow {α : Type} {find : Nat → Option α} {id : Option Nat} {target : Option α}
    (followed : follow find id = some target) : ∀ pk, id = some pk → (find pk).isSome = true := by
  rintro pk rfl
  obtain ⟨row, found, _⟩ := Option.map_eq_some_iff.mp followed
  rw [found, Option.isSome_some]

theorem isSome_field {id : Nat} (found : (db.placedField id).isSome = true) : (db.fields.get id).isSome = true := by
  obtain ⟨field, found⟩ := Option.isSome_iff_exists.mp found
  rw [(Database.placedField_eq_some.mp found).1, Option.isSome_some]

/-- Of the rows a full rule refers to only its survey may be missing. -/
theorem ruleConstraints_iff {rule : ConditionalRule} {full : ConditionalRuleData} (isFull : fullRule db rule = some full)
    (id : Nat) : db.conditionalRuleConstraints (rule.withId id) = .ok () ↔ (db.surveys.get rule.surveyId).isSome = true := by
  obtain ⟨_, _, dependsOn, followSection, followField, found, _⟩ := fullRule_eq_some.mp isFull
  simp only [Database.conditionalRuleConstraints, seq_eq_ok, whenSome_eq_ok, requireRow_eq_ok]
  refine and_iff_left ⟨isSome_of_follow followSection, ?_, ?_⟩
  · intro pk isTarget
    exact isSome_field (isSome_of_follow followField pk isTarget)
  · exact isSome_field (by rw [show db.placedField (rule.withId id).dependsOnFieldId = _ from found, Option.isSome_some])

theorem dependencyConstraints_iff {dep : FieldDependency} {full : FieldDependencyData}
    (isFull : fullDependency db dep = some full) :
    db.fieldDependencyConstraints dep = .ok () ↔ (db.surveys.get dep.surveyId).isSome = true := by
  obtain ⟨dependent, dependsOn, foundDependent, found, _⟩ := fullDependency_eq_some.mp isFull
  simp only [Database.fieldDependencyConstraints, seq_eq_ok, requireRow_eq_ok]
  exact and_iff_left ⟨isSome_field (by rw [foundDependent, Option.isSome_some]),
    isSome_field (by rw [found, Option.isSome_some])⟩

end Constraints

/-- The data of an updated row: the submitted keys over the stored ones. -/
theorem fullRule_assign {db : Database} {data full : ConditionalRuleData} {rule : ConditionalRule}
    (resolved : RuleResolved db data) (stored : fullRule db rule = some full) :
    fullRule db (data.assign rule) = some (overRule data full) := by
  obtain ⟨targetSection, targetField, dependsOn, followSection, followField, found, rfl⟩ := fullRule_eq_some.mp stored
  refine fullRule_eq_some.mpr ⟨_, _, _, follow_assignKey resolved.targetSection followSection,
    follow_assignKey resolved.targetField followField, find_assigned resolved.dependsOnField found, ?_⟩
  simp [overRule, ConditionalRuleData.assign]

theorem fullDependency_assign {db : Database} {data full : FieldDependencyData} {dep : FieldDependency}
    (resolved : DependencyResolved db data) (stored : fullDependency db dep = some full) :
    fullDependency db (data.assign dep) = some (overDependency data full) := by
  obtain ⟨dependent, dependsOn, foundDependent, found, rfl⟩ := fullDependency_eq_some.mp stored
  refine fullDependency_eq_some.mpr ⟨_, _, find_assigned resolved.dependentField foundDependent,
    find_assigned resolved.dependsOnField found, ?_⟩
  simp [overDependency, FieldDependencyData.assign]

end SurveyPlatform.Verified

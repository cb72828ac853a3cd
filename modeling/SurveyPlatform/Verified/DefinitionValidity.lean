import SurveyPlatform.Verified.HiddenOptions
import SurveyPlatform.Verified.OptionEdits
import SurveyPlatform.Verified.Placement

/-! # Valid rules and dependencies

A rule or dependency is valid when its full row passes its validator.  That depends on
the survey of what it names, on the order of these, and on the types and options of its
fields; for a dependency also on the stored rules.  `ruleValid_iff` and
`dependencyValid_iff` take the validators apart, so that each edit is a question about
the part that it touches.
-/

namespace SurveyPlatform.Verified

open SurveyPlatform.Library SurveyPlatform.Library.Program SurveyPlatform.Library.Table SurveyPlatform.Python
open SurveyPlatform.Surveys

/-! ## The parts of a valid row -/

/-- One target, which is of the rule's survey as the field it reads is. -/
structure RulePlaced (db : Database) (rule : ConditionalRule) : Prop where
  oneTarget : rule.targetSectionId = none ↔ rule.targetFieldId ≠ none
  inPlace : RuleInPlace db rule
  targetSection : ∀ id, rule.targetSectionId = some id → SectionIn db rule.surveyId id

/-- The field takes the operator and the value. -/
def OperatorFits (py : Interpreter) (db : Database) (fieldId : Nat) (operator : ComparisonOperator) (value : Json) : Prop :=
  ∀ field, db.fields.get fieldId = some field → validateOperatorValue py field operator value = .ok ()

def ActionFits (py : Interpreter) (db : Database) (fieldId : Nat) (action : Action) (actionValue : Json) : Prop :=
  ∀ field, db.fields.get fieldId = some field → validateActionValue py action actionValue field = .ok ()

/-- A dependency apart from the rules it may contradict. -/
structure DependencyFits (py : Interpreter) (db : Database) (dep : FieldDependency) : Prop where
  inPlace : DependencyInPlace db dep
  ordered : checkDependencyOrdering db dep = .ok ()
  value : OperatorFits py db dep.dependsOnFieldId dep.operator dep.value
  action : ActionFits py db dep.dependentFieldId dep.action dep.actionValue

section Rows

variable {py : Interpreter} {db : Database}

theorem present_of_notNull {value : Json} (notNull : value.isNone = false) : present (some value) = some value := by
  simp [present, notNull]

theorem follow_names {α : Type} {find : Nat → Option α} {id : Option Nat} {target : Option α} {pk : Nat}
    (followed : follow find id = some target) (names : id = some pk) : ∃ row, find pk = some row ∧ target = some row := by
  subst names
  obtain ⟨row, found, rfl⟩ := Option.map_eq_some_iff.mp followed
  exact ⟨row, found, rfl⟩

theorem exists_follow {α : Type} {find : Nat → Option α} {id : Option Nat} {property : α → Prop}
    (each : ∀ pk, id = some pk → ∃ row, find pk = some row ∧ property row) : ∃ target, follow find id = some target ∧
      ∀ row, target = some row → property row := by
  cases id with
  | none => exact ⟨none, rfl, by simp⟩
  | some pk =>
    obtain ⟨row, found, holds⟩ := each pk rfl
    refine ⟨some row, by simp [follow, found], ?_⟩
    rintro _ ⟨⟩
    exact holds

/-- The validator of rules, part by part. -/
theorem ruleValid_iff {rule : ConditionalRule} (notNull : rule.value.isNone = false) :
    RuleValid py db rule ↔ RulePlaced db rule ∧ checkRuleOrdering db rule = .ok () ∧
      OperatorFits py db rule.dependsOnFieldId rule.operator rule.value := by
  constructor
  · rintro ⟨full, isFull, accepted⟩
    rw [validateConditionalRuleData_eq_ok] at accepted
    obtain ⟨targetSection, targetField, dependsOn, followSection, followField, found, rfl⟩ := fullRule_eq_some.mp isFull
    obtain ⟨storedField, _⟩ := Database.placedField_eq_some.mp found
    refine ⟨⟨?_, ⟨⟨dependsOn, found, accepted.dependsOnSurvey dependsOn rfl⟩, ?_⟩, ?_⟩, ?_, ?_⟩
    · have someTarget := accepted.someTarget
      have notBoth := accepted.oneTarget
      rw [follow_eq_some_none followSection, ne_eq, follow_eq_some_none followField]
      cases targetSection <;> cases targetField <;> simp_all
    · intro id names
      obtain ⟨target, placed, rfl⟩ := follow_names followField names
      exact ⟨target, placed, accepted.fieldSurvey dependsOn rfl target rfl⟩
    · intro id names
      obtain ⟨target, stored, rfl⟩ := follow_names followSection names
      exact ⟨target, stored, accepted.sectionSurvey dependsOn rfl target rfl⟩
    · refine checkRuleOrdering_iff.mpr ⟨dependsOn, found, fun id names => ?_, fun id names => ?_⟩
      · obtain ⟨target, stored, rfl⟩ := follow_names followSection names
        exact ⟨target, stored, accepted.afterSection dependsOn rfl target rfl⟩
      · obtain ⟨target, placed, rfl⟩ := follow_names followField names
        exact ⟨target, placed, accepted.afterField dependsOn rfl target rfl⟩
    · intro field isStored
      cases storedField.symm.trans isStored
      exact accepted.value dependsOn rfl rule.operator rfl rule.value (present_of_notNull notNull)
  · rintro ⟨placed, ordered, fits⟩
    obtain ⟨dependsOn, found, bySection, byField⟩ := checkRuleOrdering_iff.mp ordered
    obtain ⟨targetSection, followSection, afterSection⟩ := exists_follow bySection
    obtain ⟨targetField, followField, afterField⟩ := exists_follow byField
    obtain ⟨storedField, _⟩ := Database.placedField_eq_some.mp found
    have dependsOnSurvey : dependsOn.surveyId = rule.surveyId := by
      obtain ⟨other, found', inSurvey⟩ := placed.inPlace.dependsOnField
      cases found.symm.trans found'
      exact inSurvey
    have noSection := follow_eq_some_none followSection
    have noField := follow_eq_some_none followField
    have oneTarget := placed.oneTarget
    rw [noSection, ne_eq, noField] at oneTarget
    refine ⟨_, fullRule_eq_some.mpr ⟨targetSection, targetField, dependsOn, followSection, followField, found, rfl⟩, ?_⟩
    rw [validateConditionalRuleData_eq_ok]
    refine ⟨?_, ?_, ?_, ?_, ?_, ?_, ?_, ?_, ?_⟩
    · cases targetSection <;> cases targetField <;> simp_all
    · cases targetSection <;> cases targetField <;> simp_all
    · rintro _ ⟨⟩
      exact dependsOnSurvey
    · rintro _ _ target rfl
      cases names : rule.targetSectionId with
      | none =>
        cases noSection.mp names
      | some id =>
        obtain ⟨row, stored, same⟩ := follow_names followSection names
        obtain ⟨other, stored', inSurvey⟩ := placed.targetSection id names
        cases stored.symm.trans stored'
        cases same
        exact inSurvey
    · rintro _ _ target rfl
      cases names : rule.targetFieldId with
      | none =>
        cases noField.mp names
      | some id =>
        obtain ⟨row, stored, same⟩ := follow_names followField names
        obtain ⟨other, stored', inSurvey⟩ := placed.inPlace.targetField id names
        cases stored.symm.trans stored'
        cases same
        exact inSurvey
    · rintro target isTarget _ ⟨⟩ sameId
      -- a field is not before itself
      have before := afterField target isTarget
      cases names : rule.targetFieldId with
      | none =>
        rw [noField.mp names] at isTarget
        cases isTarget
      | some id =>
        obtain ⟨row, stored, same⟩ := follow_names followField names
        cases isTarget.symm.trans same
        rw [← placedField_id stored, sameId, placedField_id found, found, Option.some.injEq] at stored
        subst stored
        exact not_fieldBefore_self _ before
    · rintro _ ⟨⟩
      exact afterSection
    · rintro _ ⟨⟩
      exact afterField
    · rintro _ ⟨⟩ _ ⟨⟩ value isValue
      rw [present_of_notNull notNull, Option.some.injEq] at isValue
      exact isValue ▸ fits dependsOn.toField storedField

/-- Options that an accepted action hides are listed. -/
theorem hiddenOptions_listed {dep : FieldDependency} {dependent : Field} (hides : dep.action = .hideOptions)
    (fits : validateActionValue py dep.action dep.actionValue dependent = .ok ()) :
    ∃ hidden, py.strs (orEmpty dep.actionValue) = .ok hidden := by
  rw [hides] at fits
  simp only [validateActionValue, seq_eq_ok, rejectIf_eq_ok, requireItems_eq_ok] at fits
  obtain ⟨_, truthy, values, isList, _⟩ := fits
  rw [orEmpty_of_truthy (by simpa using truthy), isList]
  exact ⟨_, rfl⟩

/-- The search for conflicting rules, for an action that fits its field. -/
theorem validateCrFdConflict_eq_ok_iff {dep : FieldDependency} {dependent : Field}
    (isField : dependent.id = dep.dependentFieldId)
    (fits : validateActionValue py dep.action dep.actionValue dependent = .ok ()) :
    validateCrFdConflict py db.conditionalRules.rows dep.action dep.actionValue dependent = .ok () ↔
      ∀ rule ∈ db.conditionalRules.rows, ¬ Contradicts py dep rule := by
  by_cases hides : dep.action = .hideOptions
  · obtain ⟨hidden, listed⟩ := hiddenOptions_listed hides fits
    simp only [validateCrFdConflict, hides, ne_eq, not_true_eq_false, if_false, listed]
    refine checkEach_eq_ok.trans ⟨fun each rule stored contradicts => ?_, fun none rule member => ?_⟩
    · obtain ⟨_, sameField, hidden', isHidden, option, tested, inHidden⟩ := contradicts
      cases listed.symm.trans isHidden
      have tests : rule ∈ db.conditionalRules.rows.filter (·.dependsOnFieldId = dependent.id) :=
        List.mem_filter.mpr ⟨stored, by simp [sameField, isField]⟩
      exact conflictsWith_eq_ok.mp (each rule tests) option tested inHidden
    · obtain ⟨stored, sameField⟩ := List.mem_filter.mp member
      rw [decide_eq_true_eq, isField] at sameField
      exact conflictsWith_eq_ok.mpr fun option tested inHidden =>
        none rule stored ⟨hides, sameField, hidden, listed, option, tested, inHidden⟩
  · simp [validateCrFdConflict, hides, Contradicts]

/-- The validator of dependencies, part by part. -/
theorem dependencyValid_iff {dep : FieldDependency} (notNull : dep.value.isNone = false)
    (notNullAction : dep.actionValue.isNone = false) :
    DependencyValid py db dep ↔ DependencyFits py db dep ∧ ∀ rule ∈ db.conditionalRules.rows, ¬ Contradicts py dep rule := by
  constructor
  · rintro ⟨full, isFull, accepted⟩
    rw [validateFieldDependencyData_eq_ok] at accepted
    obtain ⟨dependent, dependsOn, foundDependent, found, rfl⟩ := fullDependency_eq_some.mp isFull
    obtain ⟨storedDependent, _⟩ := Database.placedField_eq_some.mp foundDependent
    obtain ⟨stored, _⟩ := Database.placedField_eq_some.mp found
    have actionFits := accepted.action dependent rfl dep.action rfl dep.actionValue (present_of_notNull notNullAction)
    have noConflict := accepted.noConflict dependent rfl dep.action rfl dep.actionValue (present_of_notNull notNullAction)
    rw [validateCrFdConflict_eq_ok_iff (placedField_id foundDependent) actionFits] at noConflict
    refine ⟨⟨⟨⟨dependent, foundDependent, accepted.dependentSurvey dependent rfl⟩,
      ⟨dependsOn, found, accepted.dependsOnSurvey dependsOn rfl⟩⟩, ?_, ?_, ?_⟩, noConflict⟩
    · exact checkDependencyOrdering_eq_ok.mpr ⟨dependsOn, dependent, found, foundDependent,
        accepted.after dependent rfl dependsOn rfl⟩
    · intro field isStored
      cases stored.symm.trans isStored
      exact accepted.value dependsOn rfl dep.operator rfl dep.value (present_of_notNull notNull)
    · intro field isStored
      cases storedDependent.symm.trans isStored
      exact actionFits
  · rintro ⟨fits, none⟩
    obtain ⟨dependsOn, dependent, found, foundDependent, before⟩ := checkDependencyOrdering_eq_ok.mp fits.ordered
    obtain ⟨storedDependent, _⟩ := Database.placedField_eq_some.mp foundDependent
    obtain ⟨stored, _⟩ := Database.placedField_eq_some.mp found
    obtain ⟨other, found', inSurvey⟩ := fits.inPlace.dependsOnField
    cases found.symm.trans found'
    obtain ⟨other, foundDependent', dependentSurvey⟩ := fits.inPlace.dependentField
    cases foundDependent.symm.trans foundDependent'
    have actionFits := fits.action dependent.toField storedDependent
    refine ⟨_, fullDependency_eq_some.mpr ⟨dependent, dependsOn, foundDependent, found, rfl⟩, ?_⟩
    rw [validateFieldDependencyData_eq_ok]
    refine ⟨?_, ?_, ?_, ?_, ?_, ?_, ?_⟩
    · rintro _ ⟨⟩
      exact inSurvey
    · rintro _ ⟨⟩
      exact dependentSurvey
    · rintro _ ⟨⟩ _ ⟨⟩ sameId
      rw [← placedField_id found, ← sameId, placedField_id foundDependent, foundDependent, Option.some.injEq] at found
      subst found
      exact not_fieldBefore_self _ before
    · rintro _ ⟨⟩ _ ⟨⟩
      exact before
    · rintro _ ⟨⟩ _ ⟨⟩ value isValue
      rw [present_of_notNull notNull, Option.some.injEq] at isValue
      exact isValue ▸ fits.value dependsOn.toField stored
    · rintro _ ⟨⟩ _ ⟨⟩ actionValue isValue
      rw [present_of_notNull notNullAction, Option.some.injEq] at isValue
      exact isValue ▸ actionFits
    · rintro _ ⟨⟩ _ ⟨⟩ actionValue isValue
      rw [present_of_notNull notNullAction, Option.some.injEq] at isValue
      exact isValue ▸ (validateCrFdConflict_eq_ok_iff (placedField_id foundDependent) actionFits).mpr none

end Rows

/-! ## The definition of a database -/

/-- Every rule and every dependency passes its validator. -/
structure DefinitionsValid (py : Interpreter) (db : Database) : Prop where
  rules : ∀ rule ∈ db.conditionalRules.rows, RuleValid py db rule
  dependencies : ∀ dep ∈ db.fieldDependencies.rows, DependencyValid py db dep

/-- No JSON column of a rule or a dependency holds `null`. -/
structure ValuesGiven (db : Database) : Prop where
  rules : ∀ rule ∈ db.conditionalRules.rows, rule.value.isNone = false
  dependencies : ∀ dep ∈ db.fieldDependencies.rows, dep.value.isNone = false ∧ dep.actionValue.isNone = false

/-- The same, by what an edit can break: places, orders, fields and options. -/
structure DefinitionsSound (py : Interpreter) (db : Database) : Prop where
  rulesPlaced : ∀ rule ∈ db.conditionalRules.rows, RulePlaced db rule
  dependenciesPlaced : ∀ dep ∈ db.fieldDependencies.rows, DependencyInPlace db dep
  ordered : ∀ surveyId, DefinitionOrdered db surveyId
  fits : ∀ field, db.fields.get field.id = some field → FitsRules py db field
  consistent : NoContradiction py db

section Definitions

variable {py : Interpreter} {db : Database}

theorem ValuesGiven.ruleValid_iff (given : ValuesGiven db) {rule : ConditionalRule} (member : rule ∈ db.conditionalRules.rows) :
    RuleValid py db rule ↔ RulePlaced db rule ∧ checkRuleOrdering db rule = .ok () ∧
      OperatorFits py db rule.dependsOnFieldId rule.operator rule.value :=
  Verified.ruleValid_iff (given.rules rule member)

theorem ValuesGiven.dependencyValid_iff (given : ValuesGiven db) {dep : FieldDependency}
    (member : dep ∈ db.fieldDependencies.rows) : DependencyValid py db dep ↔
      DependencyFits py db dep ∧ ∀ rule ∈ db.conditionalRules.rows, ¬ Contradicts py dep rule :=
  Verified.dependencyValid_iff (given.dependencies dep member).1 (given.dependencies dep member).2

theorem definitionsValid_iff (given : ValuesGiven db) : DefinitionsValid py db ↔ DefinitionsSound py db := by
  constructor
  · intro valid
    have rules := fun rule member => (given.ruleValid_iff member).mp (valid.rules rule member)
    have dependencies := fun dep member => (given.dependencyValid_iff member).mp (valid.dependencies dep member)
    refine ⟨fun rule member => (rules rule member).1, fun dep member => (dependencies dep member).1.inPlace, ?_, ?_, ?_⟩
    · exact fun _ => ⟨fun rule stored _ => (rules rule (mem_rows.mpr stored)).2.1,
        fun dep stored _ => (dependencies dep (mem_rows.mpr stored)).1.ordered⟩
    · intro field isStored
      refine ⟨fun rule stored named => ?_, fun dep stored named => ?_, fun dep stored named => ?_⟩
      · exact (rules rule (mem_rows.mpr stored)).2.2 field (named ▸ isStored)
      · exact (dependencies dep (mem_rows.mpr stored)).1.value field (named ▸ isStored)
      · exact (dependencies dep (mem_rows.mpr stored)).1.action field (named ▸ isStored)
    · exact fun dep member => (dependencies dep member).2
  · intro sound
    have named : ∀ {id : Nat} {field : Field}, db.fields.get id = some field → field.id = id :=
      fun found => db.fields.keyed _ _ found
    refine ⟨fun rule member => ?_, fun dep member => ?_⟩
    · refine (given.ruleValid_iff member).mpr ⟨sound.rulesPlaced rule member,
        (sound.ordered rule.surveyId).rules rule (mem_rows.mp member) rfl, fun field found => ?_⟩
      exact (sound.fits field (named found ▸ found)).rules rule (mem_rows.mp member) (named found).symm
    · refine (given.dependencyValid_iff member).mpr ⟨⟨sound.dependenciesPlaced dep member,
        (sound.ordered dep.surveyId).dependencies dep (mem_rows.mp member) rfl, fun field found => ?_,
        fun field found => ?_⟩, sound.consistent dep member⟩
      · exact (sound.fits field (named found ▸ found)).sources dep (mem_rows.mp member) (named found).symm
      · exact (sound.fits field (named found ▸ found)).targets dep (mem_rows.mp member) (named found).symm

end Definitions

end SurveyPlatform.Verified

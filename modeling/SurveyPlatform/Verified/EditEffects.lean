import SurveyPlatform.Verified.RequestChanges

/-! # What the update services leave

`update_section` and `update_field` save one row and check the rules in one
transaction.  Each has one equation here: when it returns, and what it leaves.
-/

namespace SurveyPlatform.Verified

open SurveyPlatform.Library SurveyPlatform.Library.Program SurveyPlatform.Python SurveyPlatform.Surveys

section Updates

variable {α : Type} [Keyed α] {model : Model α} {w w' : World} {row : α} {isEmpty : Bool} {assign : α → α}
  {keepsKey : ∀ row, key (assign row) = key row}

/-- Without submitted columns the statement is left out, and would change nothing. -/
theorem saveFields_eq_ok_iff (stored : (model.table w.db).get (key row) = some row)
    (same : isEmpty = true → assign row = row) (storesBack : model.store w.db (model.table w.db) = w.db) {u : Unit} :
    saveFields isEmpty (model.update (key row) assign keepsKey) w = .ok u w' ↔
      (isEmpty = false → model.constraints w.db (assign row) = .ok ()) ∧
        w' = withDb w (model.store w.db ((model.table w.db).save (assign row))) := by
  cases isEmpty with
  | true =>
    have unchanged : model.store w.db ((model.table w.db).save (assign row)) = w.db := by
      rw [same rfl, Table.save_eq_self stored, storesBack]
    rw [unchanged, saveFields, if_pos rfl, pure_eq_ok_iff]
    simp [withDb]
  | false =>
    rw [saveFields_false, Model.update_eq_ok_iff, stored]
    simp only [Option.some.injEq, exists_eq_left', Table.modify_eq_save stored, true_implies]
    rfl

/-- An update and a check in one transaction. -/
theorem checkedUpdate_eq_ok_iff {translate : PyExn → PyExn} {check : Database → Except PyExn Unit}
    (stored : (model.table w.db).get (key row) = some row) (same : isEmpty = true → assign row = row)
    (storesBack : model.store w.db (model.table w.db) = w.db) {u : Unit} :
    translating translate (atomicBlock do
      saveFields isEmpty (model.update (key row) assign keepsKey)
      query check) w = .ok u w' ↔
      (isEmpty = false → model.constraints w.db (assign row) = .ok ()) ∧
        check (model.store w.db ((model.table w.db).save (assign row))) = .ok () ∧
        w' = withDb w (model.store w.db ((model.table w.db).save (assign row))) := by
  simp only [atomicBlock, translating_eq_ok_iff, atomic_eq_ok_iff, bind_eq_ok_iff, query_eq_ok_iff,
    saveFields_eq_ok_iff stored same storesBack]
  constructor
  · intro holds
    obtain ⟨_, _, ⟨constraints, rfl⟩, checked, rfl⟩ := holds
    exact ⟨constraints, checked, rfl⟩
  · intro holds
    obtain ⟨constraints, checked, rfl⟩ := holds
    exact ⟨(), _, ⟨constraints, rfl⟩, checked, rfl⟩

/-- A check made only of a change. -/
theorem checkIf_eq_ok_iff {changed : Bool} {check : Except PyExn Unit} :
    (if changed = true then check else .ok ()) = .ok () ↔ (changed = true → check = .ok ()) := by
  cases changed <;> simp

/-- `SurveyCacheService.invalidate_structure(...)` and `return instance` at the end. -/
theorem then_invalidate_eq_ok_iff {β : Type} {program : Procedure Unit} {objectId : String} {a b : β} :
    (do program; invalidateStructure objectId; return a : Procedure β) w = .ok b w' ↔
      ∃ u t, program w = .ok u t ∧ b = a ∧ w' = invalidated objectId t := by
  rw [bind_eq_ok_iff]
  refine exists_congr fun u => exists_congr fun t => and_congr_right fun _ => ?_
  constructor
  · intro returned
    cases returned
    exact ⟨rfl, rfl⟩
  · intro holds
    obtain ⟨rfl, rfl⟩ := holds
    rfl

/-- A save whose survey's entry is cleared. -/
theorem saved_then_invalidate_eq_ok_iff {β : Type} {objectId : String} {a b : β}
    (stored : (model.table w.db).get (key row) = some row) (same : isEmpty = true → assign row = row)
    (storesBack : model.store w.db (model.table w.db) = w.db) :
    (do saveFields isEmpty (model.update (key row) assign keepsKey); invalidateStructure objectId; return a :
        Procedure β) w = .ok b w' ↔
      (isEmpty = false → model.constraints w.db (assign row) = .ok ()) ∧ b = a ∧
        w' = invalidated objectId (withDb w (model.store w.db ((model.table w.db).save (assign row)))) := by
  rw [then_invalidate_eq_ok_iff]
  simp only [saveFields_eq_ok_iff stored same storesBack]
  constructor
  · intro holds
    obtain ⟨_, _, ⟨constraints, rfl⟩, rfl, rfl⟩ := holds
    exact ⟨constraints, rfl, rfl⟩
  · intro holds
    obtain ⟨constraints, rfl, rfl⟩ := holds
    exact ⟨(), _, ⟨constraints, rfl⟩, rfl, rfl⟩

theorem then_invalidate_eq_error {β : Type} {program : Procedure Unit} {objectId : String} {a : β} {exn : PyExn}
    (raised : (do program; invalidateStructure objectId; return a : Procedure β) w = .error exn w') :
    program w = .error exn w' := by
  cases result : program w with
  | ok u t =>
    rw [bind_of_ok result] at raised
    cases raised
  | error exn t =>
    rw [bind_of_error result] at raised
    cases raised
    rfl

end Updates

/-! ## Sections -/

section Sections

variable {w w' : World} {current updated : Section} {data : SectionData}

theorem SectionData.assign_of_isEmpty (isEmpty : data.isEmpty = true) (row : Section) : data.assign row = row := by
  simp only [SectionData.isEmpty, Bool.and_eq_true, Option.isNone_iff_eq_none] at isEmpty
  obtain ⟨⟨noTitle, noDescription⟩, noOrder⟩ := isEmpty
  simp only [SectionData.assign, noTitle, noDescription, noOrder, Option.getD_none]

/-- The rows after the section is saved. -/
def sectionEdited (db : Database) (current : Section) (data : SectionData) : Database :=
  { db with sections := db.sections.save (data.assign current) }

theorem updateSection_eq_ok_iff (stored : w.db.sections.get current.id = some current) :
    updateSection current data w = .ok updated w' ↔
      (data.isEmpty = false → w.db.sectionConstraints (data.assign current) = .ok ()) ∧
        (data.order.any (· != current.order) = true →
          revalidateOrderingForSurvey (sectionEdited w.db current data) current.surveyId = .ok ()) ∧
        updated = data.assign current ∧ w' = refreshed current.surveyId w (sectionEdited w.db current data) := by
  have ends_iff := fun u t => @checkedUpdate_eq_ok_iff _ _ sectionModel w t current _ _ data.key_assign
    (onIntegrityError (.validationError "A section with this order already exists in this survey."))
    (fun db => if data.order.any (· != current.order) then revalidateOrderingForSurvey db current.surveyId else .ok ())
    stored (fun isEmpty => SectionData.assign_of_isEmpty isEmpty current) rfl u
  rw [updateSection, then_invalidate_eq_ok_iff]
  constructor
  · intro holds
    obtain ⟨u, t, saved, rfl, rfl⟩ := holds
    obtain ⟨constraints, checked, rfl⟩ := (ends_iff u t).mp saved
    exact ⟨constraints, checkIf_eq_ok_iff.mp checked, rfl, rfl⟩
  · intro holds
    obtain ⟨constraints, checked, rfl, rfl⟩ := holds
    exact ⟨(), _, (ends_iff () _).mpr ⟨constraints, checkIf_eq_ok_iff.mpr checked, rfl⟩, rfl, rfl⟩

theorem updateSection_eq_error {exn : PyExn} (raised : updateSection current data w = .error exn w') : w' = w :=
  atomic_update_eq_error (then_invalidate_eq_error raised)

end Sections

/-! ## Fields -/

section Fields

variable {py : Interpreter} {w w' : World} {current : PlacedField} {updated : Field} {data : FieldData}

theorem FieldData.assign_of_isEmpty (isEmpty : data.isEmpty = true) (row : Field) : data.assign row = row := by
  simp only [FieldData.isEmpty, Bool.and_eq_true, Option.isNone_iff_eq_none] at isEmpty
  obtain ⟨⟨⟨⟨⟨⟨noLabel, noType⟩, noRequired⟩, noOrder⟩, noOptions⟩, noEncrypted⟩, noRules⟩ := isEmpty
  simp only [FieldData.assign, noLabel, noType, noRequired, noOrder, noOptions, noEncrypted, noRules, Option.getD_none]

/-- `list(instance.options) if instance.options else []` -/
def listedOptions (row : PlacedField) : Except PyExn (List Json) :=
  if row.options.truthy then row.options.iterate else .ok []

/-- `type_changed or options_changed` -/
def ChangesTypeOrOptions (current : PlacedField) (old : List Json) (data : FieldData) : Prop :=
  (∃ fieldType, data.fieldType = some fieldType ∧ fieldType ≠ current.fieldType) ∨
    ∃ options, data.options = some options ∧ options.pyEq (.list old) = false

theorem changesTypeOrOptions_iff {old : List Json} : (data.fieldType.any (· != current.fieldType) ||
    data.options.any fun options => !options.pyEq (.list old)) = true ↔ ChangesTypeOrOptions current old data := by
  simp [ChangesTypeOrOptions, Option.any_eq_true]

/-- The rows after the field is saved. -/
def fieldEdited (db : Database) (current : PlacedField) (data : FieldData) : Database :=
  { db with fields := db.fields.save (data.assign current.toField) }

/-- The stored row may be another than the instance that was read. -/
theorem updateField_over_eq_ok_iff {stored : Field} (isStored : w.db.fields.get current.id = some stored) :
    updateField py current data w = .ok updated w' ↔
      ∃ old, listedOptions current = .ok old ∧
        (data.isEmpty = false → w.db.fieldConstraints (data.assign stored) = .ok ()) ∧
        (ChangesTypeOrOptions current old data →
          revalidateRulesForField py { w.db with fields := w.db.fields.save (data.assign stored) }
            (data.assign current.toField) = .ok ()) ∧
        updated = data.assign current.toField ∧
        w' = refreshed current.surveyId w { w.db with fields := w.db.fields.save (data.assign stored) } := by
  have sameId : stored.id = current.id := w.db.fields.keyed current.id stored isStored
  have found : w.db.fields.get stored.id = some stored := by rw [sameId, isStored]
  have ends_iff := fun check u t => @checkedUpdate_eq_ok_iff _ _ fieldModel w t stored _ _ data.key_assign
    (onIntegrityError (.validationError "A field with this order already exists in this section.")) check
    found (fun isEmpty => FieldData.assign_of_isEmpty isEmpty stored) rfl u
  rw [key_field, sameId] at ends_iff
  rw [updateField, query_bind_eq_ok_iff]
  refine exists_congr fun old => and_congr_right fun _ => ?_
  rw [then_invalidate_eq_ok_iff]
  constructor
  · intro holds
    obtain ⟨u, t, saved, rfl, rfl⟩ := holds
    obtain ⟨constraints, checked, rfl⟩ := (ends_iff _ u t).mp saved
    exact ⟨constraints, fun changes => checkIf_eq_ok_iff.mp checked (changesTypeOrOptions_iff.mpr changes), rfl, rfl⟩
  · intro holds
    obtain ⟨constraints, checked, rfl, rfl⟩ := holds
    refine ⟨(), _, (ends_iff _ () _).mpr ⟨constraints, checkIf_eq_ok_iff.mpr fun changes => ?_, rfl⟩, rfl, rfl⟩
    exact checked (changesTypeOrOptions_iff.mp changes)

theorem updateField_eq_ok_iff (stored : w.db.fields.get current.id = some current.toField) :
    updateField py current data w = .ok updated w' ↔
      ∃ old, listedOptions current = .ok old ∧
        (data.isEmpty = false → w.db.fieldConstraints (data.assign current.toField) = .ok ()) ∧
        (ChangesTypeOrOptions current old data →
          revalidateRulesForField py (fieldEdited w.db current data) (data.assign current.toField) = .ok ()) ∧
        updated = data.assign current.toField ∧ w' = refreshed current.surveyId w (fieldEdited w.db current data) :=
  updateField_over_eq_ok_iff stored

theorem updateField_eq_error {exn : PyExn} (raised : updateField py current data w = .error exn w') : w' = w := by
  rw [updateField] at raised
  cases listed : listedOptions current with
  | error other =>
    rw [query_bind_of_error (show _ = Except.error other from listed)] at raised
    cases raised
    rfl
  | ok old =>
    rw [query_bind_of_ok (show _ = Except.ok old from listed)] at raised
    exact atomic_update_eq_error (then_invalidate_eq_error raised)

end Fields

/-! ## Rules and dependencies -/

section Rules

variable {w w' : World} {surveyPk : Nat}

theorem ConditionalRuleData.assign_of_isEmpty {data : ConditionalRuleData} (isEmpty : data.isEmpty = true)
    (row : ConditionalRule) : data.assign row = row := by
  simp only [ConditionalRuleData.isEmpty, Bool.and_eq_true, Option.isNone_iff_eq_none] at isEmpty
  obtain ⟨⟨⟨⟨noSection, noField⟩, noDependsOn⟩, noOperator⟩, noValue⟩ := isEmpty
  simp only [ConditionalRuleData.assign, noSection, noField, noDependsOn, noOperator, noValue, assignKey,
    Option.map_none, Option.getD_none]

theorem FieldDependencyData.assign_of_isEmpty {data : FieldDependencyData} (isEmpty : data.isEmpty = true)
    (row : FieldDependency) : data.assign row = row := by
  simp only [FieldDependencyData.isEmpty, Bool.and_eq_true, Option.isNone_iff_eq_none] at isEmpty
  obtain ⟨⟨⟨⟨⟨noDependent, noDependsOn⟩, noOperator⟩, noValue⟩, noAction⟩, noActionValue⟩ := isEmpty
  simp only [FieldDependencyData.assign, noDependent, noDependsOn, noOperator, noValue, noAction, noActionValue,
    Option.map_none, Option.getD_none]

theorem updateConditionalRule_eq_ok_iff {current row : ConditionalRule} {data : ConditionalRuleData}
    (stored : w.db.conditionalRules.get current.id = some current) :
    updateConditionalRule current data surveyPk w = .ok row w' ↔
      (data.isEmpty = false → w.db.conditionalRuleConstraints (data.assign current) = .ok ()) ∧
        row = data.assign current ∧
        w' = refreshed surveyPk w { w.db with conditionalRules := w.db.conditionalRules.save (data.assign current) } :=
  @saved_then_invalidate_eq_ok_iff _ _ conditionalRuleModel w w' current _ _ data.key_assign _ _ _ _ stored
    (fun isEmpty => ConditionalRuleData.assign_of_isEmpty isEmpty current) rfl

theorem updateFieldDependency_eq_ok_iff {current row : FieldDependency} {data : FieldDependencyData}
    (stored : w.db.fieldDependencies.get current.id = some current) :
    updateFieldDependency current data surveyPk w = .ok row w' ↔
      (data.isEmpty = false → w.db.fieldDependencyConstraints (data.assign current) = .ok ()) ∧
        row = data.assign current ∧
        w' = refreshed surveyPk w { w.db with fieldDependencies := w.db.fieldDependencies.save (data.assign current) } :=
  @saved_then_invalidate_eq_ok_iff _ _ fieldDependencyModel w w' current _ _ data.key_assign _ _ _ _ stored
    (fun isEmpty => FieldDependencyData.assign_of_isEmpty isEmpty current) rfl

end Rules

/-! ## What the revalidation asks -/

section Revalidation

variable {py : Interpreter} {db : Database}

/-- No error is collected exactly when every check passes. -/
theorem collectErrors_eq_nil_iff {checks : List (String × Except PyExn Unit)} :
    collectErrors checks = .ok [] ↔ ∀ check ∈ checks, check.2 = .ok () := by
  induction checks with
  | nil => exact iff_of_true rfl nofun
  | cons head rest inductionHypothesis =>
    obtain ⟨name, check⟩ := head
    rw [List.forall_mem_cons, ← inductionHypothesis]
    cases check with
    | ok u => exact (and_iff_right rfl).symm
    | error exn =>
      refine iff_of_false (fun collected => ?_) (fun passed => nomatch passed.1)
      cases exn with
      | validationError message =>
        rw [collectErrors] at collected
        cases result : collectErrors rest with
        | ok errors =>
          rw [result] at collected
          cases collected
        | error exn =>
          rw [result] at collected
          cases collected
      | _ => cases collected

theorem collected_eq_ok_iff {checks : List (String × Except PyExn Unit)} {message : List String → String} :
    (do
      let errors ← collectErrors checks
      rejectIf (!errors.isEmpty) (message errors)) = .ok () ↔ ∀ check ∈ checks, check.2 = .ok () := by
  rw [← collectErrors_eq_nil_iff, bind_eq_ok]
  constructor
  · intro holds
    obtain ⟨errors, collected, passed⟩ := holds
    rw [rejectIf_eq_ok] at passed
    have isNil : errors = [] := by simpa using passed
    exact isNil ▸ collected
  · intro collected
    exact ⟨[], collected, rfl⟩

/-- The field passes the validators of every rule and dependency that names it. -/
structure FitsRules (py : Interpreter) (db : Database) (field : Field) : Prop where
  rules : ∀ rule, db.conditionalRules.get rule.id = some rule → rule.dependsOnFieldId = field.id →
    validateOperatorValue py field rule.operator rule.value = .ok ()
  sources : ∀ dep, db.fieldDependencies.get dep.id = some dep → dep.dependsOnFieldId = field.id →
    validateOperatorValue py field dep.operator dep.value = .ok ()
  targets : ∀ dep, db.fieldDependencies.get dep.id = some dep → dep.dependentFieldId = field.id →
    validateActionValue py dep.action dep.actionValue field = .ok ()

theorem mem_filter_rows {α : Type} [Keyed α] {table : Table α} {selected : α → Prop} [DecidablePred selected] {row : α} :
    row ∈ table.rows.filter (selected ·) ↔ table.get (key row) = some row ∧ selected row := by
  rw [List.mem_filter, Table.mem_rows, decide_eq_true_eq]

theorem revalidateRulesForField_eq_ok_iff {field : Field} :
    revalidateRulesForField py db field = .ok () ↔ FitsRules py db field := by
  refine collected_eq_ok_iff.trans ?_
  simp only [List.forall_mem_append, List.forall_mem_map, mem_filter_rows, key_conditionalRule, key_fieldDependency]
  constructor
  · intro holds
    obtain ⟨⟨rules, sources⟩, targets⟩ := holds
    exact ⟨fun rule stored named => rules rule ⟨stored, named⟩, fun dep stored named => sources dep ⟨stored, named⟩,
      fun dep stored named => targets dep ⟨stored, named⟩⟩
  · intro fits
    exact ⟨⟨fun rule holds => fits.rules rule holds.1 holds.2, fun dep holds => fits.sources dep holds.1 holds.2⟩,
      fun dep holds => fits.targets dep holds.1 holds.2⟩

/-- Rules and dependencies in the rows of a survey, where their fields are found. -/
theorem revalidateOrderingForSurvey_eq_ok_iff {surveyId : Nat} : revalidateOrderingForSurvey db surveyId = .ok () ↔
    (∀ rule, db.conditionalRules.get rule.id = some rule → rule.surveyId = surveyId → ∀ dependsOn,
      db.placedField rule.dependsOnFieldId = some dependsOn → validateOrderingConstraint dependsOn
        (rule.targetSectionId.bind db.sections.get) (rule.targetFieldId.bind db.placedField) = .ok ()) ∧
    ∀ dep, db.fieldDependencies.get dep.id = some dep → dep.surveyId = surveyId → ∀ dependsOn dependent,
      db.placedField dep.dependsOnFieldId = some dependsOn → db.placedField dep.dependentFieldId = some dependent →
        validateFdOrderingConstraint dependsOn dependent = .ok () := by
  refine collected_eq_ok_iff.trans ?_
  rw [List.forall_mem_append]
  simp only [List.mem_filterMap, mem_filter_rows, key_conditionalRule, key_fieldDependency]
  constructor
  · intro holds
    obtain ⟨rules, dependencies⟩ := holds
    refine ⟨fun rule stored inSurvey dependsOn found => ?_, fun dep stored inSurvey dependsOn dependent found found' => ?_⟩
    · exact rules (_, _) ⟨rule, ⟨stored, inSurvey⟩, by rw [found]; rfl⟩
    · exact dependencies (_, _) ⟨dep, ⟨stored, inSurvey⟩, by rw [found, found']; rfl⟩
  · intro holds
    obtain ⟨rules, dependencies⟩ := holds
    refine ⟨fun check isRule => ?_, fun check isDependency => ?_⟩
    · obtain ⟨rule, ⟨stored, inSurvey⟩, isCheck⟩ := isRule
      obtain ⟨dependsOn, found, rfl⟩ := Option.map_eq_some_iff.mp isCheck
      exact rules rule stored inSurvey dependsOn found
    · obtain ⟨dep, ⟨stored, inSurvey⟩, isCheck⟩ := isDependency
      simp only [bind, Option.bind_eq_some_iff, pure, Option.some.injEq] at isCheck
      obtain ⟨dependsOn, found, dependent, found', rfl⟩ := isCheck
      exact dependencies dep stored inSurvey dependsOn dependent found found'

end Revalidation

end SurveyPlatform.Verified

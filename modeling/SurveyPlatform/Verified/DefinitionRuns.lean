import SurveyPlatform.Library.Runs
import SurveyPlatform.Verified.DefinitionValidity
import SurveyPlatform.Verified.RuleCreation

/-! # Edits that keep a definition valid

Deletions, new rows and accepted edits of sections keep every rule and every
dependency valid.  An accepted edit of a field does so exactly when the field
keeps its side of the fields it is linked with and every option that is looked
up, and an accepted update of a rule or a dependency exactly when the columns it
leaves out fit the new ones.  `definitions_valid_iff` says so of whole runs.
-/

namespace SurveyPlatform.Verified

open SurveyPlatform.Library SurveyPlatform.Library.Program SurveyPlatform.Library.Table SurveyPlatform.Python
open SurveyPlatform.Surveys SurveyPlatform.Responses

/-! ## Rows that are found as before -/

section Kept

variable {py : Interpreter} {db db' : Database}

/-- The rows a rule names are found in the second database as in the first. -/
structure RuleSees (db db' : Database) (rule : ConditionalRule) : Prop where
  dependsOnField : ∀ field, db.placedField rule.dependsOnFieldId = some field →
    db'.placedField rule.dependsOnFieldId = some field
  targetField : ∀ id field, rule.targetFieldId = some id → db.placedField id = some field →
    db'.placedField id = some field
  targetSection : ∀ id row, rule.targetSectionId = some id → db.sections.get id = some row →
    db'.sections.get id = some row

structure DependencySees (db db' : Database) (dep : FieldDependency) : Prop where
  dependsOnField : ∀ field, db.placedField dep.dependsOnFieldId = some field →
    db'.placedField dep.dependsOnFieldId = some field
  dependentField : ∀ field, db.placedField dep.dependentFieldId = some field →
    db'.placedField dep.dependentFieldId = some field

theorem RuleSees.ordered {rule : ConditionalRule} (sees : RuleSees db db' rule)
    (passed : checkRuleOrdering db rule = .ok ()) : checkRuleOrdering db' rule = .ok () := by
  obtain ⟨dependsOn, found, bySection, byField⟩ := checkRuleOrdering_iff.mp passed
  refine checkRuleOrdering_iff.mpr ⟨dependsOn, sees.dependsOnField dependsOn found, ?_, ?_⟩ <;> intro id names
  · obtain ⟨target, stored, before⟩ := bySection id names
    exact ⟨target, sees.targetSection id target names stored, before⟩
  · obtain ⟨target, placed, before⟩ := byField id names
    exact ⟨target, sees.targetField id target names placed, before⟩

theorem DependencySees.ordered {dep : FieldDependency} (sees : DependencySees db db' dep)
    (passed : checkDependencyOrdering db dep = .ok ()) : checkDependencyOrdering db' dep = .ok () := by
  obtain ⟨dependsOn, dependent, found, foundDependent, before⟩ := checkDependencyOrdering_eq_ok.mp passed
  exact checkDependencyOrdering_eq_ok.mpr
    ⟨dependsOn, dependent, sees.dependsOnField dependsOn found, sees.dependentField dependent foundDependent, before⟩

theorem RulePlaced.keep (intact' : Intact db') (same : SameParents db db') {rule : ConditionalRule}
    (placed : RulePlaced db rule) (member : rule ∈ db'.conditionalRules.rows) : RulePlaced db' rule :=
  ⟨placed.oneTarget, placed.inPlace.keep intact' same member,
    fun id names => (placed.targetSection id names).keep same (intact'.ruleTargetSection rule member id names)⟩

/-! ## Rows that go, and rows that come -/

/-- No rule and no dependency is new, and sections and fields in both databases are the same there. -/
structure KeepsRows (db db' : Database) : Prop where
  sections : ∀ id row row', db.sections.get id = some row → db'.sections.get id = some row' → row' = row
  fields : ∀ id row row', db.fields.get id = some row → db'.fields.get id = some row' → row' = row
  rules : ∀ rule ∈ db'.conditionalRules.rows, rule ∈ db.conditionalRules.rows
  dependencies : ∀ dep ∈ db'.fieldDependencies.rows, dep ∈ db.fieldDependencies.rows

theorem KeepsRows.of_tables (sections : db'.sections = db.sections) (fields : db'.fields = db.fields)
    (rules : db'.conditionalRules = db.conditionalRules) (dependencies : db'.fieldDependencies = db.fieldDependencies) :
    KeepsRows db db' :=
  ⟨fun _ _ _ found found' => eq_of_get found (sections ▸ found'),
    fun _ _ _ found found' => eq_of_get found (fields ▸ found'), fun _ member => rules ▸ member, fun _ member => dependencies ▸ member⟩

theorem KeepsRows.sectionFound (kept : KeepsRows db db') {id : Nat} {row : Section} (found : db.sections.get id = some row)
    (there : (db'.sections.get id).isSome = true) : db'.sections.get id = some row := by
  obtain ⟨row', found'⟩ := Option.isSome_iff_exists.mp there
  rw [found', kept.sections id row row' found found']

/-- A field that is still there is in the same row of the same section. -/
theorem KeepsRows.fieldFound (kept : KeepsRows db db') (intact' : Intact db') {id : Nat} {field : PlacedField}
    (placed : db.placedField id = some field) (there : (db'.fields.get id).isSome = true) :
    db'.placedField id = some field := by
  obtain ⟨found, parent⟩ := Database.placedField_eq_some.mp placed
  obtain ⟨row', found'⟩ := Option.isSome_iff_exists.mp there
  obtain rfl := kept.fields id field.toField row' found found'
  have member : field.toField ∈ db'.fields.rows := by
    rw [mem_rows, db'.fields.keyed id _ found']
    exact found'
  have parentThere := intact'.fieldSection field.toField member field.sectionId rfl
  exact Database.placedField_eq_some.mpr ⟨found', kept.sectionFound parent parentThere⟩

theorem KeepsRows.ruleSees (kept : KeepsRows db db') (intact' : Intact db') {rule : ConditionalRule}
    (member : rule ∈ db'.conditionalRules.rows) : RuleSees db db' rule :=
  ⟨fun _ placed => kept.fieldFound intact' placed (intact'.ruleDependsOnField rule member _ rfl),
    fun id _ names placed => kept.fieldFound intact' placed (intact'.ruleTargetField rule member id names),
    fun id _ names stored => kept.sectionFound stored (intact'.ruleTargetSection rule member id names)⟩

theorem KeepsRows.dependencySees (kept : KeepsRows db db') (intact' : Intact db') {dep : FieldDependency}
    (member : dep ∈ db'.fieldDependencies.rows) : DependencySees db db' dep :=
  ⟨fun _ placed => kept.fieldFound intact' placed (intact'.dependencyDependsOnField dep member _ rfl),
    fun _ placed => kept.fieldFound intact' placed (intact'.dependencyDependentField dep member _ rfl)⟩

theorem DefinitionsSound.keep (intact : Intact db) (intact' : Intact db') (same : SameParents db db')
    (kept : KeepsRows db db') (sound : DefinitionsSound py db) : DefinitionsSound py db' where
  rulesPlaced rule member := (sound.rulesPlaced rule (kept.rules rule member)).keep intact' same member
  dependenciesPlaced dep member := (sound.dependenciesPlaced dep (kept.dependencies dep member)).keep intact' same member
  ordered surveyId := by
    refine ⟨fun rule stored inSurvey => ?_, fun dep stored inSurvey => ?_⟩
    · have member := mem_rows.mpr stored
      exact (kept.ruleSees intact' member).ordered
        ((sound.ordered surveyId).rules rule (mem_rows.mp (kept.rules rule member)) inSurvey)
    · have member := mem_rows.mpr stored
      exact (kept.dependencySees intact' member).ordered
        ((sound.ordered surveyId).dependencies dep (mem_rows.mp (kept.dependencies dep member)) inSurvey)
  fits field isStored := by
    -- a field that is named was there before, as it is
    have before : (db.fields.get field.id).isSome = true → FitsRules py db field := by
      intro there
      obtain ⟨row, found⟩ := Option.isSome_iff_exists.mp there
      obtain rfl := kept.fields field.id row field found isStored
      exact sound.fits field found
    refine ⟨fun rule stored named => ?_, fun dep stored named => ?_, fun dep stored named => ?_⟩
    · have member := kept.rules rule (mem_rows.mpr stored)
      exact (before (named ▸ intact.ruleDependsOnField rule member _ rfl)).rules rule (mem_rows.mp member) named
    · have member := kept.dependencies dep (mem_rows.mpr stored)
      exact (before (named ▸ intact.dependencyDependsOnField dep member _ rfl)).sources dep (mem_rows.mp member) named
    · have member := kept.dependencies dep (mem_rows.mpr stored)
      exact (before (named ▸ intact.dependencyDependentField dep member _ rfl)).targets dep (mem_rows.mp member) named
  consistent dep member rule ruleMember :=
    sound.consistent dep (kept.dependencies dep member) rule (kept.rules rule ruleMember)

/-! ### Which requests keep the rows -/

theorem keepsRows_deleteFields (gone : Nat → Bool) : KeepsRows db (db.deleteFields gone) :=
  ⟨fun _ _ _ => eq_of_get, column_deleteWhere id, fewer_rows, fewer_rows⟩

theorem keepsRows_deleteSections (gone : Nat → Bool) : KeepsRows db (db.deleteSections gone) :=
  ⟨column_deleteWhere id, column_deleteWhere id, fun rule member => fewer_rows rule (fewer_rows rule member),
    fun dep member => fewer_rows dep member⟩

theorem keepsRows_deleteSurvey (surveyId : Nat) : KeepsRows db (db.deleteSurvey surveyId) :=
  ⟨column_deleteWhere id, column_deleteWhere id,
    fun rule member => fewer_rows rule (fewer_rows rule (fewer_rows rule member)),
    fun dep member => fewer_rows dep (fewer_rows dep member)⟩

/-- A row that comes in under the next key changes none that is there. -/
theorem get_insert_kept {α : Type} [Keyed α] {t : Table α} (make : Nat → α) (keyedMake : ∀ i, key (make i) = i) (i : Nat)
    (row row' : α) (found : t.get i = some row) (found' : (t.insert make keyedMake).get i = some row') :
    row' = row := by
  rw [insert_eq_save] at found'
  refine column_save id (fun old stored => ?_) i row row' found found'
  rw [keyedMake, get_next] at stored
  cases stored

theorem keepsRows_insertSection (new : Section) :
    KeepsRows db { db with sections := db.sections.insert new.withId new.key_withId } :=
  ⟨get_insert_kept new.withId new.key_withId, fun _ _ _ => eq_of_get, fun _ member => member, fun _ member => member⟩

theorem keepsRows_insertField (new : Field) :
    KeepsRows db { db with fields := db.fields.insert new.withId new.key_withId } :=
  ⟨fun _ _ _ => eq_of_get, get_insert_kept new.withId new.key_withId, fun _ member => member, fun _ member => member⟩

end Kept

/-! ## Edits of sections -/

section SectionEdits

variable {py : Interpreter} {db : Database} {current : Section} {data : SectionData}

/-- The fields of another survey are in sections of that survey. -/
theorem resectioned_other {i : Nat} {field : PlacedField} (stored : db.sections.get current.id = some current)
    (placed : db.placedField i = some field) (other : field.surveyId ≠ current.surveyId) :
    resectioned (data.assign current) field = field := by
  refine dif_neg fun same => other ?_
  have parent := (Database.placedField_eq_some.mp placed).2
  rw [← same, show (data.assign current).id = current.id from rfl, stored, Option.some.injEq] at parent
  rw [PlacedField.surveyId, parent]

theorem ruleSees_sectionEdited {rule : ConditionalRule} (stored : db.sections.get current.id = some current)
    (placed : RulePlaced db rule) (other : rule.surveyId ≠ current.surveyId) :
    RuleSees db (sectionEdited db current data) rule := by
  have sameField : ∀ i field, FieldIn db rule.surveyId i → db.placedField i = some field →
      (sectionEdited db current data).placedField i = some field := by
    intro i field isIn found
    obtain ⟨field', found', inSurvey⟩ := isIn
    cases found.symm.trans found'
    rw [placedField_sectionEdited found, resectioned_other stored found (inSurvey ▸ other)]
  refine ⟨fun field => sameField _ field placed.inPlace.dependsOnField,
    fun i field names => sameField i field (placed.inPlace.targetField i names), fun i row names found => ?_⟩
  obtain ⟨row', found', inSurvey⟩ := placed.targetSection i names
  cases found.symm.trans found'
  rw [sections_sectionEdited, if_neg, found]
  rintro rfl
  cases found.symm.trans stored
  exact other inSurvey.symm

theorem dependencySees_sectionEdited {dep : FieldDependency} (stored : db.sections.get current.id = some current)
    (placed : DependencyInPlace db dep) (other : dep.surveyId ≠ current.surveyId) :
    DependencySees db (sectionEdited db current data) dep := by
  have sameField : ∀ i field, FieldIn db dep.surveyId i → db.placedField i = some field →
      (sectionEdited db current data).placedField i = some field := by
    intro i field isIn found
    obtain ⟨field', found', inSurvey⟩ := isIn
    cases found.symm.trans found'
    rw [placedField_sectionEdited found, resectioned_other stored found (inSurvey ▸ other)]
  exact ⟨fun field => sameField _ field placed.dependsOnField, fun field => sameField _ field placed.dependentField⟩

theorem definitionsSound_sectionEdited (stored : db.sections.get current.id = some current)
    (intact' : Intact (sectionEdited db current data)) (same : SameParents db (sectionEdited db current data))
    (revalidated : data.order.any (· != current.order) = true →
      revalidateOrderingForSurvey (sectionEdited db current data) current.surveyId = .ok ())
    (sound : DefinitionsSound py db) : DefinitionsSound py (sectionEdited db current data) where
  rulesPlaced rule member := (sound.rulesPlaced rule member).keep intact' same member
  dependenciesPlaced dep member := (sound.dependenciesPlaced dep member).keep intact' same member
  ordered surveyId := by
    have checked : (data.assign current).order ≠ current.order →
        revalidateOrderingForSurvey (sectionEdited db current data) current.surveyId = .ok () := by
      intro newOrder
      apply revalidated
      cases submitted : data.order with
      | none => exact absurd (by rw [SectionData.assign, submitted, Option.getD_none]) newOrder
      | some order =>
        rw [SectionData.assign, submitted, Option.getD_some] at newOrder
        exact bne_iff_ne.mpr newOrder
    refine ⟨fun rule isStored inSurvey => ?_, fun dep isStored inSurvey => ?_⟩
    · have passed := (sound.ordered surveyId).rules rule isStored inSurvey
      by_cases isOwn : rule.surveyId = current.surveyId
      · by_cases sameOrder : (data.assign current).order = current.order
        · exact checkRuleOrdering_sectionEdited stored sameOrder passed
        · exact checkRuleOrdering_of_revalidated (checked sameOrder) isStored isOwn passed
      · exact (ruleSees_sectionEdited stored (sound.rulesPlaced rule (mem_rows.mpr isStored)) isOwn).ordered passed
    · have passed := (sound.ordered surveyId).dependencies dep isStored inSurvey
      by_cases isOwn : dep.surveyId = current.surveyId
      · by_cases sameOrder : (data.assign current).order = current.order
        · exact checkDependencyOrdering_sectionEdited stored sameOrder passed
        · exact checkDependencyOrdering_of_revalidated (checked sameOrder) isStored isOwn passed
      · have inPlace := sound.dependenciesPlaced dep (mem_rows.mpr isStored)
        exact (dependencySees_sectionEdited stored inPlace isOwn).ordered passed
  fits field isStored := ⟨(sound.fits field isStored).rules, (sound.fits field isStored).sources,
    (sound.fits field isStored).targets⟩
  consistent := sound.consistent

end SectionEdits

/-! ## Edits of fields -/

section FieldEdits

variable {py : Interpreter} {db : Database} {current : PlacedField} {data : FieldData}

/-- Rows of another survey do not name the edited field. -/
theorem placedField_fieldEdited_other {surveyId i : Nat} {field : PlacedField}
    (placed : db.placedField current.id = some current) (other : surveyId ≠ current.surveyId)
    (isIn : FieldIn db surveyId i) (found : db.placedField i = some field) :
    (fieldEdited db current data).placedField i = some field := by
  obtain ⟨field', found', inSurvey⟩ := isIn
  cases found.symm.trans found'
  rw [placedField_fieldEdited placed, if_neg, found]
  rintro rfl
  cases found.symm.trans placed
  exact other inSurvey.symm

theorem fieldEdited_allOrdered_iff (placed : db.placedField current.id = some current) (sound : DefinitionsSound py db) :
    (∀ surveyId, DefinitionOrdered (fieldEdited db current data) surveyId) ↔
      KeepsSides db current (data.order.getD current.order) := by
  rw [← fieldEdited_ordered_iff placed (sound.ordered current.surveyId)]
  refine ⟨fun ordered => ordered current.surveyId, fun ordered surveyId => ?_⟩
  by_cases isOwn : surveyId = current.surveyId
  · exact isOwn ▸ ordered
  · refine ⟨fun rule stored inSurvey => ?_, fun dep stored inSurvey => ?_⟩
    · have inPlace := (sound.rulesPlaced rule (mem_rows.mpr stored)).inPlace
      have sees : RuleSees db (fieldEdited db current data) rule :=
        ⟨fun _ => placedField_fieldEdited_other placed isOwn (inSurvey ▸ inPlace.dependsOnField),
          fun i _ names => placedField_fieldEdited_other placed isOwn (inSurvey ▸ inPlace.targetField i names),
          fun _ _ _ found => found⟩
      exact sees.ordered ((sound.ordered surveyId).rules rule stored inSurvey)
    · have inPlace := sound.dependenciesPlaced dep (mem_rows.mpr stored)
      have sees : DependencySees db (fieldEdited db current data) dep :=
        ⟨fun _ => placedField_fieldEdited_other placed isOwn (inSurvey ▸ inPlace.dependsOnField),
          fun _ => placedField_fieldEdited_other placed isOwn (inSurvey ▸ inPlace.dependentField)⟩
      exact sees.ordered ((sound.ordered surveyId).dependencies dep stored inSurvey)

/-- A change of the type or the options was looked at; the rest keeps the fields that fit. -/
theorem fieldEdited_allFit_iff {old : List Json} (placed : db.placedField current.id = some current)
    (listed : listedOptions current = .ok old) (revalidated : ChangesTypeOrOptions current old data →
      revalidateRulesForField py (fieldEdited db current data) (data.assign current.toField) = .ok ())
    (sound : DefinitionsSound py db) :
    (∀ field, (fieldEdited db current data).fields.get field.id = some field →
      FitsRules py (fieldEdited db current data) field) ↔ KeepsLookups py db current data := by
  have saved : ∀ i, (fieldEdited db current data).fields.get i =
      if i = current.id then some (data.assign current.toField) else db.fields.get i := Table.get_save _ _
  have stored := (Database.placedField_eq_some.mp placed).1
  have edited_iff : FitsRules py (fieldEdited db current data) (data.assign current.toField) ↔
      KeepsLookups py db current data := by
    by_cases changed : ChangesTypeOrOptions current old data
    · refine iff_of_true (revalidateRulesForField_eq_ok_iff.mp (revalidated changed)) fun other listed' unchanged => ?_
      cases listed.symm.trans listed'
      exact absurd changed unchanged
    · rw [fitsRules_fieldEdited, fitsRules_assign_iff (type_of_unchanged changed) (sound.fits _ stored)]
      constructor
      · intro offered _ _ _ options submitted
        rwa [submitted, Option.getD_some] at offered
      · intro keeps
        cases submitted : data.options with
        | none => exact (fitsRules_iff.mp (sound.fits _ stored)).2
        | some options => exact keeps old listed changed options submitted
  rw [← edited_iff]
  constructor
  · intro fits
    apply fits
    rw [saved]
    exact if_pos rfl
  · intro edited field isStored
    rw [saved] at isStored
    split at isStored
    · cases isStored
      exact edited
    · exact fitsRules_fieldEdited.mpr (sound.fits field isStored)

theorem definitionsSound_fieldEdited_iff {old : List Json} (placed : db.placedField current.id = some current)
    (intact' : Intact (fieldEdited db current data)) (same : SameParents db (fieldEdited db current data))
    (listed : listedOptions current = .ok old) (revalidated : ChangesTypeOrOptions current old data →
      revalidateRulesForField py (fieldEdited db current data) (data.assign current.toField) = .ok ())
    (sound : DefinitionsSound py db) : DefinitionsSound py (fieldEdited db current data) ↔
      KeepsSides db current (data.order.getD current.order) ∧ KeepsLookups py db current data := by
  rw [← fieldEdited_allOrdered_iff placed sound, ← fieldEdited_allFit_iff placed listed revalidated sound]
  refine ⟨fun sound' => ⟨sound'.ordered, sound'.fits⟩, fun parts => ?_⟩
  exact ⟨fun rule member => (sound.rulesPlaced rule member).keep intact' same member,
    fun dep member => (sound.dependenciesPlaced dep member).keep intact' same member, parts.1, parts.2, sound.consistent⟩

end FieldEdits

/-! ## Writes of rules and dependencies -/

section Writes

variable {py : Interpreter} {w : World}

theorem DependencyFits.withRules {db : Database} {dep : FieldDependency} (fits : DependencyFits py db dep)
    (conditionalRules : Table ConditionalRule) : DependencyFits py { db with conditionalRules } dep :=
  ⟨⟨fits.inPlace.dependentField, fits.inPlace.dependsOnField⟩, fits.ordered, fits.value, fits.action⟩

/-- An accepted update of a rule; the other rules and the dependencies look at the same rows. -/
theorem definitionsValid_ruleUpdated_iff {current : ConditionalRule} {isPartial : Bool} {body : ConditionalRuleBody}
    {data : ConditionalRuleData} (fields : conditionalRuleFields w.db isPartial body = .ok data)
    (accepted : RuleAccepted py data current.surveyId)
    (checkable : data.targetField.join ≠ none → data.dependsOnField ≠ none)
    (stored : w.db.conditionalRules.get current.id = some current) (given : ValuesGiven w.db)
    (valid : DefinitionsValid py w.db) :
    DefinitionsValid py { w.db with conditionalRules := w.db.conditionalRules.save (data.assign current) } ↔
      RuleUpdateSound py w.db current data ∧
        ∀ dep ∈ w.db.fieldDependencies.rows, ¬ Contradicts py dep (data.assign current) := by
  have resolved := conditionalRuleFields_resolved fields
  obtain ⟨full, isFull, acceptedFull⟩ := valid.rules current (mem_rows.mpr stored)
  rw [validateConditionalRuleData_eq_ok] at acceptedFull
  rw [← overRule_accepted_iff resolved isFull rfl acceptedFull accepted checkable, ← validateConditionalRuleData_eq_ok]
  have newFull : fullRule w.db (data.assign current) = some (overRule data full) := fullRule_assign resolved isFull
  have dependencies := fun dep member => (given.dependencyValid_iff member).mp (valid.dependencies dep member)
  constructor
  · intro valid'
    have isNew : data.assign current ∈ (w.db.conditionalRules.save (data.assign current)).rows :=
      mem_rows_save.mpr (Or.inl rfl)
    refine ⟨?_, fun dep member => ?_⟩
    · obtain ⟨full', isFull', accepted'⟩ := valid'.rules _ isNew
      cases newFull.symm.trans isFull'
      exact accepted'
    · have values := given.dependencies dep member
      exact ((dependencyValid_iff values.1 values.2).mp (valid'.dependencies dep member)).2 _ isNew
  · rintro ⟨sound, none⟩
    refine ⟨fun rule member => ?_, fun dep member => ?_⟩
    · obtain rfl | old := mem_rows_save.mp member
      · exact ⟨_, newFull, sound⟩
      · exact valid.rules rule old.2
    · have values := given.dependencies dep member
      refine (dependencyValid_iff values.1 values.2).mpr
        ⟨(dependencies dep member).1.withRules _, fun rule ruleMember => ?_⟩
      obtain rfl | old := mem_rows_save.mp ruleMember
      · exact none dep member
      · exact (dependencies dep member).2 rule old.2

theorem definitionsValid_dependencyUpdated_iff {current : FieldDependency} {isPartial : Bool} {body : FieldDependencyBody}
    {data : FieldDependencyData} (fields : fieldDependencyFields w.db isPartial body = .ok data)
    (accepted : DependencyAccepted py w.db.conditionalRules.rows data current.surveyId)
    (checkable : data.dependsOnField ≠ none ∧ data.dependentField ≠ none)
    (stored : w.db.fieldDependencies.get current.id = some current) (valid : DefinitionsValid py w.db) :
    DefinitionsValid py { w.db with fieldDependencies := w.db.fieldDependencies.save (data.assign current) } ↔
      DependencyUpdateSound py w.db current data := by
  have resolved := fieldDependencyFields_resolved fields
  obtain ⟨full, isFull, _⟩ := valid.dependencies current (mem_rows.mpr stored)
  rw [← overDependency_accepted_iff resolved isFull accepted checkable, ← validateFieldDependencyData_eq_ok]
  have newFull : fullDependency w.db (data.assign current) = some (overDependency data full) :=
    fullDependency_assign resolved isFull
  constructor
  · intro valid'
    obtain ⟨full', isFull', accepted'⟩ := valid'.dependencies _ (mem_rows_save.mpr (Or.inl rfl))
    cases newFull.symm.trans isFull'
    exact accepted'
  · intro sound
    refine ⟨valid.rules, fun dep member => ?_⟩
    obtain rfl | old := mem_rows_save.mp member
    · exact ⟨_, newFull, sound⟩
    · exact valid.dependencies dep old.2

/-- The body of a new dependency has every key, so its validator saw the whole row. -/
theorem definitionsValid_dependencyCreated {surveyPk : Nat} {body : FieldDependencyBody} {data : FieldDependencyData}
    {row : FieldDependency} (fields : fieldDependencyFields w.db false body = .ok data)
    (accepted : DependencyAccepted py w.db.conditionalRules.rows data surveyPk)
    (made : row = data.assign (blankFieldDependency surveyPk)) (valid : DefinitionsValid py w.db) :
    DefinitionsValid py { w.db with fieldDependencies := w.db.fieldDependencies.insert row.withId row.key_withId } := by
  refine ⟨valid.rules, fun dep member => ?_⟩
  cases (@mem_rows_insert _ _ _ _ (FieldDependency.key_withId _) _).mp member with
  | inl isNew =>
    obtain ⟨dependent, dependsOn, given⟩ := fieldDependencyFields_given fields
    obtain ⟨operator, value, action, actionValue, _, rfl⟩ := given.columns
    subst isNew made
    exact ⟨_, fullDependency_eq_some.mpr ⟨dependent, dependsOn, given.dependentFound, given.dependsOnFound, rfl⟩,
      validateFieldDependencyData_eq_ok.mpr accepted⟩
  | inr old => exact valid.dependencies dep old

end Writes

/-! ## Requests -/

/-- What the endpoints do not ask of an edit of a field, a rule or a dependency. -/
def EditSound (py : Interpreter) (db : Database) : Request → Prop
  | .updateField _ _ pk isPartial body => ∀ row data, db.placedField pk = some row →
      validateField py isPartial row.toField body = .ok data →
        KeepsSides db row (data.order.getD row.order) ∧ KeepsLookups py db row data
  | .updateConditionalRule _ pk isPartial body => ∀ row data, db.conditionalRules.get pk = some row →
      conditionalRuleFields db isPartial body = .ok data →
        RuleUpdateSound py db row data ∧ ∀ dep ∈ db.fieldDependencies.rows, ¬ Contradicts py dep (data.assign row)
  | .updateFieldDependency _ pk isPartial body => ∀ row data, db.fieldDependencies.get pk = some row →
      fieldDependencyFields db isPartial body = .ok data → DependencyUpdateSound py db row data
  | _ => True

/-- If the call returns, its edit is sound. -/
def KeepsDefinitions (py : Interpreter) (w : World) (action : ApiCall) : Prop :=
  ∀ call, action = .write call → Returns py w call → EditSound py w.db call.request

section Requests

variable {py : Interpreter} {w : World} {call : Call}

theorem Served.valuesGiven {ends : Option PyExn × World} (served : Served py w call ends) (given : ValuesGiven w.db) :
    ValuesGiven ends.2.db := by
  constructor
  · intro row member
    obtain old | ⟨old, _, _, data, stored, rfl, _, fields, _⟩ := served.rule_cases member
    · exact given.rules row old
    · show (data.value.getD old.value).isNone = false
      cases submitted : data.value with
      | none => exact given.rules old stored
      | some value => exact (conditionalRuleFields_resolved fields).value value submitted
  · -- a submitted value is not `null`, nor is the one it is written over
    have assigned : ∀ {old : FieldDependency} {data : FieldDependencyData} {isPartial : Bool} {body : FieldDependencyBody},
        fieldDependencyFields w.db isPartial body = .ok data → (data.value = none → old.value.isNone = false) →
          (data.actionValue = none → old.actionValue.isNone = false) →
            (data.assign old).value.isNone = false ∧ (data.assign old).actionValue.isNone = false := by
      intro old data isPartial body fields keptValue keptAction
      have resolved := fieldDependencyFields_resolved fields
      constructor
      · show (data.value.getD old.value).isNone = false
        cases submitted : data.value with
        | none => exact keptValue submitted
        | some value => exact resolved.value value submitted
      · show (data.actionValue.getD old.actionValue).isNone = false
        cases submitted : data.actionValue with
        | none => exact keptAction submitted
        | some value => exact resolved.actionValue value submitted
    intro row member
    cases served with
    | dependencyCreated admin request fields accepted checkable draft made checked =>
      rename_i surveyPk body data new
      cases (@mem_rows_insert _ _ _ _ (FieldDependency.key_withId _) _).mp member with
      | inl isNew =>
        obtain ⟨_, _, givenBody⟩ := fieldDependencyFields_given fields
        obtain ⟨_, _, _, _, _, isData⟩ := givenBody.columns
        have values := @assigned (blankFieldDependency surveyPk) data false body fields
          (fun missing => by rw [isData] at missing; cases missing) fun missing => by rw [isData] at missing; cases missing
        rw [isNew, made]
        exact values
      | inr kept => exact given.dependencies row kept
    | dependencyUpdated admin request fields accepted checkable stored draft checked =>
      rename_i old _ _ _
      obtain rfl | kept := mem_rows_save.mp member
      · have before := given.dependencies old (mem_rows.mpr stored)
        exact assigned fields (fun _ => before.1) fun _ => before.2
      · exact given.dependencies row kept.2
    | surveyDeleted => exact given.dependencies row (fewer_rows row (fewer_rows row member))
    | sectionDeleted => exact given.dependencies row (fewer_rows row member)
    | fieldDeleted => exact given.dependencies row (fewer_rows row member)
    | dependencyDeleted => exact given.dependencies row (fewer_rows row member)
    | _ => exact given.dependencies row member

/-- After a request the definitions are valid unless it returned from an edit that is not sound. -/
theorem Served.definitionsValid_iff {ends : Option PyExn × World} (served : Served py w call ends) (intact : Intact w.db)
    (given : ValuesGiven w.db) (valid : DefinitionsValid py w.db) :
    DefinitionsValid py ends.2.db ↔ (ends.1 = none → EditSound py w.db call.request) := by
  have intact' := served.intact intact
  have same := served.sameParents
  have given' := served.valuesGiven given
  have sound := (Verified.definitionsValid_iff given).mp valid
  have keeps : KeepsRows w.db ends.2.db → DefinitionsValid py ends.2.db :=
    fun kept => (Verified.definitionsValid_iff given').mpr (sound.keep intact intact' same kept)
  -- the other requests have nothing to ask
  have unasked : DefinitionsValid py ends.2.db → EditSound py w.db call.request →
      (DefinitionsValid py ends.2.db ↔ (ends.1 = none → EditSound py w.db call.request)) :=
    fun holds asked => iff_of_true holds fun _ => asked
  cases served with
  | refused => exact iff_of_true valid fun returns => by cases returns
  | statusWritten => exact iff_of_true (keeps (.of_tables rfl rfl rfl rfl)) fun returns => by cases returns
  | invalid request => exact unasked valid (request ▸ trivial)
  | surveyCreated admin request => exact unasked (keeps (.of_tables rfl rfl rfl rfl)) (request ▸ trivial)
  | surveyUpdated admin request => exact unasked (keeps (.of_tables rfl rfl rfl rfl)) (request ▸ trivial)
  | surveyDeleted admin request => exact unasked (keeps (keepsRows_deleteSurvey _)) (request ▸ trivial)
  | sectionCreated admin request =>
    exact unasked (keeps (keepsRows_insertSection _)) (request ▸ trivial)
  | sectionUpdated admin request validated stored draft checked revalidated =>
    refine unasked ((Verified.definitionsValid_iff given').mpr ?_) (request ▸ trivial)
    exact definitionsSound_sectionEdited stored intact' same revalidated sound
  | sectionDeleted admin request stored draft =>
    rename_i row
    exact unasked (keeps (keepsRows_deleteSections (· == row.id))) (request ▸ trivial)
  | fieldCreated admin request =>
    exact unasked (keeps (keepsRows_insertField _)) (request ▸ trivial)
  | fieldUpdated admin request validated stored draft checked revalidated =>
    rename_i row isPartial body data
    obtain ⟨old, listed, revalidated⟩ := revalidated
    rw [Verified.definitionsValid_iff given', request, forall_prop_of_true rfl]
    refine (definitionsSound_fieldEdited_iff stored intact' same listed revalidated sound).trans
      ⟨fun holds => ?_, fun holds => ?_⟩
    · intro row' data' stored' validated'
      cases stored.symm.trans stored'
      cases validated.symm.trans validated'
      exact holds
    · exact holds row data stored validated
  | fieldDeleted admin request stored draft =>
    rename_i row
    exact unasked (keeps (keepsRows_deleteFields (· == row.id))) (request ▸ trivial)
  | ruleUpdated admin request fields accepted checkable stored draft checked =>
    rename_i row isPartial body data
    rw [request, forall_prop_of_true rfl]
    refine (definitionsValid_ruleUpdated_iff fields accepted checkable stored given valid).trans
      ⟨fun holds => ?_, fun holds => ?_⟩
    · intro row' data' stored' fields'
      cases stored.symm.trans stored'
      cases fields.symm.trans fields'
      exact holds
    · exact holds row data stored fields
  | ruleDeleted admin request =>
    refine unasked (keeps ⟨fun _ _ _ => eq_of_get, fun _ _ _ => eq_of_get, fewer_rows, fun _ member => member⟩) ?_
    exact request ▸ trivial
  | dependencyCreated admin request fields accepted checkable draft made checked =>
    exact unasked (definitionsValid_dependencyCreated fields accepted made valid) (request ▸ trivial)
  | dependencyUpdated admin request fields accepted checkable stored draft checked =>
    rename_i row isPartial body data
    rw [request, forall_prop_of_true rfl]
    refine (definitionsValid_dependencyUpdated_iff fields accepted checkable stored valid).trans
      ⟨fun holds => ?_, fun holds => ?_⟩
    · intro row' data' stored' fields'
      cases stored.symm.trans stored'
      cases fields.symm.trans fields'
      exact holds
    · exact holds row data stored fields
  | dependencyDeleted admin request =>
    refine unasked (keeps ⟨fun _ _ _ => eq_of_get, fun _ _ _ => eq_of_get, fun _ member => member, fewer_rows⟩) ?_
    exact request ▸ trivial
  | submitted customer request => exact unasked (keeps (.of_tables rfl rfl rfl rfl)) (request ▸ trivial)

theorem serve_definitionsValid_iff (action : ApiCall) (intact : Intact w.db) (given : ValuesGiven w.db)
    (valid : DefinitionsValid py w.db) : DefinitionsValid py (serve py w action).db ↔ KeepsDefinitions py w action := by
  cases action with
  | write call =>
    have ends := (served py w call).definitionsValid_iff intact given valid
    rw [ending_snd, ← returns_iff] at ends
    refine ends.trans ⟨fun holds other isCall returns => ?_, fun holds => holds call rfl⟩
    cases isCall
    exact holds returns
  | retrieve user pk =>
    rw [serve_retrieve_db]
    exact iff_of_true valid fun _ isCall => by cases isCall

theorem serve_valuesGiven (action : ApiCall) (given : ValuesGiven w.db) : ValuesGiven (serve py w action).db := by
  cases action with
  | write call =>
    obtain ⟨_, ends⟩ := handle_served py w call
    exact ends.valuesGiven given
  | retrieve user pk =>
    rw [serve_retrieve_db]
    exact given

/-- In every run of the API all rules and dependencies stay valid exactly when each
edit of a field, a rule or a dependency that returns is sound. -/
theorem definitions_valid_iff (py : Interpreter) {w : World} (intact : Intact w.db) (given : ValuesGiven w.db)
    (valid : DefinitionsValid py w.db) (actions : List ApiCall) :
    (∀ state ∈ trace (serve py) w actions, DefinitionsValid py state.db) ↔
      Along (serve py) (KeepsDefinitions py) w actions := by
  have kept : ∀ (state : World) (action : ApiCall), Intact state.db ∧ ValuesGiven state.db →
      Intact (serve py state action).db ∧ ValuesGiven (serve py state action).db :=
    fun _ action before => ⟨serve_intact action before.1, serve_valuesGiven action before.2⟩
  have always : Along (serve py) (fun state _ => Intact state.db ∧ ValuesGiven state.db) w actions :=
    Along.mono (fun _ _ holds _ => holds) (fun state action _ => kept state action) ⟨intact, given⟩
      (along_of_forall (fun _ _ => trivial) _ actions)
  have agree : ∀ (state : World) (action : ApiCall), Intact state.db ∧ ValuesGiven state.db → DefinitionsValid py state.db →
      (DefinitionsValid py (serve py state action).db ↔ KeepsDefinitions py state action) :=
    fun _ action before => serve_definitionsValid_iff action before.1 before.2
  exact forall_trace_iff agree valid always

end Requests

/-! ## The small draft -/

theorem definitionsValid_draftDatabase : DefinitionsValid bareInterpreter draftDatabase := by
  refine ⟨fun rule member => ?_, fun dep member => ?_⟩
  · cases List.mem_singleton.mp (show rule ∈ [_] from member)
    exact ⟨_, rfl, rfl⟩
  · cases List.mem_singleton.mp (show dep ∈ [_] from member)
    exact ⟨_, rfl, rfl⟩

theorem valuesGiven_draftDatabase : ValuesGiven draftDatabase := by
  refine ⟨fun rule member => ?_, fun dep member => ?_⟩
  · cases List.mem_singleton.mp (show rule ∈ [_] from member)
    rfl
  · cases List.mem_singleton.mp (show dep ∈ [_] from member)
    exact ⟨rfl, rfl⟩

/-- `PATCH {"order": 3}` and a `DELETE`. -/
def moveThenDelete : List ApiCall :=
  [.write (adminCall (.updateField 1 1 1 true ⟨.missing, .missing, .missing, .given 3, .missing, .missing, .missing⟩)),
    .write (adminCall (.destroyConditionalRule 1 1))]

/-- The first field is moved back, which is alone in its section, and then the rule is deleted. -/
theorem definitions_valid_moved :
    DefinitionsValid bareInterpreter (run (serve bareInterpreter) draftWorld moveThenDelete).db := by
  have sound : Along (serve bareInterpreter) (KeepsDefinitions bareInterpreter) draftWorld moveThenDelete := by
    refine ⟨?_, ?_, trivial⟩
    · intro call isCall _
      cases isCall
      intro row data found validated
      cases found
      cases validated
      exact ⟨smoker_keepsSides 3, fun _ _ _ options submitted => by cases submitted⟩
    · intro call isCall _
      cases isCall
      trivial
  exact (definitions_valid_iff bareInterpreter intact_draftDatabase valuesGiven_draftDatabase definitionsValid_draftDatabase
    moveThenDelete).mpr sound _ (run_mem_trace _ _)

end SurveyPlatform.Verified

import SurveyPlatform.Surveys.Retrieval
import SurveyPlatform.Responses.Storage

/-! # What the serialized survey depends on

`SameDetail` names the rows a serialized survey is made of; on databases that
agree on them it is the same text (`SameDetail.surveyJson_eq`).  Each write of
the program has a frame lemma here: it leaves the details of the other surveys
alone, or of those that lose no rule to its cascade.
-/

namespace SurveyPlatform.Verified

open SurveyPlatform.Library SurveyPlatform.Python SurveyPlatform.Surveys SurveyPlatform.Responses

/-! ## The rows of a survey -/

/-- The two databases agree on the survey, its sections, their fields, its rules and dependencies. -/
structure SameDetail (db db' : Database) (surveyId : Nat) : Prop where
  survey : db'.surveys.get surveyId = db.surveys.get surveyId
  sections : ∀ id, (db'.sections.get id).filter (·.surveyId = surveyId) =
    (db.sections.get id).filter (·.surveyId = surveyId)
  fields : ∀ row, db.sections.get row.id = some row → row.surveyId = surveyId → ∀ id,
    (db'.fields.get id).filter (·.sectionId = row.id) = (db.fields.get id).filter (·.sectionId = row.id)
  conditionalRules : ∀ id, (db'.conditionalRules.get id).filter (·.surveyId = surveyId) =
    (db.conditionalRules.get id).filter (·.surveyId = surveyId)
  fieldDependencies : ∀ id, (db'.fieldDependencies.get id).filter (·.surveyId = surveyId) =
    (db.fieldDependencies.get id).filter (·.surveyId = surveyId)

section Details

variable {db db' : Database} {surveyId : Nat}

theorem SameDetail.refl (db : Database) (surveyId : Nat) : SameDetail db db surveyId :=
  ⟨rfl, fun _ => rfl, fun _ _ _ _ => rfl, fun _ => rfl, fun _ => rfl⟩

theorem SameDetail.trans {db'' : Database} (first : SameDetail db db' surveyId) (second : SameDetail db' db'' surveyId) :
    SameDetail db db'' surveyId := by
  refine ⟨second.survey.trans first.survey, fun id => (second.sections id).trans (first.sections id), ?_,
    fun id => (second.conditionalRules id).trans (first.conditionalRules id),
    fun id => (second.fieldDependencies id).trans (first.fieldDependencies id)⟩
  intro row stored inSurvey id
  -- a section of the survey is one in both databases
  have stored' : db'.sections.get row.id = some row := by
    have kept : (db'.sections.get row.id).filter (·.surveyId = surveyId) = some row := by
      rw [first.sections, stored]
      exact Option.filter_some_pos (decide_eq_true inSurvey)
    exact (Option.filter_eq_some_iff.mp kept).1
  exact (second.fields row stored' inSurvey id).trans (first.fields row stored inSurvey id)

theorem SameDetail.sectionsOf_eq (same : SameDetail db db' surveyId) : db'.sectionsOf surveyId = db.sectionsOf surveyId :=
  Table.filter_rows_congr same.sections

theorem SameDetail.fieldsOf_eq (same : SameDetail db db' surveyId) {row : Section} (member : row ∈ db.sectionsOf surveyId) :
    db'.fieldsOf row.id = db.fieldsOf row.id := by
  obtain ⟨stored, inSurvey⟩ := Database.mem_sectionsOf.mp member
  exact Table.filter_rows_congr (same.fields row stored inSurvey)

/-- The serialized survey is made of these rows. -/
theorem SameDetail.surveyJson_eq {survey : Survey} (same : SameDetail db db' survey.id) (role : Role) :
    surveyJson db' role survey = surveyJson db role survey := by
  have sections : getSections db' role survey.id = getSections db role survey.id := by
    unfold getSections
    rw [same.sectionsOf_eq]
    dsimp only
    split
    · apply List.filter_congr
      intro row member
      rw [same.fieldsOf_eq (List.mem_mergeSort.mp member)]
    · rfl
  have each : (getSections db role survey.id).map (sectionJson db') =
      (getSections db role survey.id).map (sectionJson db) := by
    apply List.map_congr_left
    intro row member
    have inSurvey : row ∈ db.sectionsOf survey.id := by
      unfold getSections at member
      dsimp only at member
      split at member
      · exact List.mem_mergeSort.mp (List.mem_of_mem_filter member)
      · exact List.mem_mergeSort.mp member
    rw [sectionJson, sectionJson, same.fieldsOf_eq inSurvey]
  have rules : db'.conditionalRulesOf survey.id = db.conditionalRulesOf survey.id :=
    Table.filter_rows_congr same.conditionalRules
  have dependencies : db'.fieldDependenciesOf survey.id = db.fieldDependenciesOf survey.id :=
    Table.filter_rows_congr same.fieldDependencies
  rw [surveyJson, surveyJson, sections, each, rules, dependencies]

/-! ## Serialized from the database -/

/-- The data of an entry: the stored survey as some role sees it. -/
def Serialized (db : Database) (surveyId : Nat) (data : Json) : Prop :=
  ∃ survey role, db.surveys.get surveyId = some survey ∧ data = surveyJson db role survey

theorem SameDetail.serialized {data : Json} (same : SameDetail db db' surveyId) (before : Serialized db surveyId data) :
    Serialized db' surveyId data := by
  obtain ⟨survey, role, stored, rfl⟩ := before
  have sameKey : survey.id = surveyId := db.surveys.keyed surveyId survey stored
  subst sameKey
  exact ⟨survey, role, same.survey.trans stored, (same.surveyJson_eq role).symm⟩

/-! ## Frames -/

theorem SameDetail.of_surveys {surveys : Table Survey} (other : surveys.get surveyId = db.surveys.get surveyId) :
    SameDetail db { db with surveys } surveyId :=
  ⟨other, fun _ => rfl, fun _ _ _ _ => rfl, fun _ => rfl, fun _ => rfl⟩

theorem SameDetail.of_sections {sections : Table Section}
    (agree : ∀ id, (sections.get id).filter (·.surveyId = surveyId) =
      (db.sections.get id).filter (·.surveyId = surveyId)) : SameDetail db { db with sections } surveyId :=
  ⟨rfl, agree, fun _ _ _ _ => rfl, fun _ => rfl, fun _ => rfl⟩

theorem SameDetail.of_fields {fields : Table Field}
    (agree : ∀ row, db.sections.get row.id = some row → row.surveyId = surveyId → ∀ id,
      (fields.get id).filter (·.sectionId = row.id) = (db.fields.get id).filter (·.sectionId = row.id)) :
    SameDetail db { db with fields } surveyId :=
  ⟨rfl, fun _ => rfl, agree, fun _ => rfl, fun _ => rfl⟩

theorem SameDetail.of_conditionalRules {conditionalRules : Table ConditionalRule}
    (agree : ∀ id, (conditionalRules.get id).filter (·.surveyId = surveyId) =
      (db.conditionalRules.get id).filter (·.surveyId = surveyId)) : SameDetail db { db with conditionalRules } surveyId :=
  ⟨rfl, fun _ => rfl, fun _ _ _ _ => rfl, agree, fun _ => rfl⟩

theorem SameDetail.of_fieldDependencies {fieldDependencies : Table FieldDependency}
    (agree : ∀ id, (fieldDependencies.get id).filter (·.surveyId = surveyId) =
      (db.fieldDependencies.get id).filter (·.surveyId = surveyId)) :
    SameDetail db { db with fieldDependencies } surveyId :=
  ⟨rfl, fun _ => rfl, fun _ _ _ _ => rfl, fun _ => rfl, agree⟩

theorem sameDetail_sectionInsert {row : Section} (other : row.surveyId ≠ surveyId) :
    SameDetail db { db with sections := db.sections.insert row.withId row.key_withId } surveyId :=
  .of_sections (Table.filter_get_insert (decide_eq_false other))

theorem sameDetail_sectionUpdate {id : Nat} (data : SectionData)
    (other : ∀ row, db.sections.get id = some row → row.surveyId ≠ surveyId) :
    SameDetail db { db with sections := db.sections.modify id data.assign data.key_assign } surveyId :=
  .of_sections (Table.filter_get_modify fun row stored =>
    ⟨decide_eq_false (other row stored), decide_eq_false (other row stored)⟩)

theorem sameDetail_fieldInsert {row : Field}
    (other : ∀ parent, db.sections.get row.sectionId = some parent → parent.surveyId ≠ surveyId) :
    SameDetail db { db with fields := db.fields.insert row.withId row.key_withId } surveyId := by
  apply SameDetail.of_fields
  intro parent stored inSurvey
  exact Table.filter_get_insert (decide_eq_false fun inSection =>
    other parent ((show row.sectionId = parent.id from inSection) ▸ stored) inSurvey)

theorem sameDetail_fieldUpdate {id : Nat} (data : FieldData)
    (other : ∀ row, db.fields.get id = some row → ∀ parent, db.sections.get row.sectionId = some parent →
      parent.surveyId ≠ surveyId) :
    SameDetail db { db with fields := db.fields.modify id data.assign data.key_assign } surveyId := by
  apply SameDetail.of_fields
  intro parent parentStored inSurvey
  apply Table.filter_get_modify
  intro row stored
  -- an update leaves the field in its section
  have elsewhere : row.sectionId ≠ parent.id := fun inSection =>
    other row stored parent (inSection ▸ parentStored) inSurvey
  exact ⟨decide_eq_false elsewhere, decide_eq_false elsewhere⟩

theorem sameDetail_ruleInsert {row : ConditionalRule} (other : row.surveyId ≠ surveyId) :
    SameDetail db { db with conditionalRules := db.conditionalRules.insert row.withId row.key_withId } surveyId :=
  .of_conditionalRules (Table.filter_get_insert (decide_eq_false other))

theorem sameDetail_ruleUpdate {id : Nat} (data : ConditionalRuleData)
    (other : ∀ row, db.conditionalRules.get id = some row → row.surveyId ≠ surveyId) :
    SameDetail db { db with conditionalRules := db.conditionalRules.modify id data.assign data.key_assign } surveyId :=
  .of_conditionalRules (Table.filter_get_modify fun row stored =>
    ⟨decide_eq_false (other row stored), decide_eq_false (other row stored)⟩)

theorem sameDetail_ruleDelete {id : Nat}
    (other : ∀ row, db.conditionalRules.get id = some row → row.surveyId ≠ surveyId) :
    SameDetail db { db with conditionalRules := db.conditionalRules.deleteWhere (·.id == id) } surveyId := by
  apply SameDetail.of_conditionalRules
  apply Table.filter_get_deleteWhere
  intro i row stored inSurvey
  have sameKey : row.id = i := db.conditionalRules.keyed i row stored
  rw [beq_eq_false_iff_ne]
  rintro rfl
  exact other row (sameKey ▸ stored) (by simpa using inSurvey)

theorem sameDetail_dependencyInsert {row : FieldDependency} (other : row.surveyId ≠ surveyId) :
    SameDetail db { db with fieldDependencies := db.fieldDependencies.insert row.withId row.key_withId } surveyId :=
  .of_fieldDependencies (Table.filter_get_insert (decide_eq_false other))

theorem sameDetail_dependencyUpdate {id : Nat} (data : FieldDependencyData)
    (other : ∀ row, db.fieldDependencies.get id = some row → row.surveyId ≠ surveyId) :
    SameDetail db { db with fieldDependencies := db.fieldDependencies.modify id data.assign data.key_assign } surveyId :=
  .of_fieldDependencies (Table.filter_get_modify fun row stored =>
    ⟨decide_eq_false (other row stored), decide_eq_false (other row stored)⟩)

theorem sameDetail_dependencyDelete {id : Nat}
    (other : ∀ row, db.fieldDependencies.get id = some row → row.surveyId ≠ surveyId) :
    SameDetail db { db with fieldDependencies := db.fieldDependencies.deleteWhere (·.id == id) } surveyId := by
  apply SameDetail.of_fieldDependencies
  apply Table.filter_get_deleteWhere
  intro i row stored inSurvey
  have sameKey : row.id = i := db.fieldDependencies.keyed i row stored
  rw [beq_eq_false_iff_ne]
  rintro rfl
  exact other row (sameKey ▸ stored) (by simpa using inSurvey)

/-- No rule and no dependency of the survey names one of these sections and fields. -/
structure Unreferenced (db : Database) (goneSection goneField : Nat → Bool) (surveyId : Nat) : Prop where
  rules : ∀ id rule, db.conditionalRules.get id = some rule → rule.surveyId = surveyId →
    (rule.targetSectionId.any goneSection || (rule.targetFieldId.any goneField || goneField rule.dependsOnFieldId)) = false
  dependencies : ∀ id dep, db.fieldDependencies.get id = some dep → dep.surveyId = surveyId →
    (goneField dep.dependentFieldId || goneField dep.dependsOnFieldId) = false

/-- Deleted fields take with them what names them; a survey that has none of both keeps its details. -/
theorem sameDetail_deleteFields {goneSection gone : Nat → Bool} (unreferenced : Unreferenced db goneSection gone surveyId)
    (elsewhere : ∀ id field, db.fields.get id = some field → gone field.id = true →
      ∀ row, db.sections.get field.sectionId = some row → row.surveyId ≠ surveyId) :
    SameDetail db (db.deleteFields gone) surveyId := by
  refine ⟨rfl, fun _ => rfl, ?_, ?_, ?_⟩
  · intro row stored inSurvey
    apply Table.filter_get_deleteWhere
    intro id field fieldStored inSection
    simp only [decide_eq_true_eq] at inSection
    rw [← Bool.not_eq_true]
    intro isGone
    exact elsewhere id field fieldStored isGone row (inSection ▸ stored) inSurvey
  · apply Table.filter_get_deleteWhere
    intro id rule stored inSurvey
    have kept := unreferenced.rules id rule stored (by simpa using inSurvey)
    exact (Bool.or_eq_false_iff.mp kept).2
  · apply Table.filter_get_deleteWhere
    intro id dep stored inSurvey
    exact unreferenced.dependencies id dep stored (by simpa using inSurvey)

theorem sameDetail_deleteField {id : Nat} (unreferenced : Unreferenced db (fun _ => false) (· == id) surveyId)
    (elsewhere : ∀ row, db.fields.get id = some row → ∀ parent, db.sections.get row.sectionId = some parent →
      parent.surveyId ≠ surveyId) :
    SameDetail db (db.deleteFields (· == id)) surveyId := by
  apply sameDetail_deleteFields unreferenced
  intro i row stored isGone
  have sameKey : row.id = i := db.fields.keyed i row stored
  have isRow : row.id = id := beq_iff_eq.mp isGone
  rw [← sameKey, isRow] at stored
  exact elsewhere row stored

/-- The fields of the sections that are deleted. -/
def fieldsIn (db : Database) (goneSection : Nat → Bool) (id : Nat) : Bool :=
  (db.fields.get id).any fun row => goneSection row.sectionId

theorem sameDetail_deleteSections {gone : Nat → Bool} (unreferenced : Unreferenced db gone (fieldsIn db gone) surveyId)
    (elsewhere : ∀ row, db.sections.get row.id = some row → gone row.id = true → row.surveyId ≠ surveyId) :
    SameDetail db (db.deleteSections gone) surveyId := by
  have fields : SameDetail db (db.deleteFields (fieldsIn db gone)) surveyId := by
    apply sameDetail_deleteFields unreferenced
    intro id field fieldStored isGone row stored
    have sameKey : field.id = id := db.fields.keyed id field fieldStored
    have sameSection : row.id = field.sectionId := db.sections.keyed _ row stored
    rw [fieldsIn, sameKey, fieldStored] at isGone
    exact elsewhere row (sameSection ▸ stored) (by simpa [sameSection] using isGone)
  apply fields.trans
  refine ⟨rfl, ?_, fun _ _ _ _ => rfl, ?_, fun _ => rfl⟩
  · apply Table.filter_get_deleteWhere
    intro id row stored inSurvey
    have sameKey : row.id = id := db.sections.keyed id row stored
    rw [← Bool.not_eq_true]
    intro isGone
    exact elsewhere row (sameKey ▸ stored) isGone (by simpa using inSurvey)
  · apply Table.filter_get_deleteWhere
    intro id rule stored inSurvey
    have before : db.conditionalRules.get id = some rule := (Option.filter_eq_some_iff.mp stored).1
    have kept := unreferenced.rules id rule before (by simpa using inSurvey)
    exact (Bool.or_eq_false_iff.mp kept).1

theorem sameDetail_deleteSection {id : Nat} (unreferenced : Unreferenced db (· == id) (fieldsIn db (· == id)) surveyId)
    (elsewhere : ∀ row, db.sections.get id = some row → row.surveyId ≠ surveyId) :
    SameDetail db (db.deleteSections (· == id)) surveyId := by
  apply sameDetail_deleteSections unreferenced
  intro row stored isGone
  have isRow : row.id = id := beq_iff_eq.mp isGone
  rw [isRow] at stored
  exact elsewhere row stored

/-- The sections of a survey. -/
def sectionsIn (db : Database) (surveyId : Nat) (id : Nat) : Bool := (db.sections.get id).any (·.surveyId = surveyId)

theorem sameDetail_deleteSurvey {gone : Nat} (other : surveyId ≠ gone)
    (unreferenced : Unreferenced db (sectionsIn db gone) (fieldsIn db (sectionsIn db gone)) surveyId) :
    SameDetail db (db.deleteSurvey gone) surveyId := by
  have sections : SameDetail db (db.deleteSections (sectionsIn db gone)) surveyId := by
    apply sameDetail_deleteSections unreferenced
    intro row stored isGone inSurvey
    simp only [sectionsIn, stored, Option.any_some, decide_eq_true_eq] at isGone
    exact other (inSurvey.symm.trans isGone)
  apply sections.trans
  refine ⟨?_, fun _ => rfl, fun _ _ _ _ => rfl, ?_, ?_⟩
  · simp only [Database.deleteSurvey, Table.deleteWhere, Database.deleteSections, Database.deleteFields]
    cases stored : db.surveys.get surveyId with
    | none => rfl
    | some survey =>
      have sameKey : survey.id = surveyId := db.surveys.keyed surveyId survey stored
      simp [Option.filter, sameKey, other]
  · apply Table.filter_get_deleteWhere
    intro id rule _ inSurvey
    simp_all
  · apply Table.filter_get_deleteWhere
    intro id dep _ inSurvey
    simp_all

end Details

end SurveyPlatform.Verified

import Mathlib.Order.Defs.Unbundled
import SurveyPlatform.Library.Sorting
import SurveyPlatform.Responses.Storage
import SurveyPlatform.Verified.RuleValidity

/-! # Ordering validators and display order

`prefetch_survey_structure` sorts the fields of a survey by the order of their
section and then by their own.  Where sections of the survey and fields of a
section have distinct orders, the two ordering validators accept exactly the
pairs that this list has in that order (`orderingValidators_displayOrder`), so
they are a strict total order on the fields of the survey.
-/

namespace SurveyPlatform.Verified

open SurveyPlatform.Library SurveyPlatform.Python SurveyPlatform.Surveys SurveyPlatform.Responses

/-- No two sections of the survey have one order, and no two fields of a section. -/
structure UniqueOrders (db : Database) (surveyId : Nat) : Prop where
  ofSections : ∀ a ∈ db.sectionsOf surveyId, ∀ b ∈ db.sectionsOf surveyId, a.order = b.order → a = b
  ofFields : ∀ current ∈ db.sectionsOf surveyId, ∀ a ∈ db.fieldsOf current.id, ∀ b ∈ db.fieldsOf current.id,
    a.order = b.order → a = b

/-- The field, with its section, is a row of the survey. -/
structure FieldOf (db : Database) (surveyId : Nat) (field : PlacedField) : Prop where
  stored : db.placedField field.id = some field
  inSurvey : field.surveyId = surveyId

/-- `a` comes before `b` in the field list of `prefetch_survey_structure`, which lists no field twice. -/
def ListedBefore (db : Database) (surveyId : Nat) (a b : Field) : Prop :=
  [a, b].Sublist (prefetchSurveyStructure db surveyId).fields

/-- The fields of the survey. -/
abbrev SurveyField (db : Database) (surveyId : Nat) : Type := { field : PlacedField // FieldOf db surveyId field }

/-- What the ordering validators say about the fields of a survey. -/
structure DisplayOrder (db : Database) (surveyId : Nat) : Prop where
  dependency : ∀ a b, FieldOf db surveyId a → FieldOf db surveyId b →
    (validateFdOrderingConstraint a b = .ok () ↔ ListedBefore db surveyId a.toField b.toField)
  targetField : ∀ a b, FieldOf db surveyId a → FieldOf db surveyId b →
    (validateOrderingConstraint a none (some b) = .ok () ↔ ListedBefore db surveyId a.toField b.toField)
  targetSection : ∀ a target, FieldOf db surveyId a → target ∈ db.sectionsOf surveyId →
    db.fieldsOf target.id ≠ [] →
      (validateOrderingConstraint a (some target) none = .ok () ↔
        (∀ b ∈ db.fieldsOf target.id, ListedBefore db surveyId a.toField b) ∧ a.sectionId ≠ target.id)
  strictTotal : IsStrictTotalOrder (SurveyField db surveyId)
    fun a b => validateFdOrderingConstraint a.val b.val = .ok ()

section Order

variable {db : Database} {surveyId : Nat} {a b : PlacedField}

theorem FieldOf.storedField (member : FieldOf db surveyId a) : db.fields.get a.id = some a.toField :=
  (Database.placedField_eq_some.mp member.stored).1

theorem FieldOf.storedSection (member : FieldOf db surveyId a) :
    db.sections.get a.sectionId = some a.sectionRow :=
  (Database.placedField_eq_some.mp member.stored).2

theorem FieldOf.sectionRow_mem (member : FieldOf db surveyId a) : a.sectionRow ∈ db.sectionsOf surveyId := by
  refine Database.mem_sectionsOf.mpr ⟨?_, member.inSurvey⟩
  rw [a.placed]
  exact member.storedSection

theorem FieldOf.mem_structureFields (member : FieldOf db surveyId a) : a.toField ∈ structureFields db surveyId :=
  Responses.mem_structureFields.mpr ⟨member.storedField, a.sectionRow, member.storedSection, member.inSurvey⟩

theorem FieldOf.sectionOrder_eq (member : FieldOf db surveyId a) : sectionOrder db a.toField = a.sectionRow.order := by
  rw [sectionOrder, member.storedSection]
  rfl

/-- Two fields of one survey with the same row are the same with their section. -/
theorem FieldOf.ext (member : FieldOf db surveyId a) (member' : FieldOf db surveyId b)
    (same : a.toField = b.toField) : a = b := by
  have found := member.stored
  rw [same, member'.stored] at found
  exact (Option.some.inj found).symm

/-- A field found in a section of the survey. -/
theorem fieldOf_of_mem_fieldsOf {current : Section} (inSurvey : current ∈ db.sectionsOf surveyId) {field : Field}
    (member : field ∈ db.fieldsOf current.id) :
    ∃ placed : PlacedField, placed.toField = field ∧ placed.sectionRow = current ∧ FieldOf db surveyId placed := by
  obtain ⟨stored, isIn⟩ := Database.mem_sectionsOf.mp inSurvey
  obtain ⟨found, inSection⟩ := Database.mem_fieldsOf.mp member
  have parent : db.sections.get field.sectionId = some current := by rw [inSection, stored]
  exact ⟨⟨field, current, inSection.symm⟩, rfl, rfl, Database.placedField_eq_some.mpr ⟨found, parent⟩, isIn⟩

/-- Every field of the structure is one of the survey. -/
theorem fieldOf_of_mem_structureFields {field : Field} (member : field ∈ structureFields db surveyId) :
    ∃ placed : PlacedField, placed.toField = field ∧ FieldOf db surveyId placed := by
  obtain ⟨found, parent, stored, inSurvey⟩ := Responses.mem_structureFields.mp member
  have sameId : parent.id = field.sectionId := db.sections.keyed _ _ stored
  exact ⟨⟨field, parent, sameId⟩, rfl, Database.placedField_eq_some.mpr ⟨found, stored⟩, inSurvey⟩

section Distinct

variable (distinct : UniqueOrders db surveyId)
include distinct

theorem sameSection_of_sameOrder (member : FieldOf db surveyId a) (member' : FieldOf db surveyId b)
    (same : a.sectionRow.order = b.sectionRow.order) : a.sectionRow = b.sectionRow :=
  distinct.ofSections _ member.sectionRow_mem _ member'.sectionRow_mem same

/-- No two fields of the survey have both numbers the same. -/
theorem sameField_of_sameOrders (member : FieldOf db surveyId a) (member' : FieldOf db surveyId b)
    (sameSection : a.sectionRow.order = b.sectionRow.order) (sameOrder : a.order = b.order) : a = b := by
  have sameRow := sameSection_of_sameOrder distinct member member' sameSection
  have inSection : a.toField ∈ db.fieldsOf a.sectionRow.id :=
    Database.mem_fieldsOf.mpr ⟨member.storedField, a.placed.symm⟩
  have inSection' : b.toField ∈ db.fieldsOf a.sectionRow.id :=
    Database.mem_fieldsOf.mpr ⟨member'.storedField, by rw [sameRow, b.placed]⟩
  exact member.ext member' (distinct.ofFields _ member.sectionRow_mem _ inSection _ inSection' sameOrder)

/-- The comparison of the validators is the one of the sort. -/
theorem fieldBefore_iff (member : FieldOf db surveyId a) (member' : FieldOf db surveyId b) :
    FieldBefore a b ↔ a.sectionRow.order < b.sectionRow.order ∨
      (a.sectionRow.order = b.sectionRow.order ∧ a.order < b.order) := by
  rw [FieldBefore]
  split
  · rename_i sameId
    have sameRow : a.sectionRow = b.sectionRow := by
      have found := member.storedSection
      rw [← a.placed, sameId, b.placed, member'.storedSection] at found
      exact (Option.some.inj found).symm
    simp [sameRow]
  · rename_i otherId
    have otherOrder : a.sectionRow.order ≠ b.sectionRow.order := by
      intro same
      have sameRow := sameSection_of_sameOrder distinct member member' same
      exact otherId (by rw [sameRow])
    simp [otherOrder]

theorem listedBefore_iff (member : FieldOf db surveyId a) (member' : FieldOf db surveyId b) :
    ListedBefore db surveyId a.toField b.toField ↔ FieldBefore a b := by
  have nodup := (db.fields.nodup_rows.of_map).filter
    fun field => (db.sections.get field.sectionId).any (·.surveyId = surveyId)
  change [a.toField, b.toField].Sublist (structureFields db surveyId) ↔ FieldBefore a b
  rw [structureFields, (ranking_lexicographic (sectionOrder db) Field.order).pair_sublist_mergeSort_iff nodup ?_
      (List.mem_mergeSort.mp member.mem_structureFields) (List.mem_mergeSort.mp member'.mem_structureFields),
    fieldBefore_iff distinct member member', member.sectionOrder_eq, member'.sectionOrder_eq]
  · simp only [Bool.or_eq_false_iff, Bool.and_eq_false_imp, decide_eq_false_iff_not, beq_iff_eq]
    omega
  · intro c inFields d inFields' notAbove notBelow
    obtain ⟨c, rfl, isField⟩ := fieldOf_of_mem_structureFields (List.mem_mergeSort.mpr inFields)
    obtain ⟨d, rfl, isField'⟩ := fieldOf_of_mem_structureFields (List.mem_mergeSort.mpr inFields')
    simp only [isField.sectionOrder_eq, isField'.sectionOrder_eq, Bool.or_eq_true, Bool.and_eq_true,
      decide_eq_true_eq, beq_iff_eq] at notAbove notBelow
    exact congrArg PlacedField.toField
      (sameField_of_sameOrders distinct isField isField' (by omega) (by omega))

/-- A field is before a whole section when the section has a higher order. -/
theorem beforeSection_iff (member : FieldOf db surveyId a) {target : Section}
    (inSurvey : target ∈ db.sectionsOf surveyId) (nonempty : db.fieldsOf target.id ≠ []) :
    a.sectionRow.order < target.order ↔
      (∀ b ∈ db.fieldsOf target.id, ListedBefore db surveyId a.toField b) ∧ a.sectionId ≠ target.id := by
  constructor
  · intro earlier
    have otherSection : a.sectionId ≠ target.id := by
      intro sameId
      have stored := member.storedSection
      rw [sameId, (Database.mem_sectionsOf.mp inSurvey).1, Option.some.injEq] at stored
      exact absurd earlier (by rw [stored]; exact lt_irrefl _)
    refine ⟨?_, otherSection⟩
    intro b inSection
    obtain ⟨b, rfl, rfl, member'⟩ := fieldOf_of_mem_fieldsOf inSurvey inSection
    exact (listedBefore_iff distinct member member').mpr ((fieldBefore_iff distinct member member').mpr (Or.inl earlier))
  · intro holds
    obtain ⟨before, otherSection⟩ := holds
    obtain ⟨b, inSection⟩ := List.exists_mem_of_ne_nil _ nonempty
    have listed := before b inSection
    obtain ⟨b, rfl, rfl, member'⟩ := fieldOf_of_mem_fieldsOf inSurvey inSection
    have fieldBefore := (listedBefore_iff distinct member member').mp listed
    rwa [FieldBefore, if_neg (by rwa [a.placed])] at fieldBefore

theorem fieldBefore_strictTotal :
    IsStrictTotalOrder (SurveyField db surveyId) fun a b => FieldBefore a.val b.val where
  irrefl := by
    intro a before
    rw [fieldBefore_iff distinct a.property a.property] at before
    omega
  trans := by
    intro a b c before before'
    rw [fieldBefore_iff distinct a.property b.property] at before
    rw [fieldBefore_iff distinct b.property c.property] at before'
    rw [fieldBefore_iff distinct a.property c.property]
    omega
  trichotomous := by
    intro a b notBefore notAfter
    rw [fieldBefore_iff distinct a.property b.property] at notBefore
    rw [fieldBefore_iff distinct b.property a.property] at notAfter
    exact Subtype.ext (sameField_of_sameOrders distinct a.property b.property (by omega) (by omega))

/-- The ordering validators accept what the display order allows, and nothing else. -/
theorem orderingValidators_displayOrder : DisplayOrder db surveyId := by
  constructor
  · intro a b member member'
    rw [validateFdOrderingConstraint, requireFieldBefore_eq_ok, listedBefore_iff distinct member member']
  · intro a b member member'
    rw [validateOrderingConstraint_eq_ok, listedBefore_iff distinct member member']
    simp
  · intro a target member inSurvey nonempty
    rw [validateOrderingConstraint_eq_ok, ← beforeSection_iff distinct member inSurvey nonempty]
    simp
  · simp only [validateFdOrderingConstraint, requireFieldBefore_eq_ok]
    exact fieldBefore_strictTotal distinct

end Distinct

end Order

theorem draft_uniqueOrders : UniqueOrders draftDatabase 1 := by
  have sections : draftDatabase.sectionsOf 1 = [⟨1, 1, "You", "", 1⟩, ⟨2, 1, "Habits", "", 2⟩] := rfl
  have fields : ∀ current ∈ draftDatabase.sectionsOf 1, (draftDatabase.fieldsOf current.id).length = 1 := by
    simp only [sections, List.forall_mem_cons]
    exact ⟨rfl, rfl, fun _ member => absurd member List.not_mem_nil⟩
  constructor
  · simp [sections]
  · intro current member a inSection b inSection' _
    obtain ⟨only, alone⟩ := List.length_eq_one_iff.mp (fields current member)
    rw [alone, List.mem_singleton] at inSection inSection'
    rw [inSection, inSection']

/-- Two dropdowns in two sections. -/
theorem orderingValidators_displayOrder_draft : DisplayOrder draftDatabase 1 :=
  orderingValidators_displayOrder draft_uniqueOrders

end SurveyPlatform.Verified

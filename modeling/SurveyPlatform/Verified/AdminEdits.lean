import SurveyPlatform.Verified.AdminHooks
import SurveyPlatform.Verified.EditEffects

/-! # Structural edits in the admin site

`update_section` and `update_field` look at the rules and dependencies again
after a change; the hooks of the admin site do not, and they take the order 0
for a missing one.  So an edit is stored by both or by none, and leaves every
rule valid, exactly when the order or the columns that the page stores fit the
rules, and order 0 is out of play (`edit_agrees_iff`).
-/

namespace SurveyPlatform.Verified

open SurveyPlatform.Library SurveyPlatform.Library.Program SurveyPlatform.Python SurveyPlatform.Surveys

/-! ## Rules that fit the rows -/

/-- Every rule and dependency passes its ordering validator. -/
structure Ordered (db : Database) : Prop where
  rules : ∀ rule ∈ db.conditionalRules.rows, ∀ dependsOn, db.placedField rule.dependsOnFieldId = some dependsOn →
    validateOrderingConstraint dependsOn (rule.targetSectionId.bind db.sections.get)
      (rule.targetFieldId.bind db.placedField) = .ok ()
  dependencies : ∀ dep ∈ db.fieldDependencies.rows, ∀ dependsOn dependent,
    db.placedField dep.dependsOnFieldId = some dependsOn → db.placedField dep.dependentFieldId = some dependent →
      validateFdOrderingConstraint dependsOn dependent = .ok ()

/-- Every rule and dependency passes the validators of its operator, value and action. -/
structure Compatible (py : Interpreter) (db : Database) : Prop where
  rules : ∀ rule ∈ db.conditionalRules.rows, ∀ field, db.fields.get rule.dependsOnFieldId = some field →
    validateOperatorValue py field rule.operator rule.value = .ok ()
  sources : ∀ dep ∈ db.fieldDependencies.rows, ∀ field, db.fields.get dep.dependsOnFieldId = some field →
    validateOperatorValue py field dep.operator dep.value = .ok ()
  targets : ∀ dep ∈ db.fieldDependencies.rows, ∀ field, db.fields.get dep.dependentFieldId = some field →
    validateActionValue py dep.action dep.actionValue field = .ok ()

/-! ## Edits -/

/-- A new order for a section, or a new type, options and validation rules for a field. -/
inductive StructuralEdit where
  | order (row : Section) (order : Nat)
  | columns (row : PlacedField) (fieldType : FieldType) (options validationRules : Json)

def editedSection (row : Section) (order : Nat) : Section := { row with order }

def editedField (row : PlacedField) (fieldType : FieldType) (options validationRules : Json) : Field :=
  { row.toField with fieldType, options, validationRules }

def sectionForm (row : Section) (order : Nat) : ModelForm Section where
  initial := some row
  obj := editedSection row order
  sameKey := fun _ opened => Option.some.inj opened ▸ rfl

def fieldForm (row : PlacedField) (fieldType : FieldType) (options validationRules : Json) : ModelForm Field where
  initial := some row.toField
  obj := editedField row fieldType options validationRules
  sameKey := fun _ opened => Option.some.inj opened ▸ rfl

namespace StructuralEdit

/-- The row is stored in a draft, and the new columns pass their own validators. -/
def Allowed (py : Interpreter) (db : Database) : StructuralEdit → Prop
  | order row _ => db.sections.get row.id = some row ∧ IsDraft db row.surveyId
  | columns row fieldType options validationRules =>
    db.placedField row.id = some row ∧ IsDraft db row.surveyId ∧
      validateFieldOptions py fieldType options = .ok () ∧ validateValidationRules py fieldType validationRules = .ok ()

/-- The world after the hook of the admin page. -/
def adminAfter (py : Interpreter) (w : World) : StructuralEdit → World
  | order row newOrder => final (SectionAdmin.saveModel (sectionForm row newOrder)) w
  | columns row fieldType options validationRules =>
    final (FieldAdmin.saveModel py (fieldForm row fieldType options validationRules)) w

/-- The hook saves the row as it was submitted. -/
def AdminStores (py : Interpreter) (w : World) : StructuralEdit → Prop
  | order row newOrder =>
    ∃ db, SavedAs (editedSection row newOrder) db (SectionAdmin.saveModel (sectionForm row newOrder) w) ∧
      db.sections.get row.id = some (editedSection row newOrder)
  | columns row fieldType options validationRules =>
    ∃ db, SavedAs (editedField row fieldType options validationRules) db
        (FieldAdmin.saveModel py (fieldForm row fieldType options validationRules) w) ∧
      db.fields.get row.id = some (editedField row fieldType options validationRules)

/-- The service returns. -/
def ServiceSucceeds (py : Interpreter) (w : World) : StructuralEdit → Prop
  | order row newOrder => ∃ updated w', updateSection row ⟨none, none, some newOrder⟩ w = .ok updated w'
  | columns row fieldType options validationRules => ∃ updated w',
      updateField py row ⟨none, some fieldType, none, none, some options, none, some validationRules⟩ w = .ok updated w'

structure Agrees (py : Interpreter) (w : World) (edit : StructuralEdit) : Prop where
  stores_iff : edit.AdminStores py w ↔ edit.ServiceSucceeds py w
  ordered : Ordered (edit.adminAfter py w).db
  compatible : Compatible py (edit.adminAfter py w).db

end StructuralEdit

/-! ## What the services ask -/

/-- The database takes the order, and a changed one passes the revalidation. -/
def OrderAccepted (db : Database) (row : Section) (order : Nat) : Prop :=
  db.sectionConstraints (editedSection row order) = .ok () ∧ (order ≠ row.order →
    revalidateOrderingForSurvey { db with sections := db.sections.save (editedSection row order) } row.surveyId = .ok ())

/-- The stored options can be listed, the database takes the columns, and a changed
type or changed options pass the revalidation. -/
def ColumnsAccepted (py : Interpreter) (db : Database) (row : PlacedField) (fieldType : FieldType)
    (options validationRules : Json) : Prop :=
  ∃ old, listedOptions row = .ok old ∧
    db.fieldConstraints (editedField row fieldType options validationRules) = .ok () ∧
    (fieldType ≠ row.fieldType ∨ options.pyEq (.list old) = false →
      revalidateRulesForField py
        { db with fields := db.fields.save (editedField row fieldType options validationRules) }
        (editedField row fieldType options validationRules) = .ok ())

/-- The order the page stores, where the database takes it, keeps the rules in order;
and an order 0, which the page replaces, is one that the service refuses.  A field is
stored with its old order, so the same is asked of it, and the rules must fit its new
columns. -/
def StructuralEdit.KeepsRules (py : Interpreter) (db : Database) : StructuralEdit → Prop
  | order row newOrder =>
    (db.sectionConstraints (orderedSection db (editedSection row newOrder)) = .ok () →
      Ordered { db with sections := db.sections.save (orderedSection db (editedSection row newOrder)) }) ∧
    (newOrder = 0 → ¬ OrderAccepted db row 0)
  | columns row fieldType options validationRules =>
    let stored := orderedField db (editedField row fieldType options validationRules)
    (db.fieldConstraints stored = .ok () →
      Ordered { db with fields := db.fields.save stored } ∧ Compatible py { db with fields := db.fields.save stored }) ∧
    (row.order ≠ 0 → db.fieldConstraints stored = .ok () → ∃ old, listedOptions row = .ok old) ∧
    (row.order = 0 → ¬ ColumnsAccepted py db row fieldType options validationRules)

section Edits

variable {py : Interpreter} {db : Database} {w : World}

/-! ## Revalidation -/

theorem Ordered.revalidated (ordered : Ordered db) (surveyId : Nat) : revalidateOrderingForSurvey db surveyId = .ok () := by
  refine revalidateOrderingForSurvey_eq_ok_iff.mpr ⟨?_, ?_⟩
  · intro rule stored _ dependsOn found
    exact ordered.rules rule (Table.mem_rows.mpr stored) dependsOn found
  · intro dep stored _ dependsOn dependent found found'
    exact ordered.dependencies dep (Table.mem_rows.mpr stored) dependsOn dependent found found'

theorem Compatible.revalidated {field : Field} (compatible : Compatible py db) (stored : db.fields.get field.id = some field) :
    revalidateRulesForField py db field = .ok () := by
  refine revalidateRulesForField_eq_ok_iff.mpr ⟨?_, ?_, ?_⟩
  · intro rule isRule named
    exact compatible.rules rule (Table.mem_rows.mpr isRule) field (by rw [named, stored])
  · intro dep isSource named
    exact compatible.sources dep (Table.mem_rows.mpr isSource) field (by rw [named, stored])
  · intro dep isTarget named
    exact compatible.targets dep (Table.mem_rows.mpr isTarget) field (by rw [named, stored])

/-! ## The services -/

theorem not_zero_orderOrNext (order : Nat) (orders : List Nat) : orderOrNext order orders ≠ 0 := by
  unfold orderOrNext
  split
  · exact Nat.succ_ne_zero _
  · assumption

theorem updateSection_returns_iff {row : Section} {order : Nat} (stored : w.db.sections.get row.id = some row) :
    (∃ updated w', updateSection row ⟨none, none, some order⟩ w = .ok updated w') ↔ OrderAccepted w.db row order := by
  simp only [updateSection_eq_ok_iff stored]
  constructor
  · intro holds
    obtain ⟨_, _, constraints, checked, _⟩ := holds
    exact ⟨constraints rfl, fun changed => checked (bne_iff_ne.mpr changed)⟩
  · intro accepted
    obtain ⟨constraints, checked⟩ := accepted
    exact ⟨_, _, fun _ => constraints, fun changed => checked (bne_iff_ne.mp changed), rfl, rfl⟩

theorem updateField_returns_iff {row : PlacedField} {fieldType : FieldType} {options validationRules : Json}
    (stored : w.db.fields.get row.id = some row.toField) :
    (∃ updated w', updateField py row ⟨none, some fieldType, none, none, some options, none, some validationRules⟩ w =
      .ok updated w') ↔ ColumnsAccepted py w.db row fieldType options validationRules := by
  have changes_iff (old : List Json) : ChangesTypeOrOptions row old
      ⟨none, some fieldType, none, none, some options, none, some validationRules⟩ ↔
      fieldType ≠ row.fieldType ∨ options.pyEq (.list old) = false := by
    simp [ChangesTypeOrOptions]
  simp only [updateField_eq_ok_iff stored, changes_iff]
  constructor
  · intro holds
    obtain ⟨_, _, old, listed, constraints, checked, _⟩ := holds
    exact ⟨old, listed, constraints rfl, checked⟩
  · intro accepted
    obtain ⟨old, listed, constraints, checked⟩ := accepted
    exact ⟨_, _, old, listed, fun _ => constraints, checked, rfl, rfl⟩

/-! ## The two edits -/

/-- The page stores what the database takes unless the order was 0; the service looks
at the rules too. -/
theorem agreement_iff {stores succeeds kept taken fits zero listed : Prop} (stores_iff : stores ↔ taken ∧ ¬ zero)
    (kept_iff : kept ↔ (taken → fits)) (succeeds_of_fits : ¬ zero → taken → fits → (succeeds ↔ listed))
    (taken_of_succeeds : ¬ zero → succeeds → taken) :
    ((stores ↔ succeeds) ∧ kept) ↔ (taken → fits) ∧ (¬ zero → taken → listed) ∧ (zero → ¬ succeeds) := by
  rw [stores_iff, kept_iff, and_comm]
  refine and_congr_right fun keeps => ?_
  by_cases isZero : zero
  · simp [isZero]
  · simp only [isZero, not_false_eq_true, and_true, true_implies, false_implies]
    constructor
    · intro same isTaken
      exact (succeeds_of_fits isZero isTaken (keeps isTaken)).mp (same.mp isTaken)
    · intro listable
      refine ⟨fun isTaken => ?_, taken_of_succeeds isZero⟩
      exact (succeeds_of_fits isZero isTaken (keeps isTaken)).mpr (listable isTaken)

theorem agrees_iff {edit : StructuralEdit} : edit.Agrees py w ↔ (edit.AdminStores py w ↔ edit.ServiceSucceeds py w) ∧
    (Ordered (edit.adminAfter py w).db ∧ Compatible py (edit.adminAfter py w).db) := by
  constructor
  · intro agrees
    exact ⟨agrees.stores_iff, agrees.ordered, agrees.compatible⟩
  · intro holds
    obtain ⟨stores_iff, ordered, compatible⟩ := holds
    exact ⟨stores_iff, ordered, compatible⟩

theorem orderedSection_of_ne {row : Section} {order : Nat} (given : order ≠ 0) :
    orderedSection db (editedSection row order) = editedSection row order := by
  have kept : orderOrNext order ((db.sectionsOf row.surveyId).map Section.order) = order := if_neg given
  exact congrArg (editedSection row) kept

theorem order_agrees_iff {row : Section} {order : Nat} (ordered : Ordered w.db) (compatible : Compatible py w.db)
    (stored : w.db.sections.get row.id = some row) (draft : IsDraft w.db row.surveyId) :
    (StructuralEdit.order row order).Agrees py w ↔ (StructuralEdit.order row order).KeepsRules py w.db := by
  -- what the hook does, in the two cases
  have saves (taken : w.db.sectionConstraints (orderedSection w.db (editedSection row order)) = .ok ()) :=
    @sectionSave_of_accepted w (sectionForm row order) ⟨draft, taken⟩
  have refuses (notTaken : ¬ w.db.sectionConstraints (orderedSection w.db (editedSection row order)) = .ok ()) :=
    @sectionSave_of_not w (sectionForm row order) fun accepted => notTaken accepted.2
  have stores_iff : (StructuralEdit.order row order).AdminStores py w ↔
      w.db.sectionConstraints (orderedSection w.db (editedSection row order)) = .ok () ∧ ¬ order = 0 := by
    refine (savedAs_iff saves refuses).trans (and_congr_right fun _ => ⟨fun holds isZero => ?_, fun given => ?_⟩)
    · have same : order = orderOrNext order _ := congrArg Section.order holds.1
      exact not_zero_orderOrNext order _ (same.symm.trans isZero)
    · have kept : orderedSection w.db (editedSection row order) = editedSection row order := orderedSection_of_ne given
      exact ⟨kept.symm, (Table.get_save _ _ _).trans ((if_pos rfl).trans (congrArg some kept))⟩
  have kept_iff : (Ordered ((StructuralEdit.order row order).adminAfter py w).db ∧
      Compatible py ((StructuralEdit.order row order).adminAfter py w).db) ↔
      (w.db.sectionConstraints (orderedSection w.db (editedSection row order)) = .ok () →
        Ordered { w.db with sections := w.db.sections.save (orderedSection w.db (editedSection row order)) }) := by
    by_cases taken : w.db.sectionConstraints (orderedSection w.db (editedSection row order)) = .ok ()
    · rw [StructuralEdit.adminAfter, (saves taken).final_db, imp_iff_right taken]
      -- no field changed
      exact and_iff_left ⟨compatible.rules, compatible.sources, compatible.targets⟩
    · rw [StructuralEdit.adminAfter, (refuses taken).final_eq]
      exact iff_of_true ⟨ordered, compatible⟩ fun is => absurd is taken
  have succeeds_iff : (StructuralEdit.order row order).ServiceSucceeds py w ↔ OrderAccepted w.db row order :=
    updateSection_returns_iff stored
  rw [agrees_iff, succeeds_iff, @agreement_iff _ _ _ _ _ _ True stores_iff kept_iff, StructuralEdit.KeepsRules]
  · simp only [implies_true, true_and]
    refine and_congr_right fun _ => forall_congr' fun isZero => ?_
    rw [isZero]
  · intro given taken fits
    rw [orderedSection_of_ne given] at taken fits
    exact iff_of_true ⟨taken, fun _ => fits.revalidated row.surveyId⟩ trivial
  · intro given accepted
    rw [orderedSection_of_ne given]
    exact accepted.1

theorem orderedField_of_ne {row : PlacedField} {fieldType : FieldType} {options validationRules : Json}
    (given : row.order ≠ 0) : orderedField db (editedField row fieldType options validationRules) =
      editedField row fieldType options validationRules := by
  have kept : orderOrNext row.order ((db.fieldsOf row.sectionId).map Field.order) = row.order := if_neg given
  exact congrArg (fun order => { editedField row fieldType options validationRules with order }) kept

theorem columns_agrees_iff {row : PlacedField} {fieldType : FieldType} {options validationRules : Json}
    (ordered : Ordered w.db) (compatible : Compatible py w.db)
    (allowed : (StructuralEdit.columns row fieldType options validationRules).Allowed py w.db) :
    (StructuralEdit.columns row fieldType options validationRules).Agrees py w ↔
      (StructuralEdit.columns row fieldType options validationRules).KeepsRules py w.db := by
  obtain ⟨placed, draft, validOptions, validRules⟩ := allowed
  obtain ⟨stored, parent⟩ := Database.placedField_eq_some.mp placed
  have valid : validateFieldColumns py (editedField row fieldType options validationRules) = .ok () :=
    seq_eq_ok.mpr ⟨validOptions, validRules⟩
  have inDraft : InDraft w.db row.sectionId := ⟨row.sectionRow, parent, draft⟩
  -- what the hook does, in the two cases
  have saves (taken : w.db.fieldConstraints (orderedField w.db (editedField row fieldType options validationRules)) =
      .ok ()) :=
    @fieldSave_of_accepted py w (fieldForm row fieldType options validationRules) ⟨inDraft, valid, taken⟩
  have refuses (notTaken : ¬ w.db.fieldConstraints (orderedField w.db (editedField row fieldType options
      validationRules)) = .ok ()) :=
    @fieldSave_of_not py w (fieldForm row fieldType options validationRules) fun accepted => notTaken accepted.2.2
  have stores_iff : (StructuralEdit.columns row fieldType options validationRules).AdminStores py w ↔
      w.db.fieldConstraints (orderedField w.db (editedField row fieldType options validationRules)) = .ok () ∧
        ¬ row.order = 0 := by
    refine (savedAs_iff saves refuses).trans (and_congr_right fun _ => ⟨fun holds isZero => ?_, fun given => ?_⟩)
    · have same : row.order = orderOrNext row.order _ := congrArg Field.order holds.1
      exact not_zero_orderOrNext row.order _ (same.symm.trans isZero)
    · have kept : orderedField w.db (editedField row fieldType options validationRules) = _ := orderedField_of_ne given
      exact ⟨kept.symm, (Table.get_save _ _ _).trans ((if_pos rfl).trans (congrArg some kept))⟩
  have kept_iff : (Ordered ((StructuralEdit.columns row fieldType options validationRules).adminAfter py w).db ∧
      Compatible py ((StructuralEdit.columns row fieldType options validationRules).adminAfter py w).db) ↔
      (w.db.fieldConstraints (orderedField w.db (editedField row fieldType options validationRules)) = .ok () →
        Ordered { w.db with
          fields := w.db.fields.save (orderedField w.db (editedField row fieldType options validationRules)) } ∧
        Compatible py { w.db with
          fields := w.db.fields.save (orderedField w.db (editedField row fieldType options validationRules)) }) := by
    by_cases taken : w.db.fieldConstraints (orderedField w.db (editedField row fieldType options validationRules)) =
      .ok ()
    · rw [StructuralEdit.adminAfter, (saves taken).final_db, imp_iff_right taken]
      exact Iff.rfl
    · rw [StructuralEdit.adminAfter, (refuses taken).final_eq]
      exact iff_of_true ⟨ordered, compatible⟩ fun is => absurd is taken
  have succeeds_iff : (StructuralEdit.columns row fieldType options validationRules).ServiceSucceeds py w ↔
      ColumnsAccepted py w.db row fieldType options validationRules := updateField_returns_iff stored
  rw [agrees_iff, succeeds_iff,
    @agreement_iff _ _ _ _ _ _ (∃ old, listedOptions row = .ok old) stores_iff kept_iff]
  · exact Iff.rfl
  · intro given taken fits
    rw [orderedField_of_ne given] at taken fits
    constructor
    · intro accepted
      exact accepted.imp fun _ holds => holds.1
    · intro listed
      obtain ⟨old, listed⟩ := listed
      exact ⟨old, listed, taken, fun _ => fits.2.revalidated ((Table.get_save _ _ _).trans (if_pos rfl))⟩
  · intro given accepted
    rw [orderedField_of_ne given]
    exact accepted.choose_spec.2.1

/-- An edit is stored by the admin page exactly when the service succeeds, and leaves
every rule valid, exactly when it keeps the rules. -/
theorem edit_agrees_iff {edit : StructuralEdit} (ordered : Ordered w.db) (compatible : Compatible py w.db)
    (allowed : edit.Allowed py w.db) : edit.Agrees py w ↔ edit.KeepsRules py w.db := by
  cases edit with
  | order row newOrder => exact order_agrees_iff ordered compatible allowed.1 allowed.2
  | columns row fieldType options validationRules => exact columns_agrees_iff ordered compatible allowed

end Edits

/-! ## Edits of the small draft -/

theorem ordered_of_single {db : Database} {rule : ConditionalRule} {dep : FieldDependency}
    (onlyRule : db.conditionalRules.rows = [rule]) (onlyDependency : db.fieldDependencies.rows = [dep])
    (ruleOrdered : ∀ dependsOn, db.placedField rule.dependsOnFieldId = some dependsOn →
      validateOrderingConstraint dependsOn (rule.targetSectionId.bind db.sections.get)
        (rule.targetFieldId.bind db.placedField) = .ok ())
    (dependencyOrdered : ∀ dependsOn dependent, db.placedField dep.dependsOnFieldId = some dependsOn →
      db.placedField dep.dependentFieldId = some dependent → validateFdOrderingConstraint dependsOn dependent = .ok ()) :
    Ordered db := by
  constructor
  · intro other member
    rw [onlyRule, List.mem_singleton] at member
    exact member ▸ ruleOrdered
  · intro other member
    rw [onlyDependency, List.mem_singleton] at member
    exact member ▸ dependencyOrdered

theorem compatible_of_single {py : Interpreter} {db : Database} {rule : ConditionalRule} {dep : FieldDependency}
    (onlyRule : db.conditionalRules.rows = [rule]) (onlyDependency : db.fieldDependencies.rows = [dep])
    (ruleFits : ∀ field, db.fields.get rule.dependsOnFieldId = some field →
      validateOperatorValue py field rule.operator rule.value = .ok ())
    (sourceFits : ∀ field, db.fields.get dep.dependsOnFieldId = some field →
      validateOperatorValue py field dep.operator dep.value = .ok ())
    (targetFits : ∀ field, db.fields.get dep.dependentFieldId = some field →
      validateActionValue py dep.action dep.actionValue field = .ok ()) : Compatible py db := by
  constructor
  · intro other member
    rw [onlyRule, List.mem_singleton] at member
    exact member ▸ ruleFits
  · intro other member
    rw [onlyDependency, List.mem_singleton] at member
    exact member ▸ sourceFits
  · intro other member
    rw [onlyDependency, List.mem_singleton] at member
    exact member ▸ targetFits

theorem draftDatabase_ordered : Ordered draftDatabase := by
  refine ordered_of_single rfl rfl ?_ ?_
  · rintro _ ⟨⟩
    rfl
  · rintro _ _ ⟨⟩ ⟨⟩
    rfl

theorem draftDatabase_compatible : Compatible bareInterpreter draftDatabase := by
  refine compatible_of_single rfl rfl ?_ ?_ ?_ <;>
  · rintro _ ⟨⟩
    rfl

/-- The second section is moved further back. -/
theorem edit_agrees_later : (StructuralEdit.order ⟨2, 1, "Habits", "", 2⟩ 3).Agrees bareInterpreter draftWorld := by
  have allowed : (StructuralEdit.order ⟨2, 1, "Habits", "", 2⟩ 3).Allowed bareInterpreter draftWorld.db :=
    ⟨rfl, _, rfl, rfl⟩
  refine (edit_agrees_iff draftDatabase_ordered draftDatabase_compatible allowed).mpr ⟨fun _ => ?_, ?_⟩
  · refine ordered_of_single rfl rfl ?_ ?_
    · rintro _ ⟨⟩
      rfl
    · rintro _ _ ⟨⟩ ⟨⟩
      rfl
  · exact fun isZero => absurd isZero (by decide)

/-- The first section is moved behind the second, whose rule reads it. -/
theorem edit_disagrees_behind : Ordered draftDatabase ∧ Compatible bareInterpreter draftDatabase ∧
    (StructuralEdit.order ⟨1, 1, "You", "", 1⟩ 3).Allowed bareInterpreter draftDatabase ∧
    (StructuralEdit.order ⟨1, 1, "You", "", 1⟩ 3).AdminStores bareInterpreter draftWorld ∧
    ¬ (StructuralEdit.order ⟨1, 1, "You", "", 1⟩ 3).ServiceSucceeds bareInterpreter draftWorld ∧
    ¬ Ordered ((StructuralEdit.order ⟨1, 1, "You", "", 1⟩ 3).adminAfter bareInterpreter draftWorld).db := by
  refine ⟨draftDatabase_ordered, draftDatabase_compatible, ⟨rfl, _, rfl, rfl⟩, ⟨_, ⟨_, rfl, rfl⟩, rfl⟩, ?_, ?_⟩
  · intro succeeds
    obtain ⟨_, _, result⟩ := succeeds
    cases result
  · intro ordered
    have passed := ordered.rules ⟨1, 1, none, some 2, 1, .equals, .str "a"⟩ (Table.mem_rows.mpr rfl) _ rfl
    cases passed

end SurveyPlatform.Verified

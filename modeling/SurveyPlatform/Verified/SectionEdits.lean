import SurveyPlatform.Verified.FieldEdits

/-! # Editing a section

`update_section` writes the row first and asks the rules afterwards, in one
transaction.  For a survey whose rules and dependencies all carry it in their
survey column, the ones it asks are the ones a new order can break, so the edit
is stored with every rule still in order, or leaves no trace
(`updateSection_allOrNothing`).
-/

namespace SurveyPlatform.Verified

open SurveyPlatform.Library SurveyPlatform.Library.Program SurveyPlatform.Python SurveyPlatform.Surveys

/-! ## The rules of a survey -/

def FieldIn (db : Database) (surveyId id : Nat) : Prop :=
  ∃ field, db.placedField id = some field ∧ field.surveyId = surveyId

def SectionIn (db : Database) (surveyId id : Nat) : Prop :=
  ∃ row, db.sections.get id = some row ∧ row.surveyId = surveyId

/-- A rule belongs to a survey by its column, or by what it names. -/
def RuleOf (db : Database) (surveyId : Nat) (rule : ConditionalRule) : Prop :=
  rule.surveyId = surveyId ∨ FieldIn db surveyId rule.dependsOnFieldId ∨
    (∃ id, rule.targetSectionId = some id ∧ SectionIn db surveyId id) ∨
      ∃ id, rule.targetFieldId = some id ∧ FieldIn db surveyId id

def DependencyOf (db : Database) (surveyId : Nat) (dep : FieldDependency) : Prop :=
  dep.surveyId = surveyId ∨ FieldIn db surveyId dep.dependsOnFieldId ∨ FieldIn db surveyId dep.dependentFieldId

/-- Every rule and dependency of the survey has it in the column and passes its ordering validator. -/
structure RulesInOrder (db : Database) (surveyId : Nat) : Prop where
  rules : ∀ rule, db.conditionalRules.get rule.id = some rule → RuleOf db surveyId rule →
    rule.surveyId = surveyId ∧ checkRuleOrdering db rule = .ok ()
  dependencies : ∀ dep, db.fieldDependencies.get dep.id = some dep → DependencyOf db surveyId dep →
    dep.surveyId = surveyId ∧ checkDependencyOrdering db dep = .ok ()

/-- `unique_together = [("survey", "order")]`, for one survey. -/
def DistinctOrders (db : Database) (surveyId : Nat) : Prop :=
  ∀ a b, db.sections.get a.id = some a → db.sections.get b.id = some b → a.surveyId = surveyId →
    b.surveyId = surveyId → a.order = b.order → a = b

/-- What a successful edit leaves: the columns of one row, and no cache entry. -/
structure SectionEdited (current : Section) (data : SectionData) (w w' : World) : Prop where
  stored : w'.db = { w.db with sections := w.db.sections.save (data.assign current) }
  distinct : DistinctOrders w'.db current.surveyId
  inOrder : RulesInOrder w'.db current.surveyId
  cleared : w'.cache (structureKey (toString current.surveyId)) = none
  otherEntries : ∀ key, key ≠ structureKey (toString current.surveyId) → w'.cache key = w.cache key

/-! ## The edited section -/

/-- The field with the new row of its section. -/
def resectioned (edited : Section) (field : PlacedField) : PlacedField :=
  if same : edited.id = field.sectionId then ⟨field.toField, edited, same⟩ else field

section Edits

variable {db : Database} {current : Section} {data : SectionData} {surveyId : Nat}

theorem sections_sectionEdited (id : Nat) : (sectionEdited db current data).sections.get id =
    if id = current.id then some (data.assign current) else db.sections.get id := Table.get_save _ _ _

theorem toField_resectioned (edited : Section) (field : PlacedField) :
    (resectioned edited field).toField = field.toField := by
  unfold resectioned
  split <;> rfl

theorem sectionRow_resectioned (edited : Section) (field : PlacedField) :
    (resectioned edited field).sectionRow = if edited.id = field.sectionRow.id then edited else field.sectionRow := by
  rw [field.placed]
  unfold resectioned
  split <;> rfl

theorem placedField_sectionEdited {id : Nat} {field : PlacedField} (placed : db.placedField id = some field) :
    (sectionEdited db current data).placedField id = some (resectioned (data.assign current) field) := by
  obtain ⟨found, parent⟩ := Database.placedField_eq_some.mp placed
  refine Database.placedField_eq_some.mpr ⟨?_, ?_⟩
  · rw [toField_resectioned]
    exact found
  · rw [toField_resectioned, sections_sectionEdited, sectionRow_resectioned, parent, field.placed]
    split
    · rename_i same
      rw [if_pos (show (data.assign current).id = field.sectionId from same.symm)]
    · rename_i different
      rw [if_neg (fun same => different same.symm)]

/-- The edit takes no section to another survey. -/
theorem surveyId_resectioned {id : Nat} {field : PlacedField} (stored : db.sections.get current.id = some current)
    (placed : db.placedField id = some field) :
    (resectioned (data.assign current) field).surveyId = field.surveyId := by
  rw [PlacedField.surveyId, PlacedField.surveyId, sectionRow_resectioned]
  split
  · rename_i same
    have parent := (Database.placedField_eq_some.mp placed).2
    rw [← field.placed, ← same, show (data.assign current).id = current.id from rfl, stored, Option.some.injEq] at parent
    rw [← parent]
    rfl
  · rfl

theorem placedField_of_sectionEdited {id : Nat} {edited : PlacedField} (stored : db.sections.get current.id = some current)
    (placed : (sectionEdited db current data).placedField id = some edited) : ∃ field, db.placedField id = some field := by
  obtain ⟨found, parent⟩ := Database.placedField_eq_some.mp placed
  rw [sections_sectionEdited] at parent
  split at parent
  · rename_i same
    refine ⟨⟨edited.toField, current, same.symm⟩, Database.placedField_eq_some.mpr ⟨found, ?_⟩⟩
    show db.sections.get edited.sectionId = some current
    rw [same]
    exact stored
  · exact ⟨edited, Database.placedField_eq_some.mpr ⟨found, parent⟩⟩

theorem fieldIn_of_sectionEdited {id : Nat} (stored : db.sections.get current.id = some current)
    (isIn : FieldIn (sectionEdited db current data) surveyId id) : FieldIn db surveyId id := by
  obtain ⟨edited, placed, inSurvey⟩ := isIn
  obtain ⟨field, placed'⟩ := placedField_of_sectionEdited stored placed
  rw [placedField_sectionEdited placed', Option.some.injEq] at placed
  refine ⟨field, placed', ?_⟩
  rw [← inSurvey, ← placed, surveyId_resectioned stored placed']

theorem sectionIn_of_sectionEdited {id : Nat} (stored : db.sections.get current.id = some current)
    (isIn : SectionIn (sectionEdited db current data) surveyId id) : SectionIn db surveyId id := by
  obtain ⟨row, found, inSurvey⟩ := isIn
  rw [sections_sectionEdited] at found
  split at found
  · rename_i same
    cases found
    exact ⟨current, same ▸ stored, inSurvey⟩
  · exact ⟨row, found, inSurvey⟩

theorem ruleOf_of_sectionEdited {rule : ConditionalRule} (stored : db.sections.get current.id = some current)
    (ruleOf : RuleOf (sectionEdited db current data) surveyId rule) : RuleOf db surveyId rule := by
  obtain column | source | ⟨id, isTarget, target⟩ | ⟨id, isTarget, target⟩ := ruleOf
  · exact Or.inl column
  · exact Or.inr (Or.inl (fieldIn_of_sectionEdited stored source))
  · exact Or.inr (Or.inr (Or.inl ⟨id, isTarget, sectionIn_of_sectionEdited stored target⟩))
  · exact Or.inr (Or.inr (Or.inr ⟨id, isTarget, fieldIn_of_sectionEdited stored target⟩))

theorem dependencyOf_of_sectionEdited {dep : FieldDependency} (stored : db.sections.get current.id = some current)
    (dependencyOf : DependencyOf (sectionEdited db current data) surveyId dep) : DependencyOf db surveyId dep := by
  obtain column | source | target := dependencyOf
  · exact Or.inl column
  · exact Or.inr (Or.inl (fieldIn_of_sectionEdited stored source))
  · exact Or.inr (Or.inr (fieldIn_of_sectionEdited stored target))

/-! ## The same order -/

theorem sectionOrder_resectioned {id : Nat} {field : PlacedField} (stored : db.sections.get current.id = some current)
    (sameOrder : (data.assign current).order = current.order) (placed : db.placedField id = some field) :
    (resectioned (data.assign current) field).sectionRow.order = field.sectionRow.order := by
  rw [sectionRow_resectioned]
  split
  · rename_i same
    have parent := (Database.placedField_eq_some.mp placed).2
    rw [← field.placed, ← same, show (data.assign current).id = current.id from rfl, stored, Option.some.injEq] at parent
    rw [sameOrder, parent]
  · rfl

theorem fieldBefore_resectioned {i j : Nat} {a b : PlacedField} (stored : db.sections.get current.id = some current)
    (sameOrder : (data.assign current).order = current.order) (isA : db.placedField i = some a)
    (isB : db.placedField j = some b) (before : FieldBefore a b) :
    FieldBefore (resectioned (data.assign current) a) (resectioned (data.assign current) b) := by
  rw [FieldBefore] at before ⊢
  simp only [PlacedField.placed, toField_resectioned, sectionOrder_resectioned stored sameOrder isA,
    sectionOrder_resectioned stored sameOrder isB] at before ⊢
  exact before

theorem checkRuleOrdering_sectionEdited {rule : ConditionalRule} (stored : db.sections.get current.id = some current)
    (sameOrder : (data.assign current).order = current.order) (passed : checkRuleOrdering db rule = .ok ()) :
    checkRuleOrdering (sectionEdited db current data) rule = .ok () := by
  obtain ⟨dependsOn, source, bySection, byField⟩ := checkRuleOrdering_iff.mp passed
  refine checkRuleOrdering_iff.mpr ⟨_, placedField_sectionEdited source, fun id isTarget => ?_, fun id isTarget => ?_⟩
  · obtain ⟨target, found, before⟩ := bySection id isTarget
    rw [sections_sectionEdited, sectionOrder_resectioned stored sameOrder source]
    split
    · rename_i same
      rw [same, stored, Option.some.injEq] at found
      exact ⟨_, rfl, sameOrder.symm ▸ found ▸ before⟩
    · exact ⟨target, found, before⟩
  · obtain ⟨target, found, before⟩ := byField id isTarget
    exact ⟨_, placedField_sectionEdited found, fieldBefore_resectioned stored sameOrder source found before⟩

theorem checkDependencyOrdering_sectionEdited {dep : FieldDependency} (stored : db.sections.get current.id = some current)
    (sameOrder : (data.assign current).order = current.order) (passed : checkDependencyOrdering db dep = .ok ()) :
    checkDependencyOrdering (sectionEdited db current data) dep = .ok () := by
  obtain ⟨a, b, isA, isB, before⟩ := checkDependencyOrdering_eq_ok.mp passed
  exact checkDependencyOrdering_eq_ok.mpr ⟨_, _, placedField_sectionEdited isA, placedField_sectionEdited isB,
    fieldBefore_resectioned stored sameOrder isA isB before⟩

/-! ## A new order -/

/-- The rows a rule names are still there, so the revalidation asks the whole check. -/
theorem checkRuleOrdering_of_revalidated {rule : ConditionalRule}
    (revalidated : revalidateOrderingForSurvey (sectionEdited db current data) surveyId = .ok ())
    (isStored : db.conditionalRules.get rule.id = some rule) (column : rule.surveyId = surveyId)
    (passed : checkRuleOrdering db rule = .ok ()) :
    checkRuleOrdering (sectionEdited db current data) rule = .ok () := by
  obtain ⟨dependsOn, source, bySection, byField⟩ := checkRuleOrdering_iff.mp passed
  have recheck := (revalidateOrderingForSurvey_eq_ok_iff.mp revalidated).1 rule isStored column _
    (placedField_sectionEdited source)
  rw [validateOrderingConstraint_eq_ok] at recheck
  refine checkRuleOrdering_iff.mpr ⟨_, placedField_sectionEdited source, fun id isTarget => ?_, fun id isTarget => ?_⟩
  · obtain ⟨target, found, _⟩ := bySection id isTarget
    rw [isTarget, Option.bind_some] at recheck
    have there : ∃ edited, (sectionEdited db current data).sections.get id = some edited := by
      rw [sections_sectionEdited]
      split
      · exact ⟨_, rfl⟩
      · exact ⟨target, found⟩
    obtain ⟨edited, found'⟩ := there
    exact ⟨edited, found', recheck.1 edited found'⟩
  · obtain ⟨target, found, _⟩ := byField id isTarget
    rw [isTarget, Option.bind_some] at recheck
    exact ⟨_, placedField_sectionEdited found, recheck.2 _ (placedField_sectionEdited found)⟩

theorem checkDependencyOrdering_of_revalidated {dep : FieldDependency}
    (revalidated : revalidateOrderingForSurvey (sectionEdited db current data) surveyId = .ok ())
    (isStored : db.fieldDependencies.get dep.id = some dep) (column : dep.surveyId = surveyId)
    (passed : checkDependencyOrdering db dep = .ok ()) :
    checkDependencyOrdering (sectionEdited db current data) dep = .ok () := by
  obtain ⟨a, b, isA, isB, _⟩ := checkDependencyOrdering_eq_ok.mp passed
  have recheck := (revalidateOrderingForSurvey_eq_ok_iff.mp revalidated).2 dep isStored column _ _
    (placedField_sectionEdited isA) (placedField_sectionEdited isB)
  rw [validateFdOrderingConstraint, requireFieldBefore_eq_ok] at recheck
  exact checkDependencyOrdering_eq_ok.mpr ⟨_, _, placedField_sectionEdited isA, placedField_sectionEdited isB, recheck⟩

theorem rulesInOrder_sectionEdited (stored : db.sections.get current.id = some current)
    (inOrder : RulesInOrder db surveyId)
    (checked : (data.assign current).order ≠ current.order →
      revalidateOrderingForSurvey (sectionEdited db current data) surveyId = .ok ()) :
    RulesInOrder (sectionEdited db current data) surveyId := by
  refine ⟨fun rule isStored ruleOf => ?_, fun dep isStored dependencyOf => ?_⟩
  · obtain ⟨column, passed⟩ := inOrder.rules rule isStored (ruleOf_of_sectionEdited stored ruleOf)
    refine ⟨column, ?_⟩
    by_cases sameOrder : (data.assign current).order = current.order
    · exact checkRuleOrdering_sectionEdited stored sameOrder passed
    · exact checkRuleOrdering_of_revalidated (checked sameOrder) isStored column passed
  · obtain ⟨column, passed⟩ := inOrder.dependencies dep isStored (dependencyOf_of_sectionEdited stored dependencyOf)
    refine ⟨column, ?_⟩
    by_cases sameOrder : (data.assign current).order = current.order
    · exact checkDependencyOrdering_sectionEdited stored sameOrder passed
    · exact checkDependencyOrdering_of_revalidated (checked sameOrder) isStored column passed

/-! ## Distinct orders -/

theorem order_unique_of_constraints {row other : Section} (checked : db.sectionConstraints row = .ok ())
    (isStored : db.sections.get other.id = some other) (sameSurvey : other.surveyId = row.surveyId)
    (sameOrder : other.order = row.order) : other.id = row.id := by
  by_contra different
  have taken : (db.sections.rows.any fun other =>
      other.id != row.id && other.surveyId == row.surveyId && other.order == row.order) = true := by
    refine List.any_eq_true.mpr ⟨other, Table.mem_rows.mpr isStored, ?_⟩
    simp [different, sameSurvey, sameOrder]
  rw [Database.sectionConstraints, taken] at checked
  split at checked
  · cases checked
  · obtain ⟨_, _, raised⟩ := bind_eq_ok.mp checked
    cases raised

theorem distinctOrders_sectionEdited (stored : db.sections.get current.id = some current)
    (distinct : DistinctOrders db current.surveyId)
    (checked : data.isEmpty = false → db.sectionConstraints (data.assign current) = .ok ()) :
    DistinctOrders (sectionEdited db current data) current.surveyId := by
  cases isEmpty : data.isEmpty with
  | true =>
    have unchanged : sectionEdited db current data = db := by
      rw [sectionEdited, SectionData.assign_of_isEmpty isEmpty, Table.save_eq_self stored]
    rwa [unchanged]
  | false =>
    -- the constraint compares the new row with the others; the others have not changed
    have unique := fun other => @order_unique_of_constraints db (data.assign current) other (checked isEmpty)
    intro a b isA isB inA inB sameOrder
    rw [sections_sectionEdited] at isA isB
    split at isA <;> split at isB
    · cases isA
      cases isB
      rfl
    · rename_i different
      cases isA
      exact absurd (unique b isB inB sameOrder.symm) different
    · rename_i different _
      cases isB
      exact absurd (unique a isA inA sameOrder) different
    · exact distinct a b isA isB inA inB sameOrder

end Edits

/-! ## The update -/

/-- The edit is stored with everything still in order, or leaves the rows and the cache as they were. -/
theorem updateSection_allOrNothing {w : World} {current : Section} (data : SectionData)
    (stored : w.db.sections.get current.id = some current) (distinct : DistinctOrders w.db current.surveyId)
    (inOrder : RulesInOrder w.db current.surveyId) :
    (∃ w', updateSection current data w = .ok (data.assign current) w' ∧ SectionEdited current data w w') ∨
      ∃ exn, updateSection current data w = .error exn w := by
  cases result : updateSection current data w with
  | error exn w' =>
    rw [updateSection_eq_error result]
    exact Or.inr ⟨exn, rfl⟩
  | ok updated w' =>
    obtain ⟨constraints, checked, rfl, rfl⟩ := (updateSection_eq_ok_iff stored).mp result
    refine Or.inl ⟨_, rfl, rfl, distinctOrders_sectionEdited stored distinct constraints, ?_, if_pos rfl,
      fun key other => if_neg other⟩
    refine rulesInOrder_sectionEdited stored inOrder fun newOrder => checked ?_
    rw [SectionData.assign] at newOrder
    cases submitted : data.order with
    | none =>
      rw [submitted, Option.getD_none] at newOrder
      exact absurd rfl newOrder
    | some order =>
      rw [submitted, Option.getD_some] at newOrder
      exact bne_iff_ne.mpr newOrder

/-! ## The sections of the small draft -/

theorem draftDatabase_rulesInOrder : RulesInOrder draftDatabase 1 := by
  refine ⟨fun rule stored _ => ?_, fun dep stored _ => ?_⟩
  · cases List.mem_singleton.mp (show rule ∈ [_] from Table.mem_rows.mpr stored)
    exact ⟨rfl, rfl⟩
  · cases List.mem_singleton.mp (show dep ∈ [_] from Table.mem_rows.mpr stored)
    exact ⟨rfl, rfl⟩

theorem draftDatabase_distinctOrders : DistinctOrders draftDatabase 1 := by
  have rows : ∀ row, draftDatabase.sections.get row.id = some row →
      row = ⟨1, 1, "You", "", 1⟩ ∨ row = ⟨2, 1, "Habits", "", 2⟩ := by
    intro row stored
    have isRow : row ∈ [_, _] := Table.mem_rows.mpr stored
    rwa [List.mem_pair] at isRow
  intro a b isA isB _ _ sameOrder
  obtain rfl | rfl := rows a isA
  · obtain rfl | rfl := rows b isB
    · rfl
    · cases sameOrder
  · obtain rfl | rfl := rows b isB
    · cases sameOrder
    · rfl

def newSectionOrder (order : Nat) : SectionData := ⟨none, none, some order⟩

/-- The section of the first dropdown cannot go behind the second, but may start at 0. -/
theorem updateSection_allOrNothing_draft :
    (∃ exn, updateSection ⟨1, 1, "You", "", 1⟩ (newSectionOrder 3) draftWorld = .error exn draftWorld) ∧
      ∃ w', updateSection ⟨1, 1, "You", "", 1⟩ (newSectionOrder 0) draftWorld = .ok ⟨1, 1, "You", "", 0⟩ w' ∧
        SectionEdited ⟨1, 1, "You", "", 1⟩ (newSectionOrder 0) draftWorld w' := by
  have ends := fun order => @updateSection_allOrNothing draftWorld ⟨1, 1, "You", "", 1⟩ (newSectionOrder order) rfl
    draftDatabase_distinctOrders draftDatabase_rulesInOrder
  refine ⟨(ends 3).resolve_left fun returned => ?_, (ends 0).resolve_right fun raised => ?_⟩
  · obtain ⟨_, returned, _⟩ := returned
    cases returned
  · obtain ⟨_, raised⟩ := raised
    cases raised

end SurveyPlatform.Verified

import SurveyPlatform.Verified.DefinitionOrder
import SurveyPlatform.Verified.EditEffects

/-! # Editing a field

`update_field` looks at the rules again when the type or the options change,
never when the order does.  So the rules stay in order exactly when the new
order is on the same side of every field of the section that a rule or
dependency links with this one (`updateField_keepsOrder_iff`).
-/

namespace SurveyPlatform.Verified

open SurveyPlatform.Library SurveyPlatform.Library.Program SurveyPlatform.Python SurveyPlatform.Surveys

/-! ## Links -/

/-- A rule or dependency of the survey reads the first field to show or change the second. -/
def LinksFields (db : Database) (surveyId source target : Nat) : Prop :=
  (∃ rule, db.conditionalRules.get rule.id = some rule ∧ rule.surveyId = surveyId ∧
    rule.dependsOnFieldId = source ∧ rule.targetFieldId = some target) ∨
  ∃ dep, db.fieldDependencies.get dep.id = some dep ∧ dep.surveyId = surveyId ∧
    dep.dependsOnFieldId = source ∧ dep.dependentFieldId = target

/-- The order lies before the fields of the section that read this one, and behind those it reads. -/
def KeepsSides (db : Database) (row : PlacedField) (order : Nat) : Prop :=
  ∀ other, db.placedField other.id = some other → other.sectionId = row.sectionId →
    (LinksFields db row.surveyId row.id other.id → order < other.order) ∧
      (LinksFields db row.surveyId other.id row.id → other.order < order)

/-- Every rule of the survey reads a field in a section before its target section. -/
def SectionTargetsOrdered (db : Database) (surveyId : Nat) : Prop :=
  ∀ rule, db.conditionalRules.get rule.id = some rule → rule.surveyId = surveyId →
    ∃ dependsOn, db.placedField rule.dependsOnFieldId = some dependsOn ∧ ∀ id, rule.targetSectionId = some id →
      ∃ target, db.sections.get id = some target ∧ dependsOn.sectionRow.order < target.order

section Links

variable {db : Database} {surveyId : Nat}

theorem mapM_getRelated_iff {α : Type} {find : Nat → Option α} {id : Option Nat} {property : α → Prop} :
    (∃ row, id.mapM (getRelated find) = .ok row ∧ ∀ found, row = some found → property found) ↔
      ∀ i, id = some i → ∃ found, find i = some found ∧ property found := by
  constructor
  · intro holds i isId
    obtain ⟨row, related, each⟩ := holds
    rw [isId] at related
    obtain ⟨found, isFound, rfl⟩ := mapM_getRelated related
    exact ⟨found, isFound, each found rfl⟩
  · intro holds
    cases id with
    | none => exact ⟨none, rfl, nofun⟩
    | some i =>
      obtain ⟨found, isFound, holds⟩ := holds i rfl
      refine ⟨some found, ?_, ?_⟩
      · rw [Option.mapM_some, getRelated, isFound]
        rfl
      · rintro _ ⟨⟩
        exact holds

theorem checkRuleOrdering_iff {rule : ConditionalRule} : checkRuleOrdering db rule = .ok () ↔
    ∃ dependsOn, db.placedField rule.dependsOnFieldId = some dependsOn ∧
      (∀ id, rule.targetSectionId = some id →
        ∃ target, db.sections.get id = some target ∧ dependsOn.sectionRow.order < target.order) ∧
      ∀ id, rule.targetFieldId = some id → ∃ target, db.placedField id = some target ∧ FieldBefore dependsOn target := by
  rw [checkRuleOrdering_eq_ok]
  refine exists_congr fun dependsOn => ?_
  rw [← mapM_getRelated_iff, ← mapM_getRelated_iff]
  simp only [validateOrderingConstraint_eq_ok]
  constructor
  · intro holds
    obtain ⟨targetSection, targetField, source, isSection, isField, bySection, byField⟩ := holds
    exact ⟨source, ⟨targetSection, isSection, bySection⟩, targetField, isField, byField⟩
  · intro holds
    obtain ⟨source, ⟨targetSection, isSection, bySection⟩, targetField, isField, byField⟩ := holds
    exact ⟨targetSection, targetField, source, isSection, isField, bySection, byField⟩

/-- The order of a survey, link by link. -/
theorem definitionOrdered_iff : DefinitionOrdered db surveyId ↔ SectionTargetsOrdered db surveyId ∧
    ∀ source target, LinksFields db surveyId source target → ∃ a b, db.placedField source = some a ∧
      db.placedField target = some b ∧ FieldBefore a b := by
  constructor
  · intro ordered
    refine ⟨fun rule stored inSurvey => ?_, fun source target links => ?_⟩
    · obtain ⟨dependsOn, source, bySection, _⟩ := checkRuleOrdering_iff.mp (ordered.rules rule stored inSurvey)
      exact ⟨dependsOn, source, bySection⟩
    · obtain ⟨rule, stored, inSurvey, rfl, isTarget⟩ | ⟨dep, stored, inSurvey, rfl, rfl⟩ := links
      · obtain ⟨dependsOn, source, _, byField⟩ := checkRuleOrdering_iff.mp (ordered.rules rule stored inSurvey)
        obtain ⟨field, found, before⟩ := byField target isTarget
        exact ⟨dependsOn, field, source, found, before⟩
      · exact checkDependencyOrdering_eq_ok.mp (ordered.dependencies dep stored inSurvey)
  · intro holds
    obtain ⟨sections, fields⟩ := holds
    refine ⟨fun rule stored inSurvey => ?_, fun dep stored inSurvey => ?_⟩
    · obtain ⟨dependsOn, source, bySection⟩ := sections rule stored inSurvey
      refine checkRuleOrdering_iff.mpr ⟨dependsOn, source, bySection, fun id isTarget => ?_⟩
      obtain ⟨a, b, isSource, found, before⟩ := fields _ _ (Or.inl ⟨rule, stored, inSurvey, rfl, isTarget⟩)
      rw [source, Option.some.injEq] at isSource
      exact ⟨b, found, isSource ▸ before⟩
    · exact checkDependencyOrdering_eq_ok.mpr (fields _ _ (Or.inr ⟨dep, stored, inSurvey, rfl, rfl⟩))

end Links

/-! ## The edited field -/

section Edits

variable {py : Interpreter} {db : Database} {w w' : World} {current : PlacedField} {updated : Field} {data : FieldData}

/-- The field in its section, with the new columns. -/
def reassigned (current : PlacedField) (data : FieldData) : PlacedField :=
  ⟨data.assign current.toField, current.sectionRow, current.placed⟩

theorem placedField_fieldEdited (placed : db.placedField current.id = some current) (id : Nat) :
    (fieldEdited db current data).placedField id =
      if id = current.id then some (reassigned current data) else db.placedField id := by
  have saved : (fieldEdited db current data).fields.get id =
      if id = current.id then some (data.assign current.toField) else db.fields.get id := Table.get_save _ _ _
  split
  · rename_i same
    rw [if_pos same] at saved
    exact Database.placedField_eq_some.mpr ⟨saved, (Database.placedField_eq_some.mp placed).2⟩
  · rename_i different
    rw [if_neg different] at saved
    rw [Database.placedField, saved]
    rfl

/-- An edited field stays in its section, so only the order in it can matter. -/
theorem fieldBefore_reassigned {other : PlacedField} : FieldBefore (reassigned current data) other ↔
    if current.sectionRow.id = other.sectionRow.id then data.order.getD current.order < other.order
    else FieldBefore current other := by
  unfold FieldBefore
  show (if current.sectionRow.id = other.sectionRow.id then _ else _) ↔ _
  split <;> exact Iff.rfl

theorem reassigned_fieldBefore {other : PlacedField} : FieldBefore other (reassigned current data) ↔
    if other.sectionRow.id = current.sectionRow.id then other.order < data.order.getD current.order
    else FieldBefore other current := by
  unfold FieldBefore
  show (if other.sectionRow.id = current.sectionRow.id then _ else _) ↔ _
  split <;> exact Iff.rfl

theorem sectionTargetsOrdered_fieldEdited (placed : db.placedField current.id = some current) {surveyId : Nat}
    (ordered : SectionTargetsOrdered db surveyId) : SectionTargetsOrdered (fieldEdited db current data) surveyId := by
  intro rule stored inSurvey
  obtain ⟨dependsOn, source, bySection⟩ := ordered rule stored inSurvey
  rw [placedField_fieldEdited placed]
  split
  · rename_i same
    rw [same, placed, Option.some.injEq] at source
    subst source
    exact ⟨reassigned current data, rfl, bySection⟩
  · exact ⟨dependsOn, source, bySection⟩

theorem not_fieldBefore_self (field : PlacedField) : ¬ FieldBefore field field := by
  rw [FieldBefore, if_pos rfl]
  exact Nat.lt_irrefl _

/-- The rules of a survey in order stay so exactly when the field keeps its side. -/
theorem fieldEdited_ordered_iff (placed : db.placedField current.id = some current)
    (ordered : DefinitionOrdered db current.surveyId) :
    DefinitionOrdered (fieldEdited db current data) current.surveyId ↔
      KeepsSides db current (data.order.getD current.order) := by
  obtain ⟨sections, fields⟩ := definitionOrdered_iff.mp ordered
  rw [definitionOrdered_iff, and_iff_right (sectionTargetsOrdered_fieldEdited placed sections)]
  -- a field linked with itself would not be in order
  have notSelf : ¬ LinksFields db current.surveyId current.id current.id := by
    intro links
    obtain ⟨a, b, isA, isB, before⟩ := fields _ _ links
    rw [placed, Option.some.injEq] at isA isB
    exact not_fieldBefore_self current (by rwa [← isA, ← isB] at before)
  constructor
  · intro fields' other isOther sameSection
    have inSection : other.sectionRow.id = current.sectionRow.id := by
      rw [other.placed, current.placed, sameSection]
    have different : LinksFields db current.surveyId current.id other.id ∨
        LinksFields db current.surveyId other.id current.id → other.id ≠ current.id := by
      intro links same
      rw [same, or_self] at links
      exact notSelf links
    constructor
    · intro links
      obtain ⟨a, b, isA, isB, before⟩ := fields' _ _ links
      rw [placedField_fieldEdited placed, if_pos rfl, Option.some.injEq] at isA
      rw [placedField_fieldEdited placed, if_neg (different (Or.inl links)), isOther, Option.some.injEq] at isB
      subst isA isB
      rwa [fieldBefore_reassigned, if_pos inSection.symm] at before
    · intro links
      obtain ⟨a, b, isA, isB, before⟩ := fields' _ _ links
      rw [placedField_fieldEdited placed, if_neg (different (Or.inr links)), isOther, Option.some.injEq] at isA
      rw [placedField_fieldEdited placed, if_pos rfl, Option.some.injEq] at isB
      subst isA isB
      rwa [reassigned_fieldBefore, if_pos inSection] at before
  · intro keeps source target links
    obtain ⟨a, b, isA, isB, before⟩ := fields source target links
    have sameA := placedField_id isA
    have sameB := placedField_id isB
    rw [placedField_fieldEdited placed, placedField_fieldEdited placed]
    by_cases isSource : source = current.id
    · have notTarget : target ≠ current.id := fun isTarget => notSelf (by rwa [isSource, isTarget] at links)
      rw [isSource, placed, Option.some.injEq] at isA
      subst isA
      rw [if_pos isSource, if_neg notTarget]
      refine ⟨_, b, rfl, isB, fieldBefore_reassigned.mpr ?_⟩
      split
      · rename_i inSection
        refine (keeps b (sameB ▸ isB) ?_).1 (sameB ▸ isSource ▸ links)
        rw [← b.placed, ← current.placed, inSection]
      · exact before
    · by_cases isTarget : target = current.id
      · rw [isTarget, placed, Option.some.injEq] at isB
        subst isB
        rw [if_neg isSource, if_pos isTarget]
        refine ⟨a, _, isA, rfl, reassigned_fieldBefore.mpr ?_⟩
        split
        · rename_i inSection
          refine (keeps a (sameA ▸ isA) ?_).2 (sameA ▸ isTarget ▸ links)
          rw [← a.placed, ← current.placed, inSection]
        · exact before
      · rw [if_neg isSource, if_neg isTarget]
        exact ⟨a, b, isA, isB, before⟩

/-- An edit that succeeds keeps the rules in order exactly when the field keeps its side. -/
theorem updateField_keepsOrder_iff (placed : w.db.placedField current.id = some current)
    (ordered : DefinitionOrdered w.db current.surveyId) (returned : updateField py current data w = .ok updated w') :
    DefinitionOrdered w'.db current.surveyId ↔ KeepsSides w.db current (data.order.getD current.order) := by
  obtain ⟨_, _, _, _, _, rfl⟩ :=
    (updateField_eq_ok_iff (Database.placedField_eq_some.mp placed).1).mp returned
  exact fieldEdited_ordered_iff placed ordered

end Edits

/-! ## The fields of the small draft -/

def smoker : PlacedField :=
  ⟨⟨1, 1, "Smoker", .dropdown, false, 1, .list [.str "a", .str "b"], false, .object []⟩, ⟨1, 1, "You", "", 1⟩, rfl⟩

def newOrder (order : Nat) : FieldData := ⟨none, none, none, some order, none, none, none⟩

theorem definitionOrdered_of_single {db : Database} {surveyId : Nat} {rule : ConditionalRule} {dep : FieldDependency}
    (rules : db.conditionalRules.rows = [rule]) (dependencies : db.fieldDependencies.rows = [dep])
    (ruleOrdered : checkRuleOrdering db rule = .ok ()) (dependencyOrdered : checkDependencyOrdering db dep = .ok ()) :
    DefinitionOrdered db surveyId := by
  refine ⟨fun other stored _ => ?_, fun other stored _ => ?_⟩
  · have isRule : other ∈ db.conditionalRules.rows := Table.mem_rows.mpr stored
    rw [rules, List.mem_singleton] at isRule
    exact isRule ▸ ruleOrdered
  · have isDependency : other ∈ db.fieldDependencies.rows := Table.mem_rows.mpr stored
    rw [dependencies, List.mem_singleton] at isDependency
    exact isDependency ▸ dependencyOrdered

/-- No rule links two fields of the first section. -/
theorem smoker_keepsSides (order : Nat) : KeepsSides draftDatabase smoker order := by
  intro other isOther inSection
  have row : other.toField ∈ draftDatabase.fields.rows :=
    Table.mem_rows.mpr (Database.placedField_eq_some.mp isOther).1
  have isFirst : other.id = 1 := by
    rcases List.mem_cons.mp (show other.toField ∈ [smoker.toField, _] from row) with same | same
    · rw [same]
      rfl
    · rw [List.mem_singleton.mp same] at inSection
      cases inSection
  have notLinked : ¬ LinksFields draftDatabase 1 1 1 := by
    rintro (⟨rule, stored, _, _, isTarget⟩ | ⟨dep, stored, _, _, isTarget⟩)
    · cases List.mem_singleton.mp (show rule ∈ [_] from Table.mem_rows.mpr stored)
      cases isTarget
    · cases List.mem_singleton.mp (show dep ∈ [_] from Table.mem_rows.mpr stored)
      cases isTarget
  rw [isFirst]
  exact ⟨fun links => absurd links notLinked, fun links => absurd links notLinked⟩

/-- The only field of the first section is moved back. -/
theorem updateField_keepsOrder_alone : ∃ updated w', updateField bareInterpreter smoker (newOrder 3) draftWorld =
    .ok updated w' ∧ DefinitionOrdered w'.db 1 := by
  refine ⟨_, _, rfl, ?_⟩
  exact (@updateField_keepsOrder_iff bareInterpreter draftWorld _ smoker _ (newOrder 3) rfl
    (definitionOrdered_of_single rfl rfl rfl rfl) rfl).mpr (smoker_keepsSides 3)

/-- The second field of the small draft, in the section of the first. -/
def brandBeside : Field := ⟨2, 1, "Brand", .dropdown, false, 2, .list [.str "c", .str "d"], false, .object []⟩

def besideSmoker : World := ⟨{ draftDatabase with fields := draftDatabase.fields.save brandBeside }, fun _ => none⟩

/-- The first field is moved behind the second, which is shown by its answer. -/
theorem updateField_breaksOrder_behind : besideSmoker.db.placedField 1 = some smoker ∧ IsDraft besideSmoker.db 1 ∧
    DefinitionOrdered besideSmoker.db 1 ∧ ∃ updated w',
      updateField bareInterpreter smoker (newOrder 3) besideSmoker = .ok updated w' ∧ ¬ DefinitionOrdered w'.db 1 := by
  refine ⟨rfl, ⟨_, rfl, rfl⟩, definitionOrdered_of_single rfl rfl rfl rfl, _, _, rfl, fun ordered => ?_⟩
  have passed := ordered.rules ⟨1, 1, none, some 2, 1, .equals, .str "a"⟩ rfl rfl
  cases passed

end SurveyPlatform.Verified

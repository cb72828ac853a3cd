import Mathlib.Data.Prod.Lex
import SurveyPlatform.Surveys.Admin
import SurveyPlatform.Verified.CycleDetection
import SurveyPlatform.Verified.RuleValidity

/-! # The order of definition rules out cycles

Fields and sections together: a target waits for the field its rule reads, and a
field for its section.  Where rules and dependencies pass their ordering
validators, the order of the section and then that of the field falls along
every such edge, so there is no cycle, and none comes in with a rule that passes
the same check (`definitionOrder_excludesCycles`).
-/

namespace SurveyPlatform.Verified

open SurveyPlatform.Library SurveyPlatform.Library.Cycles SurveyPlatform.Python SurveyPlatform.Surveys
open Relation (TransGen)

/-! ## The ordering checks of stored rows -/

/-- `validate_ordering_constraint` of a stored rule, with the objects its keys name. -/
def checkRuleOrdering (db : Database) (rule : ConditionalRule) : Except PyExn Unit := do
  let dependsOn ← getRelated db.placedField rule.dependsOnFieldId
  let targetSection ← rule.targetSectionId.mapM (getRelated db.sections.get)
  let targetField ← rule.targetFieldId.mapM (getRelated db.placedField)
  validateOrderingConstraint dependsOn targetSection targetField

/-- `validate_fd_ordering_constraint` of a stored dependency. -/
def checkDependencyOrdering (db : Database) (dep : FieldDependency) : Except PyExn Unit := do
  let dependsOn ← getRelated db.placedField dep.dependsOnFieldId
  let dependent ← getRelated db.placedField dep.dependentFieldId
  validateFdOrderingConstraint dependsOn dependent

/-- Every rule and dependency of the survey passes its ordering validator. -/
structure DefinitionOrdered (db : Database) (surveyId : Nat) : Prop where
  rules : ∀ rule, db.conditionalRules.get rule.id = some rule → rule.surveyId = surveyId →
    checkRuleOrdering db rule = .ok ()
  dependencies : ∀ dep, db.fieldDependencies.get dep.id = some dep → dep.surveyId = surveyId →
    checkDependencyOrdering db dep = .ok ()

/-! ## The combined graph -/

inductive StructureNode where
  | field (id : Nat)
  | «section» (id : Nat)

/-- What must be shown before what. -/
inductive Requires (db : Database) (surveyId : Nat) : StructureNode → StructureNode → Prop where
  | targetField {rule : ConditionalRule} {target : Nat} (stored : db.conditionalRules.get rule.id = some rule)
    (inSurvey : rule.surveyId = surveyId) (isTarget : rule.targetFieldId = some target) :
    Requires db surveyId (.field target) (.field rule.dependsOnFieldId)
  | targetSection {rule : ConditionalRule} {target : Nat} (stored : db.conditionalRules.get rule.id = some rule)
    (inSurvey : rule.surveyId = surveyId) (isTarget : rule.targetSectionId = some target) :
    Requires db surveyId (.section target) (.field rule.dependsOnFieldId)
  | dependentField {dep : FieldDependency} (stored : db.fieldDependencies.get dep.id = some dep)
    (inSurvey : dep.surveyId = surveyId) : Requires db surveyId (.field dep.dependentFieldId) (.field dep.dependsOnFieldId)
  | membership {field : PlacedField} (stored : db.placedField field.id = some field) :
    Requires db surveyId (.field field.id) (.section field.sectionId)

/-- The order of the section, then the order in it; the section itself comes first. -/
def definitionRank (db : Database) : StructureNode → ℕ ×ₗ ℕ
  | .field id => toLex ((db.placedField id).elim (0, 0) fun field => (field.sectionRow.order, field.order + 1))
  | .section id => toLex ((db.sections.get id).elim 0 Section.order, 0)

/-- Nothing waits for itself, now or with one more rule or dependency that passes its ordering check. -/
structure ExcludesCycles (db : Database) (surveyId : Nat) : Prop where
  acyclic : ∀ c, ¬ TransGen (Requires db surveyId) c c
  newTargetField : ∀ dependsOn target, db.placedField dependsOn.id = some dependsOn →
    db.placedField target.id = some target → dependsOn.surveyId = surveyId →
    validateOrderingConstraint dependsOn none (some target) = .ok () →
    (∀ order exclude, detectCircularDependenciesCr order db (some dependsOn) (some target) exclude = .ok ()) ∧
      ∀ c, ¬ TransGen (WithEdge (Requires db surveyId) (.field target.id) (.field dependsOn.id)) c c
  /-- `detect_circular_dependencies_cr` returns at once here. -/
  newTargetSection : ∀ dependsOn target, db.placedField dependsOn.id = some dependsOn →
    db.sections.get target.id = some target → dependsOn.surveyId = surveyId →
    validateOrderingConstraint dependsOn (some target) none = .ok () →
    (∀ order exclude, detectCircularDependenciesCr order db (some dependsOn) none exclude = .ok ()) ∧
      ∀ c, ¬ TransGen (WithEdge (Requires db surveyId) (.section target.id) (.field dependsOn.id)) c c
  newDependency : ∀ dependsOn dependent, db.placedField dependsOn.id = some dependsOn →
    db.placedField dependent.id = some dependent → dependsOn.surveyId = surveyId →
    validateFdOrderingConstraint dependsOn dependent = .ok () →
    (∀ order exclude, detectCircularDependenciesFd order db (some dependsOn) (some dependent) exclude = .ok ()) ∧
      ∀ c, ¬ TransGen (WithEdge (Requires db surveyId) (.field dependent.id) (.field dependsOn.id)) c c

section Rank

variable {db : Database} {surveyId : Nat}

theorem getRelated_eq_ok {α : Type} {find : Nat → Option α} {id : Nat} {row : α} :
    getRelated find id = .ok row ↔ find id = some row := by
  unfold getRelated
  cases find id with
  | none => exact iff_of_false nofun nofun
  | some _ => simp

theorem checkRuleOrdering_eq_ok {rule : ConditionalRule} : checkRuleOrdering db rule = .ok () ↔
    ∃ dependsOn targetSection targetField, db.placedField rule.dependsOnFieldId = some dependsOn ∧
      rule.targetSectionId.mapM (getRelated db.sections.get) = .ok targetSection ∧
      rule.targetFieldId.mapM (getRelated db.placedField) = .ok targetField ∧
      validateOrderingConstraint dependsOn targetSection targetField = .ok () := by
  simp only [checkRuleOrdering, bind_eq_ok, getRelated_eq_ok, exists_and_left]

theorem mapM_getRelated {α : Type} {find : Nat → Option α} {id : Nat} {row : Option α}
    (related : (some id).mapM (getRelated find) = .ok row) : ∃ found, find id = some found ∧ row = some found := by
  rw [Option.mapM_some] at related
  cases found : find id with
  | none =>
    rw [getRelated, found] at related
    cases related
  | some other =>
    rw [getRelated, found] at related
    cases related
    exact ⟨other, rfl, rfl⟩

theorem checkDependencyOrdering_eq_ok {dep : FieldDependency} : checkDependencyOrdering db dep = .ok () ↔
    ∃ dependsOn dependent, db.placedField dep.dependsOnFieldId = some dependsOn ∧
      db.placedField dep.dependentFieldId = some dependent ∧ FieldBefore dependsOn dependent := by
  simp only [checkDependencyOrdering, bind_eq_ok, getRelated_eq_ok, validateFdOrderingConstraint, requireFieldBefore_eq_ok,
    exists_and_left]

/-! ## The rank falls -/

theorem rank_lt_of_fieldBefore {dependsOn target : PlacedField}
    (storedSource : db.placedField dependsOn.id = some dependsOn) (storedTarget : db.placedField target.id = some target)
    (before : FieldBefore dependsOn target) :
    definitionRank db (.field dependsOn.id) < definitionRank db (.field target.id) := by
  rw [definitionRank, definitionRank, storedSource, storedTarget]
  simp only [Option.elim_some, Prod.Lex.toLex_lt_toLex]
  rw [FieldBefore] at before
  split at before
  · rename_i sameSection
    -- the rows of one section are one row
    have sameRow : dependsOn.sectionRow = target.sectionRow := by
      have source := (Database.placedField_eq_some.mp storedSource).2
      rw [← dependsOn.placed, sameSection, target.placed, (Database.placedField_eq_some.mp storedTarget).2] at source
      exact (Option.some.inj source).symm
    exact Or.inr ⟨congrArg Section.order sameRow, Nat.succ_lt_succ before⟩
  · exact Or.inl before

theorem rank_lt_of_sectionBefore {dependsOn : PlacedField} {target : Section}
    (storedSource : db.placedField dependsOn.id = some dependsOn) (storedTarget : db.sections.get target.id = some target)
    (before : dependsOn.sectionRow.order < target.order) :
    definitionRank db (.field dependsOn.id) < definitionRank db (.section target.id) := by
  rw [definitionRank, definitionRank, storedSource, storedTarget]
  simp only [Option.elim_some, Prod.Lex.toLex_lt_toLex]
  exact Or.inl before

theorem rank_falls (ordered : DefinitionOrdered db surveyId) {a b : StructureNode} (waits : Requires db surveyId a b) :
    definitionRank db b < definitionRank db a := by
  cases waits with
  | @targetField rule target stored inSurvey isTarget =>
    obtain ⟨dependsOn, _, targetRow, source, _, related, passed⟩ :=
      checkRuleOrdering_eq_ok.mp (ordered.rules rule stored inSurvey)
    rw [isTarget] at related
    obtain ⟨field, found, rfl⟩ := mapM_getRelated related
    have before := (validateOrderingConstraint_eq_ok.mp passed).2 field rfl
    have sameSource := placedField_id source
    have sameTarget := placedField_id found
    rw [← sameSource, ← sameTarget]
    exact rank_lt_of_fieldBefore (sameSource ▸ source) (sameTarget ▸ found) before
  | @targetSection rule target stored inSurvey isTarget =>
    obtain ⟨dependsOn, targetRow, _, source, related, _, passed⟩ :=
      checkRuleOrdering_eq_ok.mp (ordered.rules rule stored inSurvey)
    rw [isTarget] at related
    obtain ⟨row, found, rfl⟩ := mapM_getRelated related
    have before := (validateOrderingConstraint_eq_ok.mp passed).1 row rfl
    have sameSource := placedField_id source
    have sameTarget : row.id = target := db.sections.keyed target row found
    rw [← sameSource, ← sameTarget]
    exact rank_lt_of_sectionBefore (sameSource ▸ source) (sameTarget ▸ found) before
  | @dependentField dep stored inSurvey =>
    obtain ⟨dependsOn, dependent, source, found, before⟩ :=
      checkDependencyOrdering_eq_ok.mp (ordered.dependencies dep stored inSurvey)
    have sameSource := placedField_id source
    have sameTarget := placedField_id found
    rw [← sameSource, ← sameTarget]
    exact rank_lt_of_fieldBefore (sameSource ▸ source) (sameTarget ▸ found) before
  | @membership field stored =>
    have inSection := (Database.placedField_eq_some.mp stored).2
    rw [definitionRank, definitionRank, stored, inSection]
    simp only [Option.elim_some, Prod.Lex.toLex_lt_toLex]
    exact Or.inr ⟨trivial, Nat.succ_pos _⟩

theorem acyclic_of_ordered (ordered : DefinitionOrdered db surveyId) (c : StructureNode) :
    ¬ TransGen (Requires db surveyId) c c :=
  acyclic_of_rank (definitionRank db) (fun _ _ => rank_falls ordered) c

/-- Along an added edge that falls too there is still no cycle. -/
theorem acyclic_withEdge_of_ordered (ordered : DefinitionOrdered db surveyId) {target source : StructureNode}
    (falls : definitionRank db source < definitionRank db target) (c : StructureNode) :
    ¬ TransGen (WithEdge (Requires db surveyId) target source) c c := by
  refine acyclic_of_rank (definitionRank db) (fun a b step => ?_) c
  obtain old | ⟨rfl, rfl⟩ := step
  · exact rank_falls ordered old
  · exact falls

/-- A check finds no cycle among edges that fall. -/
theorem detects_none {order : SetOrder} {edges : List (Nat × Nat)} {stored : Nat → Nat → Prop} {target source : Nat}
    {result : Except PyExn Unit} (detects : DetectsCycles order edges stored target source result)
    (storedFall : ∀ a b, stored a b → definitionRank db (.field b) < definitionRank db (.field a))
    (falls : definitionRank db (.field source) < definitionRank db (.field target)) : result = .ok () := by
  by_contra raises
  obtain ⟨c, _, loop⟩ := detects.raises_iff.mp raises
  refine acyclic_of_rank (fun id => definitionRank db (.field id)) (fun a b step => ?_) c loop
  obtain old | ⟨rfl, rfl⟩ := step
  · exact storedFall a b old
  · exact falls

theorem ruleEdge_falls (ordered : DefinitionOrdered db surveyId) {exclude : Option Nat} {a b : Nat}
    (edge : RuleEdge db surveyId exclude a b) : definitionRank db (.field b) < definitionRank db (.field a) := by
  obtain ⟨rule, stored, inSurvey, _, isTarget, rfl⟩ := edge
  exact rank_falls ordered (.targetField stored inSurvey isTarget)

theorem dependencyEdge_falls (ordered : DefinitionOrdered db surveyId) {exclude : Option Nat} {a b : Nat}
    (edge : DependencyEdge db surveyId exclude a b) : definitionRank db (.field b) < definitionRank db (.field a) := by
  obtain ⟨dep, stored, inSurvey, _, rfl, rfl⟩ := edge
  exact rank_falls ordered (.dependentField stored inSurvey)

/-- The definition order of a survey excludes every cycle. -/
theorem definitionOrder_excludesCycles (ordered : DefinitionOrdered db surveyId) : ExcludesCycles db surveyId where
  acyclic := acyclic_of_ordered ordered
  newTargetField := by
    intro dependsOn target storedSource storedTarget inSurvey passed
    subst inSurvey
    have falls := rank_lt_of_fieldBefore storedSource storedTarget
      ((validateOrderingConstraint_eq_ok.mp passed).2 target rfl)
    exact ⟨fun order exclude => detects_none
      (detectsCycles_of_search hasEdge_conditionalRuleEdges target.id dependsOn.id _)
      (fun _ _ => ruleEdge_falls ordered) falls, acyclic_withEdge_of_ordered ordered falls⟩
  newTargetSection := by
    intro dependsOn target storedSource storedTarget _ passed
    have falls := rank_lt_of_sectionBefore storedSource storedTarget
      ((validateOrderingConstraint_eq_ok.mp passed).1 target rfl)
    exact ⟨fun _ _ => rfl, acyclic_withEdge_of_ordered ordered falls⟩
  newDependency := by
    intro dependsOn dependent storedSource storedTarget inSurvey passed
    subst inSurvey
    have falls := rank_lt_of_fieldBefore storedSource storedTarget (requireFieldBefore_eq_ok.mp passed)
    exact ⟨fun order exclude => detects_none
      (detectsCycles_of_search hasEdge_fieldDependencyEdges dependent.id dependsOn.id _)
      (fun _ _ => dependencyEdge_falls ordered) falls, acyclic_withEdge_of_ordered ordered falls⟩

end Rank

/-- The small draft has its rule and its dependency in order. -/
theorem definitionOrder_draftDatabase : ExcludesCycles draftDatabase 1 := by
  refine definitionOrder_excludesCycles ⟨fun rule stored _ => ?_, fun dep stored _ => ?_⟩
  · cases List.mem_singleton.mp (Table.mem_rows.mpr stored)
    rfl
  · cases List.mem_singleton.mp (Table.mem_rows.mpr stored)
    rfl

end SurveyPlatform.Verified

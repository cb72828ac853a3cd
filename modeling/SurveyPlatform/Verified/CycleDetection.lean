import SurveyPlatform.Surveys.CycleChecks

/-! # Circular dependencies are detected exactly

Whatever rows are stored, both checks end, and refuse a proposed edge exactly
when a cycle can be reached from its target (`detectCircularDependencies_exact`).
Where the stored edges have no cycle, that is when the edge closes one.
-/

namespace SurveyPlatform.Verified

open SurveyPlatform.Library SurveyPlatform.Library.Cycles SurveyPlatform.Python SurveyPlatform.Surveys
open Relation (ReflTransGen TransGen)

/-- A stored rule, other than the excluded one, from its target to the field it reads. -/
def RuleEdge (db : Database) (surveyId : Nat) (excludeRuleId : Option Nat) (a b : Nat) : Prop :=
  ∃ rule, db.conditionalRules.get rule.id = some rule ∧ rule.surveyId = surveyId ∧ excludeRuleId ≠ some rule.id ∧
    rule.targetFieldId = some a ∧ rule.dependsOnFieldId = b

def DependencyEdge (db : Database) (surveyId : Nat) (excludeDepId : Option Nat) (a b : Nat) : Prop :=
  ∃ dep, db.fieldDependencies.get dep.id = some dep ∧ dep.surveyId = surveyId ∧ excludeDepId ≠ some dep.id ∧
    dep.dependentFieldId = a ∧ dep.dependsOnFieldId = b

/-- What a check that runs the search on `edges` says of the proposed one, among the stored. -/
structure DetectsCycles (order : SetOrder) (edges : List (Nat × Nat)) (stored : Nat → Nat → Prop) (target source : Nat)
    (result : Except PyExn Unit) : Prop where
  /-- The recursion ends, and more room for it does not change the answer. -/
  ends : ∀ fuel, 2 * edges.length + 2 ≤ fuel → ∃ marks,
    hasCycle (neighborsIn order edges) fuel target ⟨∅, ∅⟩ = some (cycleFrom order edges target, marks)
  answers : result = .ok () ∨ ∃ message, result = .error (.validationError message)
  raises_iff : result ≠ .ok () ↔
    ∃ c, ReflTransGen (WithEdge stored target source) target c ∧ TransGen (WithEdge stored target source) c c
  raises_iff_cyclic : (∀ c, ¬ TransGen stored c c) →
    (result ≠ .ok () ↔ ∃ c, TransGen (WithEdge stored target source) c c)
  raises_iff_reaches : (∀ c, ¬ TransGen stored c c) → (result ≠ .ok () ↔ source = target ∨ TransGen stored source target)

section Exactness

variable {order : SetOrder} {db : Database} {surveyId : Nat} {exclude : Option Nat}

theorem hasEdge_conditionalRuleEdges :
    HasEdge (conditionalRuleEdges db surveyId exclude) = RuleEdge db surveyId exclude := by
  funext a b
  simp only [HasEdge, conditionalRuleEdges, List.mem_filterMap, List.mem_filter, Table.mem_rows, key_conditionalRule,
    Bool.and_eq_true, decide_eq_true_eq, bne_iff_ne, Option.map_eq_some_iff, Prod.mk.injEq, eq_iff_iff, RuleEdge]
  constructor
  · intro holds
    obtain ⟨rule, ⟨stored, inSurvey, kept⟩, _, target, rfl, rfl⟩ := holds
    exact ⟨rule, stored, inSurvey, kept, target, rfl⟩
  · intro holds
    obtain ⟨rule, stored, inSurvey, kept, target, rfl⟩ := holds
    exact ⟨rule, ⟨stored, inSurvey, kept⟩, a, target, rfl, rfl⟩

theorem hasEdge_fieldDependencyEdges :
    HasEdge (fieldDependencyEdges db surveyId exclude) = DependencyEdge db surveyId exclude := by
  funext a b
  simp only [HasEdge, fieldDependencyEdges, List.mem_map, List.mem_filter, Table.mem_rows, key_fieldDependency,
    Bool.and_eq_true, decide_eq_true_eq, bne_iff_ne, Prod.mk.injEq, eq_iff_iff, DependencyEdge]
  constructor
  · intro holds
    obtain ⟨dep, ⟨stored, inSurvey, kept⟩, rfl, rfl⟩ := holds
    exact ⟨dep, stored, inSurvey, kept, rfl, rfl⟩
  · intro holds
    obtain ⟨dep, stored, inSurvey, kept, rfl, rfl⟩ := holds
    exact ⟨dep, ⟨stored, inSurvey, kept⟩, rfl, rfl⟩

/-- Both checks are this one, on their own rows. -/
theorem detectsCycles_of_search {edges : List (Nat × Nat)} {stored : Nat → Nat → Prop} (isEdge : HasEdge edges = stored)
    (target source : Nat) (message : String) :
    DetectsCycles order ((target, source) :: edges) stored target source
      (rejectIf (cycleFrom order ((target, source) :: edges) target) message) := by
  have found : rejectIf (cycleFrom order ((target, source) :: edges) target) message ≠ .ok () ↔
      ∃ c, ReflTransGen (WithEdge stored target source) target c ∧ TransGen (WithEdge stored target source) c c := by
    rw [ne_eq, rejectIf_eq_ok, not_not, cycleFrom_iff, hasEdge_cons, isEdge]
  have reaches : (∀ c, ¬ TransGen stored c c) →
      (rejectIf (cycleFrom order ((target, source) :: edges) target) message ≠ .ok () ↔ ReflTransGen stored source target) := by
    intro acyclic
    rw [found, cycle_withEdge_iff]
    exact or_iff_left fun holds => absurd holds.choose_spec.2 (acyclic _)
  refine ⟨fun fuel enough => ?_, ?_, found, fun acyclic => ?_, fun acyclic => ?_⟩
  · obtain ⟨answer, marks, result, exact⟩ := hasCycle_answers order ((target, source) :: edges) target enough
    have same : answer = cycleFrom order ((target, source) :: edges) target := by
      rw [Bool.eq_iff_iff, exact, cycleFrom_iff]
    exact ⟨marks, same ▸ result⟩
  · cases cycleFrom order ((target, source) :: edges) target with
    | true => exact Or.inr ⟨message, rfl⟩
    | false => exact Or.inl rfl
  · rw [reaches acyclic, cyclic_withEdge_iff acyclic]
  · rw [reaches acyclic, Relation.reflTransGen_iff_eq_or_transGen, eq_comm]

/-- Both checks end and are exact, for any stored rows and any proposed edge. -/
theorem detectCircularDependencies_exact (order : SetOrder) (db : Database) (dependsOn target : PlacedField)
    (exclude : Option Nat) :
    DetectsCycles order ((target.id, dependsOn.id) :: conditionalRuleEdges db dependsOn.surveyId exclude)
        (RuleEdge db dependsOn.surveyId exclude) target.id dependsOn.id
        (detectCircularDependenciesCr order db (some dependsOn) (some target) exclude) ∧
      DetectsCycles order ((target.id, dependsOn.id) :: fieldDependencyEdges db dependsOn.surveyId exclude)
        (DependencyEdge db dependsOn.surveyId exclude) target.id dependsOn.id
        (detectCircularDependenciesFd order db (some dependsOn) (some target) exclude) :=
  ⟨detectsCycles_of_search hasEdge_conditionalRuleEdges target.id dependsOn.id _,
    detectsCycles_of_search hasEdge_fieldDependencyEdges target.id dependsOn.id _⟩

end Exactness

end SurveyPlatform.Verified

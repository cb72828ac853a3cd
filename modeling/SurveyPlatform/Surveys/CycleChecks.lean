import SurveyPlatform.Library.Cycles
import SurveyPlatform.Surveys.Database

/-! # Circular dependency detection

`detect_circular_dependencies_cr` and `detect_circular_dependencies_fd` of
`apps/surveys/services.py`: both build a graph from the stored rows, add the
proposed edge and search it depth first.  `cycleFrom` is that search, and
`cycleFrom_iff` says that it is exact.
-/

namespace SurveyPlatform.Surveys

open SurveyPlatform.Library SurveyPlatform.Library.Cycles SurveyPlatform.Python

/-! ## The search -/

/-- `graph.get(node, set())`, in some order, for a graph given by its edges. -/
def neighborsIn (order : SetOrder) (edges : List (Nat × Nat)) (node : Nat) : List Nat :=
  order.iterate ((edges.filter (·.1 = node)).map (·.2)).toFinset

/-- `has_cycle(node)` on a fresh `visited` and `path`. -/
def cycleFrom (order : SetOrder) (edges : List (Nat × Nat)) (node : Nat) : Bool :=
  match hasCycle (neighborsIn order edges) (2 * edges.length + 2) node ⟨∅, ∅⟩ with
  | some (found, _) => found
  | none => false

/-- `edges` has an edge from `a` to `b`. -/
def HasEdge (edges : List (Nat × Nat)) (a b : Nat) : Prop := (a, b) ∈ edges

theorem edge_neighborsIn (order : SetOrder) (edges : List (Nat × Nat)) :
    Edge (neighborsIn order edges) = HasEdge edges := by
  funext a b
  simp [Edge, neighborsIn, HasEdge, order.mem_iterate]

/-- However deep the recursion may go, the search ends, and answers `True` exactly when a cycle is reachable. -/
theorem hasCycle_answers (order : SetOrder) (edges : List (Nat × Nat)) (node : Nat) {fuel : Nat}
    (enough : 2 * edges.length + 2 ≤ fuel) :
    ∃ answer marks, hasCycle (neighborsIn order edges) fuel node ⟨∅, ∅⟩ = some (answer, marks) ∧
      (answer = true ↔ ∃ c, Relation.ReflTransGen (HasEdge edges) node c ∧ Relation.TransGen (HasEdge edges) c c) := by
  -- every node the search can meet is the start or an end of an edge
  let nodes : Finset Nat := insert node (edges.map Prod.fst ++ edges.map Prod.snd).toFinset
  have closed : ∀ a ∈ nodes, ∀ b, Edge (neighborsIn order edges) a b → b ∈ nodes := by
    intro a _ b edge
    rw [edge_neighborsIn] at edge
    have isSecond : b ∈ edges.map Prod.snd := List.mem_map.mpr ⟨(a, b), edge, rfl⟩
    simp [nodes, isSecond]
  -- so there are at most two for each edge, and the fuel exceeds their number
  have few : nodes.card < fuel := by
    have outer := Finset.card_insert_le node (edges.map Prod.fst ++ edges.map Prod.snd).toFinset
    have inner := List.toFinset_card_le (edges.map Prod.fst ++ edges.map Prod.snd)
    simp only [List.length_append, List.length_map] at inner
    simp only [nodes]
    omega
  obtain ⟨answer, marks, result, exact⟩ := hasCycle_eq_true_iff closed (Finset.mem_insert_self node _) few
  refine ⟨answer, marks, result, ?_⟩
  simpa only [CycleReachable, edge_neighborsIn] using exact

theorem cycleFrom_iff (order : SetOrder) (edges : List (Nat × Nat)) (node : Nat) :
    cycleFrom order edges node = true ↔
      ∃ c, Relation.ReflTransGen (HasEdge edges) node c ∧ Relation.TransGen (HasEdge edges) c c := by
  obtain ⟨answer, marks, result, exact⟩ := hasCycle_answers order edges node (Nat.le_refl _)
  rw [cycleFrom, result]
  exact exact

theorem hasEdge_cons (edges : List (Nat × Nat)) (target source : Nat) :
    HasEdge ((target, source) :: edges) = WithEdge (HasEdge edges) target source := by
  funext a b
  simp [HasEdge, WithEdge, or_comm]

/-! ## The two checks -/

/-- The edges from targets to the fields their conditions read. -/
def conditionalRuleEdges (db : Database) (surveyId : Nat) (excludeRuleId : Option Nat) : List (Nat × Nat) :=
  ((db.conditionalRules.rows.filter fun rule => rule.surveyId = surveyId && excludeRuleId != some rule.id).filterMap
    fun rule => rule.targetFieldId.map (·, rule.dependsOnFieldId))

def fieldDependencyEdges (db : Database) (surveyId : Nat) (excludeDepId : Option Nat) : List (Nat × Nat) :=
  (db.fieldDependencies.rows.filter fun dep => dep.surveyId = surveyId && excludeDepId != some dep.id).map
    fun dep => (dep.dependentFieldId, dep.dependsOnFieldId)

/-- A key the check needs but the data lacks is `None`, and has no attributes. -/
def detectCircularDependenciesCr (order : SetOrder) (db : Database) (dependsOnField targetField : Option PlacedField)
    (excludeRuleId : Option Nat) : Except PyExn Unit :=
  match targetField, dependsOnField with
  | none, _ => .ok ()
  -- `depends_on_field.section` of `None`
  | some _, none => .error .attributeError
  | some target, some dependsOn =>
    let edges := conditionalRuleEdges db dependsOn.surveyId excludeRuleId
    -- the proposed edge is added last; the order of a list of edges does not matter
    rejectIf (cycleFrom order ((target.id, dependsOn.id) :: edges) target.id)
      "Adding this rule would create a circular dependency."

def detectCircularDependenciesFd (order : SetOrder) (db : Database)
    (dependsOnField dependentField : Option PlacedField) (excludeDepId : Option Nat) : Except PyExn Unit :=
  match dependsOnField, dependentField with
  | some dependsOn, some dependent =>
    let edges := fieldDependencyEdges db dependsOn.surveyId excludeDepId
    rejectIf (cycleFrom order ((dependent.id, dependsOn.id) :: edges) dependent.id)
      "Adding this dependency would create a circular dependency."
  | _, _ => .error .attributeError

end SurveyPlatform.Surveys

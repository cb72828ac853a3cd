import Mathlib.Data.Finset.Card
import Mathlib.Logic.Relation

/-! # Depth-first cycle detection

The textbook recursive search with a `visited` set and a `path` set: a node met
again while it is on the path closes a cycle, a node met again after it was left
does not.  `hasCycle` is that program, with fuel for the recursion depth.

* `hasCycle_sound` — an answer `true` exhibits a cycle reachable from the node;
* `hasCycle_complete` — an answer `false` leaves a closed, acyclic set of
  visited nodes behind, so no cycle is reachable;
* `hasCycle_total` — fuel above the number of unvisited nodes always answers;
* `hasCycle_eq_true_iff` — the three together, from empty marks;
* `cycle_withEdge_iff`, `cyclic_withEdge_iff` — what one more edge can change about cycles;
* `acyclic_of_rank` — no cycle where a rank falls along every edge.
-/

namespace SurveyPlatform.Library.Cycles

open Relation

variable {α : Type*}

/-- The two sets the search mutates. -/
structure Marks (α : Type*) where
  visited : Finset α
  path : Finset α

/-- The loop over the neighbours of a node; it stops at the first `true`. -/
def anyNeighbor (visit : α → Marks α → Option (Bool × Marks α)) :
    List α → Marks α → Option (Bool × Marks α)
  | [], marks => some (false, marks)
  | neighbor :: rest, marks =>
    match visit neighbor marks with
    | none => none
    | some (true, marks') => some (true, marks')
    | some (false, marks') => anyNeighbor visit rest marks'

section Search

variable [DecidableEq α]

/-- The recursive search; `none` means the fuel ran out. -/
def hasCycle (neighbors : α → List α) : Nat → α → Marks α → Option (Bool × Marks α)
  | 0, _, _ => none
  | fuel + 1, node, marks =>
    if node ∈ marks.path then some (true, marks)
    else if node ∈ marks.visited then some (false, marks)
    else
      match anyNeighbor (hasCycle neighbors fuel) (neighbors node)
          ⟨insert node marks.visited, insert node marks.path⟩ with
      | none => none
      | some (true, marks') => some (true, marks')
      -- the node leaves the path and stays visited
      | some (false, marks') => some (false, { marks' with path := marks'.path.erase node })

end Search

/-! ## What the search is about -/

/-- `Edge neighbors a b`: `b` is listed as a neighbour of `a`. -/
def Edge (neighbors : α → List α) (a b : α) : Prop := b ∈ neighbors a

/-- Some node reachable from `a` lies on a cycle. -/
def CycleReachable (neighbors : α → List α) (a : α) : Prop :=
  ∃ c, ReflTransGen (Edge neighbors) a c ∧ TransGen (Edge neighbors) c c

/-- Nodes already left are closed under edges and lie on no cycle. -/
structure Settled (neighbors : α → List α) (marks : Marks α) : Prop where
  onPath : marks.path ⊆ marks.visited
  closed : ∀ a, a ∈ marks.visited → a ∉ marks.path → ∀ b, Edge neighbors a b →
    b ∈ marks.visited ∧ b ∉ marks.path
  acyclic : ∀ a, a ∈ marks.visited → a ∉ marks.path → ¬ TransGen (Edge neighbors) a a

/-- Every node on the path leads to the node about to be visited. -/
def Leads (neighbors : α → List α) (marks : Marks α) (node : α) : Prop :=
  ∀ a ∈ marks.path, TransGen (Edge neighbors) a node

variable {neighbors : α → List α}

theorem CycleReachable.of_edge {a b : α} (edge : Edge neighbors a b)
    (reachable : CycleReachable neighbors b) : CycleReachable neighbors a := by
  obtain ⟨c, path, loop⟩ := reachable
  exact ⟨c, ReflTransGen.head edge path, loop⟩

theorem Settled.reach {marks : Marks α} (settled : Settled neighbors marks) {a b : α}
    (path : ReflTransGen (Edge neighbors) a b) (visited : a ∈ marks.visited) (left : a ∉ marks.path) :
    b ∈ marks.visited ∧ b ∉ marks.path := by
  induction path with
  | refl => exact ⟨visited, left⟩
  | tail _ edge inductionHypothesis =>
    exact settled.closed _ inductionHypothesis.1 inductionHypothesis.2 _ edge

/-- From a settled node no cycle is reachable. -/
theorem Settled.no_cycle {marks : Marks α} (settled : Settled neighbors marks) {a : α}
    (visited : a ∈ marks.visited) (left : a ∉ marks.path) : ¬ CycleReachable neighbors a := by
  intro holds
  obtain ⟨c, path, loop⟩ := holds
  obtain ⟨visitedC, leftC⟩ := settled.reach path visited left
  exact settled.acyclic c visitedC leftC loop

section Marking

variable [DecidableEq α]

/-- Entering a fresh node keeps the settled nodes settled. -/
theorem Settled.enter {marks : Marks α} (settled : Settled neighbors marks) {node : α}
    (fresh : node ∉ marks.visited) :
    Settled neighbors ⟨insert node marks.visited, insert node marks.path⟩ := by
  have older : ∀ a, a ∈ insert node marks.visited → a ∉ insert node marks.path →
      a ∈ marks.visited ∧ a ∉ marks.path := by
    intro a member left
    simp only [Finset.mem_insert, not_or] at member left
    exact ⟨member.resolve_left left.1, left.2⟩
  refine ⟨Finset.insert_subset_insert _ settled.onPath, ?_, ?_⟩
  · intro a member left b edge
    obtain ⟨visited, notPath⟩ := older a member left
    obtain ⟨visitedB, notPathB⟩ := settled.closed a visited notPath b edge
    refine ⟨Finset.mem_insert_of_mem visitedB, ?_⟩
    simp only [Finset.mem_insert, not_or]
    exact ⟨fun same => fresh (same ▸ visitedB), notPathB⟩
  · intro a member left
    obtain ⟨visited, notPath⟩ := older a member left
    exact settled.acyclic a visited notPath

/-- Leaving a node all of whose neighbours are settled settles it too. -/
theorem Settled.leave {marks : Marks α} (settled : Settled neighbors marks) {node : α}
    (onPath : node ∈ marks.path)
    (neighborsSettled : ∀ b, Edge neighbors node b → b ∈ marks.visited ∧ b ∉ marks.path) :
    Settled neighbors { marks with path := marks.path.erase node } := by
  have cases : ∀ a, a ∈ marks.visited → a ∉ marks.path.erase node → a = node ∨ a ∉ marks.path := by
    intro a _ left
    by_cases same : a = node
    · exact Or.inl same
    · exact Or.inr fun member => left (Finset.mem_erase.mpr ⟨same, member⟩)
  have erased : ∀ b, b ∉ marks.path → b ∉ marks.path.erase node :=
    fun b left member => left (Finset.mem_of_mem_erase member)
  refine ⟨(Finset.erase_subset _ _).trans settled.onPath, ?_, ?_⟩
  · intro a visited left b edge
    rcases cases a visited left with rfl | left
    · exact ⟨(neighborsSettled b edge).1, erased b (neighborsSettled b edge).2⟩
    · obtain ⟨visitedB, leftB⟩ := settled.closed a visited left b edge
      exact ⟨visitedB, erased b leftB⟩
  · intro a visited left loop
    rcases cases a visited left with rfl | left
    · -- a cycle through the node would lead from a settled neighbour back to the path
      obtain ⟨b, edge, path⟩ := TransGen.head'_iff.mp loop
      obtain ⟨visitedB, leftB⟩ := neighborsSettled b edge
      exact (settled.reach path visitedB leftB).2 onPath
    · exact settled.acyclic a visited left loop

end Marking

/-! ## Soundness and completeness -/

/-- What one visit promises: `true` exhibits a cycle; `false` settles the node
and leaves the path as it was. -/
def VisitSpec (neighbors : α → List α) (visit : α → Marks α → Option (Bool × Marks α)) : Prop :=
  ∀ node marks answer marks', Settled neighbors marks → Leads neighbors marks node →
    visit node marks = some (answer, marks') →
    if answer then CycleReachable neighbors node
    else Settled neighbors marks' ∧ marks'.path = marks.path ∧ marks.visited ⊆ marks'.visited ∧
      node ∈ marks'.visited ∧ node ∉ marks'.path

theorem anyNeighbor_spec {visit : α → Marks α → Option (Bool × Marks α)}
    (visitSpec : VisitSpec neighbors visit) (nodes : List α) (marks : Marks α)
    (answer : Bool) (marks' : Marks α) (settled : Settled neighbors marks)
    (leads : ∀ node ∈ nodes, Leads neighbors marks node)
    (result : anyNeighbor visit nodes marks = some (answer, marks')) :
    if answer then ∃ node ∈ nodes, CycleReachable neighbors node
    else Settled neighbors marks' ∧ marks'.path = marks.path ∧ marks.visited ⊆ marks'.visited ∧
      ∀ node ∈ nodes, node ∈ marks'.visited ∧ node ∉ marks'.path := by
  induction nodes generalizing marks with
  | nil =>
    simp only [anyNeighbor, Option.some.injEq, Prod.mk.injEq] at result
    obtain ⟨rfl, rfl⟩ := result
    simp [settled]
  | cons node rest inductionHypothesis =>
    simp only [anyNeighbor] at result
    cases visited : visit node marks with
    | none => simp [visited] at result
    | some outcome =>
      obtain ⟨found, marks₁⟩ := outcome
      have spec := visitSpec node marks found marks₁ settled (leads node (by simp)) visited
      cases found with
      | true =>
        simp only [visited, Option.some.injEq, Prod.mk.injEq] at result
        obtain ⟨rfl, rfl⟩ := result
        simpa using Or.inl spec
      | false =>
        simp only [visited] at result
        simp only [Bool.false_eq_true, if_false] at spec
        obtain ⟨settled₁, path₁, grown₁, memberNode, leftNode⟩ := spec
        -- the first visit left the path as it was, so the path still leads to the others
        have leads₁ : ∀ other ∈ rest, Leads neighbors marks₁ other := by
          intro other member a onPath
          exact leads other (List.mem_cons_of_mem _ member) a (path₁ ▸ onPath)
        have tail := inductionHypothesis marks₁ settled₁ leads₁ result
        cases answer with
        | true =>
          obtain ⟨other, member, reachable⟩ := by simpa using tail
          simpa using Or.inr ⟨other, member, reachable⟩
        | false =>
          simp only [Bool.false_eq_true, if_false] at tail ⊢
          obtain ⟨settled', path', grown', all⟩ := tail
          refine ⟨settled', path'.trans path₁, grown₁.trans grown', ?_⟩
          intro other member
          rcases List.mem_cons.mp member with rfl | member
          · exact ⟨grown' memberNode, by rw [path']; exact leftNode⟩
          · exact all other member

section Specification

variable [DecidableEq α]

theorem hasCycle_spec (fuel : Nat) : VisitSpec neighbors (hasCycle neighbors fuel) := by
  induction fuel with
  | zero => intro node marks answer marks' _ _ result; simp [hasCycle] at result
  | succ fuel inductionHypothesis =>
    intro node marks answer marks' settled leads result
    rw [hasCycle] at result
    split at result
    · rename_i onPath
      simp only [Option.some.injEq, Prod.mk.injEq] at result
      obtain ⟨rfl, rfl⟩ := result
      -- the node is on the path, and the path leads to it: it lies on a cycle itself
      simpa using ⟨node, ReflTransGen.refl, leads node onPath⟩
    · rename_i notPath
      split at result
      · rename_i visited
        simp only [Option.some.injEq, Prod.mk.injEq] at result
        obtain ⟨rfl, rfl⟩ := result
        -- visited and left before: the marks do not move
        simpa using ⟨settled, visited, notPath⟩
      · rename_i fresh
        have settledIn := settled.enter fresh
        -- the neighbours are visited with the node at the end of the path
        have leadsIn : ∀ b ∈ neighbors node,
            Leads neighbors ⟨insert node marks.visited, insert node marks.path⟩ b := by
          intro b edge a onPath
          rcases Finset.mem_insert.mp onPath with rfl | onPath
          · exact TransGen.single edge
          · exact TransGen.tail (leads a onPath) edge
        cases scanned : anyNeighbor (hasCycle neighbors fuel) (neighbors node)
            ⟨insert node marks.visited, insert node marks.path⟩ with
        | none => simp [scanned] at result
        | some outcome =>
          obtain ⟨found, marks₁⟩ := outcome
          have spec := anyNeighbor_spec inductionHypothesis _ _ found marks₁ settledIn leadsIn scanned
          cases found with
          | true =>
            simp only [scanned, Option.some.injEq, Prod.mk.injEq] at result
            obtain ⟨rfl, rfl⟩ := result
            obtain ⟨b, edge, reachable⟩ := by simpa using spec
            simpa using reachable.of_edge edge
          | false =>
            simp only [scanned, Option.some.injEq, Prod.mk.injEq] at result
            obtain ⟨rfl, rfl⟩ := result
            simp only [Bool.false_eq_true, if_false] at spec ⊢
            obtain ⟨settled₁, path₁, grown₁, all⟩ := spec
            have onPath : node ∈ marks₁.path := by rw [path₁]; exact Finset.mem_insert_self _ _
            refine ⟨settled₁.leave onPath all, ?_, ?_, grown₁ (Finset.mem_insert_self _ _), by simp⟩
            · simp [path₁, Finset.erase_insert notPath]
            · exact (Finset.subset_insert _ _).trans grown₁

/-- An answer `true` exhibits a reachable cycle. -/
theorem hasCycle_sound {fuel : Nat} {node : α} {marks marks' : Marks α}
    (settled : Settled neighbors marks) (leads : Leads neighbors marks node)
    (result : hasCycle neighbors fuel node marks = some (true, marks')) :
    CycleReachable neighbors node := by
  simpa using hasCycle_spec fuel node marks true marks' settled leads result

/-- An answer `false` excludes every reachable cycle. -/
theorem hasCycle_complete {fuel : Nat} {node : α} {marks marks' : Marks α}
    (settled : Settled neighbors marks) (leads : Leads neighbors marks node)
    (result : hasCycle neighbors fuel node marks = some (false, marks')) :
    ¬ CycleReachable neighbors node := by
  have spec := hasCycle_spec fuel node marks false marks' settled leads result
  simp only [Bool.false_eq_true, if_false] at spec
  exact spec.1.no_cycle spec.2.2.2.1 spec.2.2.2.2

/-! ## Totality -/

section Totality

variable {domain : Finset α} (closed : ∀ a ∈ domain, ∀ b, Edge neighbors a b → b ∈ domain)

theorem anyNeighbor_total {fuel : Nat} {visit : α → Marks α → Option (Bool × Marks α)}
    (visitTotal : ∀ node marks, node ∈ domain → (domain \ marks.visited).card < fuel →
      ∃ answer marks', visit node marks = some (answer, marks') ∧ marks.visited ⊆ marks'.visited)
    (nodes : List α) (marks : Marks α) (inside : ∀ node ∈ nodes, node ∈ domain)
    (enough : (domain \ marks.visited).card < fuel) :
    ∃ answer marks', anyNeighbor visit nodes marks = some (answer, marks') ∧
      marks.visited ⊆ marks'.visited := by
  induction nodes generalizing marks with
  | nil => exact ⟨false, marks, rfl, Finset.Subset.refl _⟩
  | cons node rest inductionHypothesis =>
    obtain ⟨found, marks₁, visited, grown⟩ := visitTotal node marks (inside node (by simp)) enough
    cases found with
    | true => exact ⟨true, marks₁, by simp [anyNeighbor, visited], grown⟩
    | false =>
      have enough₁ : (domain \ marks₁.visited).card < fuel :=
        lt_of_le_of_lt (Finset.card_le_card (Finset.sdiff_subset_sdiff (Finset.Subset.refl _) grown)) enough
      obtain ⟨answer, marks', scanned, grown'⟩ :=
        inductionHypothesis marks₁ (fun other member => inside other (List.mem_cons_of_mem _ member)) enough₁
      exact ⟨answer, marks', by simp [anyNeighbor, visited, scanned], grown.trans grown'⟩

include closed in
/-- Fuel above the number of nodes still unvisited is enough. -/
theorem hasCycle_total (fuel : Nat) (node : α) (marks : Marks α) (inside : node ∈ domain)
    (enough : (domain \ marks.visited).card < fuel) :
    ∃ answer marks', hasCycle neighbors fuel node marks = some (answer, marks') ∧
      marks.visited ⊆ marks'.visited := by
  induction fuel generalizing node marks with
  | zero => omega
  | succ fuel inductionHypothesis =>
    rw [hasCycle]
    split
    · exact ⟨true, marks, rfl, Finset.Subset.refl _⟩
    · split
      · exact ⟨false, marks, rfl, Finset.Subset.refl _⟩
      · rename_i fresh
        -- entering the node takes it out of the unvisited ones, so one unit of fuel less suffices
        have fewer : (domain \ insert node marks.visited).card < fuel := by
          have strict : (domain \ insert node marks.visited).card < (domain \ marks.visited).card := by
            apply Finset.card_lt_card
            refine ⟨Finset.sdiff_subset_sdiff (Finset.Subset.refl _) (Finset.subset_insert _ _), ?_⟩
            intro subset
            have member := subset (Finset.mem_sdiff.mpr ⟨inside, fresh⟩)
            exact (Finset.mem_sdiff.mp member).2 (Finset.mem_insert_self _ _)
          omega
        obtain ⟨answer, marks', scanned, grown⟩ :=
          anyNeighbor_total inductionHypothesis (neighbors node)
            ⟨insert node marks.visited, insert node marks.path⟩ (closed node inside) fewer
        have grownIn := (Finset.subset_insert node marks.visited).trans grown
        cases answer with
        | true => exact ⟨true, marks', by simp [scanned], grownIn⟩
        | false => exact ⟨false, { marks' with path := marks'.path.erase node }, by simp [scanned], grownIn⟩

end Totality

/-- From empty marks, with fuel above the size of a closed set of nodes, the
search answers, and answers `true` exactly when a cycle is reachable. -/
theorem hasCycle_eq_true_iff {domain : Finset α}
    (closed : ∀ a ∈ domain, ∀ b, Edge neighbors a b → b ∈ domain)
    {node : α} (inside : node ∈ domain) {fuel : Nat} (enough : domain.card < fuel) :
    ∃ answer marks, hasCycle neighbors fuel node ⟨∅, ∅⟩ = some (answer, marks) ∧
      (answer = true ↔ CycleReachable neighbors node) := by
  have settled : Settled neighbors (⟨∅, ∅⟩ : Marks α) := ⟨by simp, by simp, by simp⟩
  have leads : Leads neighbors (⟨∅, ∅⟩ : Marks α) node := by simp [Leads]
  obtain ⟨answer, marks, result, _⟩ := hasCycle_total closed fuel node ⟨∅, ∅⟩ inside (by simpa using enough)
  refine ⟨answer, marks, result, ?_⟩
  cases answer with
  | true => simpa using hasCycle_sound settled leads result
  | false => simpa using hasCycle_complete settled leads result

end Specification

/-! ## One more edge -/

section NewEdge

variable {edge : α → α → Prop} {target source : α}

/-- The relation with an edge from `target` to `source` added. -/
def WithEdge (edge : α → α → Prop) (target source : α) (a b : α) : Prop :=
  edge a b ∨ (a = target ∧ b = source)

theorem reach_withEdge_source {c : α} (path : ReflTransGen (WithEdge edge target source) source c) :
    ReflTransGen edge source c ∨ ReflTransGen edge source target := by
  induction path with
  | refl => exact Or.inl ReflTransGen.refl
  | tail _ step inductionHypothesis =>
    cases inductionHypothesis with
    | inr back => exact Or.inr back
    | inl path =>
      cases step with
      | inl old => exact Or.inl (path.tail old)
      | inr new => exact Or.inr (new.1 ▸ path)

theorem reach_withEdge_target {c : α} (path : ReflTransGen (WithEdge edge target source) target c) :
    ReflTransGen edge target c ∨ ReflTransGen edge source c := by
  induction path with
  | refl => exact Or.inl ReflTransGen.refl
  | tail _ step inductionHypothesis =>
    cases step with
    | inl old => exact inductionHypothesis.imp (·.tail old) (·.tail old)
    | inr new => exact Or.inr (new.2 ▸ ReflTransGen.refl)

/-- A path either avoids the new edge or runs through it. -/
theorem transGen_withEdge {a b : α} (path : TransGen (WithEdge edge target source) a b) :
    TransGen edge a b ∨ (ReflTransGen (WithEdge edge target source) a target ∧
      ReflTransGen (WithEdge edge target source) source b) := by
  induction path with
  | single step =>
    cases step with
    | inl old => exact Or.inl (TransGen.single old)
    | inr new => exact Or.inr ⟨new.1 ▸ ReflTransGen.refl, new.2 ▸ ReflTransGen.refl⟩
  | tail path step inductionHypothesis =>
    cases step with
    | inl old =>
      exact inductionHypothesis.imp (·.tail old) fun through => ⟨through.1, through.2.tail (Or.inl old)⟩
    | inr new => exact Or.inr ⟨new.1 ▸ path.to_reflTransGen, new.2 ▸ ReflTransGen.refl⟩

/-- From the start of a new edge a cycle is reachable exactly when the edge closes
one, or one was reachable before from either of its ends. -/
theorem cycle_withEdge_iff :
    (∃ c, ReflTransGen (WithEdge edge target source) target c ∧
      TransGen (WithEdge edge target source) c c) ↔
    ReflTransGen edge source target ∨
      ∃ c, (ReflTransGen edge target c ∨ ReflTransGen edge source c) ∧ TransGen edge c c := by
  have newEdge : WithEdge edge target source target source := Or.inr ⟨rfl, rfl⟩
  have older : edge ≤ WithEdge edge target source := fun _ _ => Or.inl
  constructor
  · intro holds
    obtain ⟨c, path, loop⟩ := holds
    by_cases back : ReflTransGen edge source target
    · exact Or.inl back
    · refine Or.inr ⟨c, reach_withEdge_target path, ?_⟩
      cases transGen_withEdge loop with
      | inl old => exact old
      | inr through =>
        -- a loop through the new edge comes back from `source` to `target`
        exact absurd ((reach_withEdge_source (through.2.trans through.1)).elim id id) back
  · intro cases
    cases cases with
    | inl back =>
      exact ⟨target, ReflTransGen.refl, TransGen.head' newEdge (ReflTransGen.mono older _ _ back)⟩
    | inr stored =>
      obtain ⟨c, path, loop⟩ := stored
      refine ⟨c, ?_, TransGen.mono older _ _ loop⟩
      cases path with
      -- the stored cycle is reached over the old edges, or over the new one first
      | inl fromTarget => exact ReflTransGen.mono older _ _ fromTarget
      | inr fromSource => exact ReflTransGen.head newEdge (ReflTransGen.mono older _ _ fromSource)

/-- An edge added to an acyclic relation closes a cycle exactly when its end leads back to its start. -/
theorem cyclic_withEdge_iff (acyclic : ∀ c, ¬ TransGen edge c c) :
    (∃ c, TransGen (WithEdge edge target source) c c) ↔ ReflTransGen edge source target := by
  constructor
  · intro holds
    obtain ⟨c, loop⟩ := holds
    cases transGen_withEdge loop with
    | inl old => exact absurd old (acyclic c)
    | inr through =>
      have back := reach_withEdge_source (through.2.trans through.1)
      exact back.elim id id
  · intro back
    obtain ⟨c, _, loop⟩ := cycle_withEdge_iff.mpr (Or.inl back)
    exact ⟨c, loop⟩

end NewEdge

/-! ## Ranks -/

/-- A relation along which a rank falls has no cycle. -/
theorem acyclic_of_rank {β : Type*} [Preorder β] {edge : α → α → Prop} (rank : α → β)
    (falls : ∀ a b, edge a b → rank b < rank a) (c : α) : ¬ TransGen edge c c := by
  have along : ∀ a b, TransGen edge a b → rank b < rank a := by
    intro a b path
    induction path with
    | single step => exact falls a _ step
    | tail _ step inductionHypothesis => exact (falls _ _ step).trans inductionHypothesis
  intro loop
  exact lt_irrefl _ (along c c loop)

end SurveyPlatform.Library.Cycles

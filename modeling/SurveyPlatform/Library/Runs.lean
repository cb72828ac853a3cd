import Mathlib.Data.List.Pairwise
import Mathlib.Logic.Function.Basic
import Mathlib.Tactic.Common

/-! # Runs of a transition function, and interleaved processes

A system is a total function `step : S → A → S`; a run is the fold of `step`
over a list of actions.  The rules here are the induction principles every
safety proof uses:

* `run_invariant` — what one step preserves, a whole run preserves;
* `Along` — a property of every (state, action) pair a run passes through;
* `Along.trace_invariant` — the same rule, at every state, when the steps of the
  run are known to meet a guard;
* `forall_trace_iff` — a property holds in every state exactly when each step
  meets a guard;
* `along_iff_along` — two such properties that agree wherever an invariant
  holds are met by the same runs;
* `pairwise_trace_iff` — a transitive relation holds between any two states of
  a run, in order, when it holds across each step.

`Config`/`move` is the instance for concurrent processes: a shared store, one
local state for each process, and a schedule naming who moves next.
`interference_free` is the Owicki–Gries rule for it.
-/

namespace SurveyPlatform.Library

/-! ## Runs -/

section Runs

variable {S A : Type*} (step : S → A → S)

/-- The state after a list of actions. -/
def run (s : S) (actions : List A) : S := actions.foldl step s

/-- Every state a run passes through, the first one included. -/
def trace : S → List A → List S
  | s, [] => [s]
  | s, action :: rest => s :: trace (step s action) rest

/-- `property` holds at each state of the run together with the action taken there. -/
def Along (property : S → A → Prop) : S → List A → Prop
  | _, [] => True
  | s, action :: rest => property s action ∧ Along property (step s action) rest

@[simp] theorem run_cons (s : S) (action : A) (rest : List A) :
    run step s (action :: rest) = run step (step s action) rest := rfl

variable {step}

theorem run_invariant {invariant : S → Prop}
    (preserved : ∀ s action, invariant s → invariant (step s action))
    {s : S} (start : invariant s) (actions : List A) : invariant (run step s actions) := by
  induction actions generalizing s with
  | nil => exact start
  | cons action rest inductionHypothesis => exact inductionHypothesis (preserved s action start)

theorem Along.mono {property weaker : S → A → Prop} {invariant : S → Prop}
    (implies : ∀ s action, invariant s → property s action → weaker s action)
    (preserved : ∀ s action, property s action → invariant s → invariant (step s action))
    {s : S} (start : invariant s) {actions : List A} (along : Along step property s actions) :
    Along step weaker s actions := by
  induction actions generalizing s with
  | nil => trivial
  | cons action rest inductionHypothesis =>
    exact ⟨implies s action start along.1,
      inductionHypothesis (preserved s action along.1 start) along.2⟩

/-- Where an invariant makes two step properties agree, they hold along the same runs. -/
theorem along_iff_along {property other : S → A → Prop} {invariant : S → Prop}
    (agree : ∀ s action, invariant s → (property s action ↔ other s action))
    (preserved : ∀ s action, property s action → invariant s → invariant (step s action))
    {s : S} (start : invariant s) (actions : List A) :
    Along step property s actions ↔ Along step other s actions := by
  constructor
  · exact Along.mono (fun s action holds => (agree s action holds).mp) preserved start
  · exact Along.mono (fun s action holds => (agree s action holds).mpr)
      (fun s action met holds => preserved s action ((agree s action holds).mpr met) holds) start

/-- The same run seen through a function that commutes with the steps. -/
theorem along_map_iff {T B : Type*} {step' : T → B → T} {view : S → T} {translate : A → B}
    (commutes : ∀ s action, view (step s action) = step' (view s) (translate action)) {property : T → B → Prop} (s : S)
    (actions : List A) : Along step (fun s action => property (view s) (translate action)) s actions ↔
      Along step' property (view s) (actions.map translate) := by
  induction actions generalizing s with
  | nil => exact Iff.rfl
  | cons action rest inductionHypothesis =>
    rw [Along, List.map_cons, Along, inductionHypothesis, commutes]

theorem mem_trace_head (s : S) (actions : List A) : s ∈ trace step s actions := by
  cases actions <;> simp [trace]

theorem run_mem_trace (s : S) (actions : List A) : run step s actions ∈ trace step s actions := by
  induction actions generalizing s with
  | nil => exact List.mem_singleton_self s
  | cons action rest inductionHypothesis => exact List.mem_cons_of_mem s (inductionHypothesis _)

theorem Along.trace_invariant {guard : S → A → Prop} {invariant : S → Prop}
    (preserved : ∀ s action, guard s action → invariant s → invariant (step s action))
    {s : S} (start : invariant s) {actions : List A} (guarded : Along step guard s actions) :
    ∀ state ∈ trace step s actions, invariant state := by
  induction actions generalizing s with
  | nil =>
    intro state member
    rw [trace, List.mem_singleton] at member
    exact member ▸ start
  | cons action rest inductionHypothesis =>
    intro state member
    rw [trace, List.mem_cons] at member
    cases member with
    | inl head => exact head ▸ start
    | inr tail => exact inductionHypothesis (preserved s action guarded.1 start) guarded.2 state tail

theorem along_of_forall {property : S → A → Prop} (holds : ∀ s action, property s action) (s : S)
    (actions : List A) : Along step property s actions := by
  induction actions generalizing s with
  | nil => trivial
  | cons action rest inductionHypothesis => exact ⟨holds s action, inductionHypothesis _⟩

/-- What one step preserves, holds at every state of a run. -/
theorem trace_invariant {invariant : S → Prop}
    (preserved : ∀ s action, invariant s → invariant (step s action))
    {s : S} (start : invariant s) (actions : List A) : ∀ state ∈ trace step s actions, invariant state := by
  have unguarded : Along step (fun _ _ => True) s actions := along_of_forall (fun _ _ => trivial) s actions
  exact unguarded.trace_invariant (fun s action _ => preserved s action) start

theorem along_of_forall_mem {property : S → A → Prop} {actions : List A}
    (holds : ∀ s, ∀ action ∈ actions, property s action) (s : S) : Along step property s actions := by
  induction actions generalizing s with
  | nil => trivial
  | cons action rest inductionHypothesis =>
    refine ⟨holds s action List.mem_cons_self, ?_⟩
    exact inductionHypothesis (fun t later member => holds t later (List.mem_cons_of_mem action member)) _

/-- A property holds in every state exactly when each step keeps it; where a guard
says which steps do, exactly when the guard is met along the run. -/
theorem forall_trace_iff {property : S → Prop} {assumed guard : S → A → Prop}
    (agree : ∀ s action, assumed s action → property s → (property (step s action) ↔ guard s action))
    {s : S} (start : property s) {actions : List A} (assumptions : Along step assumed s actions) :
    (∀ state ∈ trace step s actions, property state) ↔ Along step guard s actions := by
  induction actions generalizing s with
  | nil => simpa [trace, Along] using start
  | cons action rest inductionHypothesis =>
    obtain ⟨now, later⟩ := assumptions
    rw [trace, List.forall_mem_cons, and_iff_right start, Along, ← agree s action now start]
    constructor
    · intro holds
      have next : property (step s action) := holds _ (mem_trace_head _ _)
      exact ⟨next, (inductionHypothesis next later).mp holds⟩
    · intro holds
      exact (inductionHypothesis holds.1 later).mpr holds.2

/-- Across each step, or between any two states in order: the same for a transitive relation. -/
theorem pairwise_trace_iff {relation : S → S → Prop}
    (transitive : ∀ a b c, relation a b → relation b c → relation a c) (s : S) (actions : List A) :
    (trace step s actions).Pairwise relation ↔
      Along step (fun s action => relation s (step s action)) s actions := by
  induction actions generalizing s with
  | nil => simp [trace, Along]
  | cons action rest inductionHypothesis =>
    rw [trace, List.pairwise_cons, inductionHypothesis, Along]
    constructor
    · intro holds
      obtain ⟨fromHead, along⟩ := holds
      exact ⟨fromHead _ (mem_trace_head _ _), along⟩
    · intro holds
      obtain ⟨headStep, along⟩ := holds
      refine ⟨?_, along⟩
      -- a later state is reached from the head through the state after the first step
      have tailPairwise := (inductionHypothesis (step s action)).mpr along
      intro later member
      cases rest with
      | nil => simp only [trace, List.mem_singleton] at member; exact member ▸ headStep
      | cons action' rest' =>
        rw [trace, List.pairwise_cons] at tailPairwise
        rcases List.mem_cons.mp member with rfl | member
        · exact headStep
        · exact transitive _ _ _ headStep (tailPairwise.1 later member)

end Runs

/-! ## Interleaved processes -/

section Interleaving

variable {ι σ τ : Type*} [DecidableEq ι]

/-- A store shared by all processes and the local state of each. -/
structure Config (ι σ τ : Type*) where
  shared : σ
  locals : ι → τ

/-- One atomic step of process `i`; the others do not move. -/
def move (process : ι → σ → τ → σ × τ) (c : Config ι σ τ) (i : ι) : Config ι σ τ :=
  ⟨(process i c.shared (c.locals i)).1,
    Function.update c.locals i (process i c.shared (c.locals i)).2⟩

@[simp] theorem move_shared (process : ι → σ → τ → σ × τ) (c : Config ι σ τ) (i : ι) :
    (move process c i).shared = (process i c.shared (c.locals i)).1 := rfl

@[simp] theorem move_locals_self (process : ι → σ → τ → σ × τ) (c : Config ι σ τ) (i : ι) :
    (move process c i).locals i = (process i c.shared (c.locals i)).2 := by
  simp [move]

@[simp] theorem move_locals_other (process : ι → σ → τ → σ × τ) (c : Config ι σ τ) {i j : ι}
    (different : j ≠ i) : (move process c i).locals j = c.locals j := by
  simp [move, different]

/-- A symmetric relation between any two processes' states is kept when the new
state of the one that moves is related to those of the others. -/
theorem pairwise_update (relation : τ → τ → Prop) (symmetric : ∀ a b, relation a b → relation b a) {locals : ι → τ}
    (before : ∀ j k, j ≠ k → relation (locals j) (locals k)) {i : ι} {state : τ}
    (new : ∀ j, j ≠ i → relation state (locals j)) :
    ∀ j k, j ≠ k → relation (Function.update locals i state j) (Function.update locals i state k) := by
  intro j k different
  by_cases first : j = i
  · subst first
    rw [Function.update_self, Function.update_of_ne different.symm]
    exact new k different.symm
  · rw [Function.update_of_ne first]
    by_cases second : k = i
    · subst second
      rw [Function.update_self]
      exact symmetric _ _ (new j first)
    · rw [Function.update_of_ne second]
      exact before j k different

/-- A global invariant with one assertion for each process. -/
structure Holds (global : σ → Prop) (assertion : ι → σ → τ → Prop) (c : Config ι σ τ) : Prop where
  global : global c.shared
  each : ∀ i, assertion i c.shared (c.locals i)

/-- Owicki–Gries: a guarded step keeps the invariant when the moving process
re-establishes its own assertion and does not disturb the others'. -/
theorem interference_free {process : ι → σ → τ → σ × τ} {global : σ → Prop}
    {assertion : ι → σ → τ → Prop} {c : Config ι σ τ} {i : ι} (holds : Holds global assertion c)
    (kept : global (process i c.shared (c.locals i)).1)
    (own : assertion i (process i c.shared (c.locals i)).1 (process i c.shared (c.locals i)).2)
    (others : ∀ j, j ≠ i → assertion j c.shared (c.locals j) →
      assertion j (process i c.shared (c.locals i)).1 (c.locals j)) :
    Holds global assertion (move process c i) := by
  refine ⟨kept, fun j => ?_⟩
  by_cases same : j = i
  · subst same
    simpa using own
  -- the local state of `j` did not move, but the store it speaks about did
  · rw [move_shared, move_locals_other process c same]
    exact others j same (holds.each j)

end Interleaving

end SurveyPlatform.Library

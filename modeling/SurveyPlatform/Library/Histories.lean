import SurveyPlatform.Library.Runs

/-! # Runs seen from outside

What a run gives out on its way (`emitted`), and what becomes of it when actions
are delivered again.

* `log_run` — a log that every step extends by what it emits holds, after a run,
  exactly what the run emitted;
* `exists_cause` — what holds at the end of a run but not at its start was made to
  hold by one of the actions;
* `run_redelivered` — where a second delivery changes nothing, a run in which
  actions are delivered several times is the run that has each once.
-/

namespace SurveyPlatform.Library

section Histories

variable {S A B : Type*} {step : S → A → S}

/-! ## What a run emits -/

variable (step) in
/-- What the actions of a run emit, in order. -/
def emitted (output : S → A → List B) : S → List A → List B
  | _, [] => []
  | s, action :: rest => output s action ++ emitted output (step s action) rest

/-- A log that each step extends by what it emits. -/
theorem log_run {log : S → List B} {output : S → A → List B} {invariant : S → Prop}
    (preserved : ∀ s action, invariant s → invariant (step s action))
    (extending : ∀ s action, invariant s → log (step s action) = log s ++ output s action)
    {s : S} (start : invariant s) (actions : List A) : log (run step s actions) = log s ++ emitted step output s actions := by
  induction actions generalizing s with
  | nil => exact (List.append_nil _).symm
  | cons action rest inductionHypothesis =>
    rw [run_cons, inductionHypothesis (preserved s action start), extending s action start, emitted, List.append_assoc]

/-! ## Runs in parts -/

theorem run_append (s : S) (actions later : List A) :
    run step s (actions ++ later) = run step (run step s actions) later := List.foldl_append

theorem along_append {property : S → A → Prop} {s : S} {actions later : List A} :
    Along step property s (actions ++ later) ↔
      Along step property s actions ∧ Along step property (run step s actions) later := by
  induction actions generalizing s with
  | nil => rw [List.nil_append, Along, true_and, run, List.foldl_nil]
  | cons action rest inductionHypothesis =>
    rw [List.cons_append, Along, Along, inductionHypothesis, run_cons, and_assoc]

/-! ## What made a property hold -/

/-- A property that fails somewhere on the way and holds at the end was made to hold
by one of the actions, and has held since. -/
theorem exists_cause {property : S → Prop} {s : S} {actions : List A} (failed : ∃ state ∈ trace step s actions, ¬ property state)
    (holds : property (run step s actions)) : ∃ earlier action later, actions = earlier ++ action :: later ∧
      ¬ property (run step s earlier) ∧ ∀ state ∈ trace step (run step s (earlier ++ [action])) later, property state := by
  induction actions generalizing s with
  | nil =>
    obtain ⟨state, member, fails⟩ := failed
    obtain rfl := List.mem_singleton.mp member
    exact absurd holds fails
  | cons action rest inductionHypothesis =>
    by_cases failedLater : ∃ state ∈ trace step (step s action) rest, ¬ property state
    · obtain ⟨earlier, cause, later, rfl, fails, since⟩ := inductionHypothesis failedLater holds
      exact ⟨action :: earlier, cause, later, rfl, fails, since⟩
    · obtain ⟨state, member, fails⟩ := failed
      refine ⟨[], action, rest, rfl, ?_, ?_⟩
      · cases List.mem_cons.mp member with
        | inl isStart => exact isStart ▸ fails
        | inr isLater => exact absurd ⟨state, isLater, fails⟩ failedLater
      · intro state member
        by_contra fails
        exact failedLater ⟨state, member, fails⟩

/-! ## Actions delivered again -/

/-- Each action as often as it was delivered: once, and so many times more. -/
def redelivered (deliveries : List (A × Nat)) : List A :=
  deliveries.flatMap fun delivery => List.replicate (delivery.2 + 1) delivery.1

/-- An action that is idempotent, delivered several times in a row. -/
theorem run_replicate {action : A} (idempotent : ∀ s, step (step s action) action = step s action) (s : S) (more : Nat) :
    run step s (List.replicate (more + 1) action) = step s action := by
  induction more with
  | zero => rfl
  | succ more inductionHypothesis =>
    rw [List.replicate_succ', run_append, inductionHypothesis]
    exact idempotent s

theorem run_redelivered {deliveries : List (A × Nat)}
    (idempotent : ∀ delivery ∈ deliveries, delivery.2 ≠ 0 → ∀ s, step (step s delivery.1) delivery.1 = step s delivery.1)
    (s : S) : run step s (redelivered deliveries) = run step s (deliveries.map Prod.fst) := by
  induction deliveries generalizing s with
  | nil => rfl
  | cons delivery rest inductionHypothesis =>
    obtain ⟨first, later⟩ := List.forall_mem_cons.mp idempotent
    rw [redelivered, List.flatMap_cons, run_append, List.map_cons, run_cons]
    have once : run step s (List.replicate (delivery.2 + 1) delivery.1) = step s delivery.1 := by
      by_cases single : delivery.2 = 0
      · rw [single]
        rfl
      · exact run_replicate (first single) s delivery.2
    rw [once]
    exact inductionHypothesis later (step s delivery.1)

end Histories

end SurveyPlatform.Library

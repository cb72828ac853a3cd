import Mathlib.Data.List.Basic

/-! # Lists that differ in ordinary runs

Two renderings of one thing often agree in the marks a reader looks for and
differ in the ordinary text between them.  `Alike` relates such lists: each
keeps the other's marks in their order, with text between two marks exactly
where the other has some.  A split at a mark carries over (`Alike.split`).
-/

namespace SurveyPlatform.Library

variable {α : Type} {ordinary : α → Prop}

/-- Runs of ordinary elements are rewritten, and none of them from or to nothing. -/
inductive Alike (ordinary : α → Prop) : List α → List α → Prop where
  | nil : Alike ordinary [] []
  | same (x : α) {xs ys : List α} (rest : Alike ordinary xs ys) : Alike ordinary (x :: xs) (x :: ys)
  | rewritten {run run' xs ys : List α} (nonempty : run ≠ []) (nonempty' : run' ≠ [])
      (areOrdinary : ∀ x ∈ run ++ run', ordinary x) (rest : Alike ordinary xs ys) :
      Alike ordinary (run ++ xs) (run' ++ ys)

namespace Alike

theorem refl (xs : List α) : Alike ordinary xs xs := by
  induction xs with
  | nil => exact nil
  | cons x xs inductionHypothesis => exact same x inductionHypothesis

theorem ofOrdinary {xs ys : List α} (nonempty : xs ≠ []) (nonempty' : ys ≠ [])
    (areOrdinary : ∀ x ∈ xs ++ ys, ordinary x) : Alike ordinary xs ys := by
  have alone := rewritten nonempty nonempty' areOrdinary nil
  rwa [List.append_nil, List.append_nil] at alone

theorem append {xs ys xs' ys' : List α} (left : Alike ordinary xs ys) (right : Alike ordinary xs' ys') :
    Alike ordinary (xs ++ xs') (ys ++ ys') := by
  induction left with
  | nil => exact right
  | same x rest inductionHypothesis => exact same x inductionHypothesis
  | rewritten nonempty nonempty' areOrdinary rest inductionHypothesis =>
    rw [List.append_assoc, List.append_assoc]
    exact rewritten nonempty nonempty' areOrdinary inductionHypothesis

theorem ne_nil {xs ys : List α} (alike : Alike ordinary xs ys) (nonempty : xs ≠ []) : ys ≠ [] := by
  cases alike with
  | nil => exact nonempty
  | same => exact List.cons_ne_nil _ _
  | rewritten _ nonempty' => exact List.append_ne_nil_of_left_ne_nil nonempty' _

theorem forall_mem {holds : α → Prop} (ofOrdinary : ∀ x, ordinary x → holds x) {xs ys : List α}
    (alike : Alike ordinary xs ys) (all : ∀ x ∈ xs, holds x) : ∀ y ∈ ys, holds y := by
  induction alike with
  | nil => exact all
  | same x rest inductionHypothesis =>
    rw [List.forall_mem_cons] at all ⊢
    exact ⟨all.1, inductionHypothesis all.2⟩
  | rewritten _ _ areOrdinary rest inductionHypothesis =>
    rw [List.forall_mem_append] at all areOrdinary ⊢
    exact ⟨fun y member => ofOrdinary y (areOrdinary.2 y member), inductionHypothesis all.2⟩

/-- A mark of one list is a mark of the other, and what stands around it is alike. -/
theorem split {mark : α} (isMark : ¬ ordinary mark) {whole ys : List α} (alike : Alike ordinary whole ys) :
    ∀ {xs xs' : List α}, whole = xs ++ mark :: xs' →
      ∃ zs zs', ys = zs ++ mark :: zs' ∧ Alike ordinary xs zs ∧ Alike ordinary xs' zs' := by
  induction alike with
  | nil =>
    intro xs xs' shape
    cases xs <;> cases shape
  | same x rest inductionHypothesis =>
    intro xs xs' shape
    cases xs with
    | nil =>
      obtain ⟨rfl, rfl⟩ := List.cons.inj shape
      exact ⟨[], _, rfl, nil, rest⟩
    | cons first others =>
      obtain ⟨rfl, shape'⟩ := List.cons.inj shape
      obtain ⟨zs, zs', rfl, before, after⟩ := inductionHypothesis shape'
      exact ⟨x :: zs, zs', rfl, same x before, after⟩
  | rewritten nonempty nonempty' areOrdinary rest inductionHypothesis =>
    rename_i run run' _ _
    intro xs xs' shape
    obtain ⟨beyond, inLeft, inRight⟩ | ⟨beyond, inLeft, inRight⟩ := List.append_eq_append_iff.mp shape
    · obtain ⟨zs, zs', rfl, before, after⟩ := inductionHypothesis inRight
      rw [inLeft]
      exact ⟨run' ++ zs, zs', (List.append_assoc _ _ _).symm, rewritten nonempty nonempty' areOrdinary before, after⟩
    · cases beyond with
      | nil =>
        obtain ⟨zs, zs', rfl, before, after⟩ := @inductionHypothesis [] xs' inRight.symm
        rw [List.append_nil] at inLeft
        have whole := rewritten nonempty nonempty' areOrdinary before
        rw [List.append_nil, inLeft] at whole
        exact ⟨run' ++ zs, zs', (List.append_assoc _ _ _).symm, whole, after⟩
      -- the run has no mark
      | cons first others =>
        obtain ⟨rfl, _⟩ := List.cons.inj inRight
        have inRun : mark ∈ run ++ run' := by simp [inLeft]
        exact absurd (areOrdinary mark inRun) isMark

end Alike

end SurveyPlatform.Library

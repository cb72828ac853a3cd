import SurveyPlatform.Library.Programs

/-! # Programs on a part of the state

A `Part` of a larger state is read and replaced.  `focusing` runs a program on
the part alone; `Follows` says that a program of the larger state does to the
part exactly what another program does.  A program assembled from followers, in
the shape of what they follow, is one itself.
-/

namespace SurveyPlatform.Library

/-- A part of a larger state. -/
structure Part (τ σ : Type) where
  get : τ → σ
  set : σ → τ → τ
  get_set : ∀ s t, get (set s t) = s

namespace Program

variable {ε σ τ α β : Type}

def focusing (part : Part τ σ) (program : EStateM ε σ α) : EStateM ε τ α := fun t =>
  match program (part.get t) with
  | .ok a s => .ok a (part.set s t)
  | .error e s => .error e (part.set s t)

/-- A result as seen on the part. -/
def onPart (part : Part τ σ) : EStateM.Result ε τ α → EStateM.Result ε σ α
  | .ok a t => .ok a (part.get t)
  | .error e t => .error e (part.get t)

def Follows (part : Part τ σ) (program : EStateM ε τ α) (model : EStateM ε σ α) : Prop :=
  ∀ t, onPart part (program t) = model (part.get t)

variable {part : Part τ σ}

/-! ## Focused programs -/

theorem focusing_of_ok {program : EStateM ε σ α} {t : τ} {a : α} {s : σ} (result : program (part.get t) = .ok a s) :
    focusing part program t = .ok a (part.set s t) := by
  rw [focusing, result]

theorem focusing_of_error {program : EStateM ε σ α} {t : τ} {e : ε} {s : σ}
    (result : program (part.get t) = .error e s) : focusing part program t = .error e (part.set s t) := by
  rw [focusing, result]

theorem focusing_eq_ok {program : EStateM ε σ α} {t u : τ} {a : α} (result : focusing part program t = .ok a u) :
    ∃ s, program (part.get t) = .ok a s ∧ u = part.set s t := by
  unfold focusing at result
  cases inner : program (part.get t) with
  | ok b s =>
    rw [inner] at result
    cases result
    exact ⟨s, rfl, rfl⟩
  | error e s =>
    rw [inner] at result
    cases result

theorem final_focusing (program : EStateM ε σ α) (t : τ) :
    final (focusing part program) t = part.set (final program (part.get t)) t := by
  unfold final focusing
  cases program (part.get t) <;> rfl

/-! ## Followers -/

theorem Follows.final {program : EStateM ε τ α} {model : EStateM ε σ α} (follows : Follows part program model) (t : τ) :
    part.get (final program t) = Program.final model (part.get t) := by
  have same := follows t
  unfold Program.final
  cases result : program t with
  | ok a u =>
    rw [result] at same
    rw [← same]
    rfl
  | error e u =>
    rw [result] at same
    rw [← same]
    rfl

theorem follows_focusing (program : EStateM ε σ α) : Follows part (focusing part program) program := by
  intro t
  unfold focusing
  cases program (part.get t) <;> simp only [onPart, part.get_set]

theorem follows_pure (a : α) : Follows part (pure a : EStateM ε τ α) (pure a) := fun _ => rfl

theorem follows_throw (e : ε) : Follows part (throw e : EStateM ε τ α) (throw e) := fun _ => rfl

theorem follows_bind {program : EStateM ε τ α} {model : EStateM ε σ α} {next : α → EStateM ε τ β}
    {nextModel : α → EStateM ε σ β} (first : Follows part program model)
    (rest : ∀ a, Follows part (next a) (nextModel a)) : Follows part (program >>= next) (model >>= nextModel) := by
  intro t
  have same := first t
  cases result : program t with
  | ok a u =>
    rw [result] at same
    rw [bind_of_ok result, bind_of_ok same.symm]
    exact rest a u
  | error e u =>
    rw [result] at same
    rw [bind_of_error result, bind_of_error same.symm]
    rfl

theorem follows_ite {condition : Prop} [Decidable condition] {program other : EStateM ε τ α}
    {model otherModel : EStateM ε σ α} (holds : Follows part program model) (fails : Follows part other otherModel) :
    Follows part (if condition then program else other) (if condition then model else otherModel) := by
  split
  · exact holds
  · exact fails

theorem follows_translating {translate : ε → ε} {program : EStateM ε τ α} {model : EStateM ε σ α}
    (follows : Follows part program model) : Follows part (translating translate program) (translating translate model) := by
  intro t
  have same := follows t
  unfold translating
  rw [← same]
  cases program t <;> rfl

theorem follows_atomic {rollback : τ → τ → τ} {rollbackModel : σ → σ → σ} {program : EStateM ε τ α}
    {model : EStateM ε σ α} (follows : Follows part program model)
    (undoes : ∀ t u, part.get (rollback t u) = rollbackModel (part.get t) (part.get u)) :
    Follows part (atomic rollback program) (atomic rollbackModel model) := by
  intro t
  have same := follows t
  unfold atomic
  rw [← same]
  cases program t with
  | ok a u => rfl
  | error e u => exact congrArg (EStateM.Result.error e) (undoes t u)

theorem follows_adaptExcept {ε' : Type} {adapt : ε → ε'} {program : EStateM ε τ α} {model : EStateM ε σ α}
    (follows : Follows part program model) :
    Follows part (EStateM.adaptExcept adapt program) (EStateM.adaptExcept adapt model) := by
  intro t
  have same := follows t
  unfold EStateM.adaptExcept
  rw [← same]
  cases program t <;> rfl

end Program

end SurveyPlatform.Library

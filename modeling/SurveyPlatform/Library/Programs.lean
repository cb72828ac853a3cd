import Mathlib.Tactic.Common

/-! # Programs with state and exceptions

`EStateM ε σ`: an exception leaves the state as it was when it was raised.  The
building blocks are `reading` (a look at the state that may raise), `writing`
(a change that cannot), `translating` (an exception handler that raises
another exception) and `atomic` (a transaction: an exception rolls back).

A run is taken apart from its result by `bind_eq_ok_iff`, `reading_bind_eq_ok_iff`
and the other `_eq_ok_iff` equations; what it does to the state, returned or raised, by `relates_bind`.
-/

namespace SurveyPlatform.Library

variable {ε σ α β : Type}

namespace Program

/-- A look at the state. -/
def reading (look : σ → Except ε α) : EStateM ε σ α := fun s =>
  match look s with
  | .ok a => .ok a s
  | .error e => .error e s

/-- A change of the state. -/
def writing (change : σ → σ) : EStateM ε σ Unit := fun s => .ok () (change s)

/-- `try: body` / `except e: raise translate(e)` -/
def translating (translate : ε → ε) (body : EStateM ε σ α) : EStateM ε σ α := fun s =>
  match body s with
  | .ok a t => .ok a t
  -- what the body did stays done
  | .error e t => .error (translate e) t

/-- `body` in a transaction; `rollback` undoes its changes. -/
def atomic (rollback : σ → σ → σ) (body : EStateM ε σ α) : EStateM ε σ α := fun s =>
  match body s with
  | .ok a t => .ok a t
  | .error e t => .error e (rollback s t)

/-- The state a run ends in, whether it returned or raised. -/
def final (program : EStateM ε σ α) (s : σ) : σ :=
  match program s with
  | .ok _ t => t
  | .error _ t => t

/-- What a run returned or raised, without the state. -/
def outcome (program : EStateM ε σ α) (s : σ) : Except ε α :=
  match program s with
  | .ok a _ => .ok a
  | .error e _ => .error e

/-- How a run ends: the exception, if there was one, and the state. -/
def ending (program : EStateM ε σ α) (s : σ) : Option ε × σ :=
  match program s with
  | .ok _ t => (none, t)
  | .error e t => (some e, t)

/-! ## Runs that return -/

theorem bind_eq_ok_iff {program : EStateM ε σ α} {next : α → EStateM ε σ β} {s t : σ} {b : β} :
    (program >>= next) s = .ok b t ↔ ∃ a u, program s = .ok a u ∧ next a u = .ok b t := by
  simp only [bind, EStateM.bind]
  cases program s with
  | ok a u => simp
  | error e u => simp

theorem pure_eq_ok_iff {a b : α} {s t : σ} :
    (pure a : EStateM ε σ α) s = .ok b t ↔ b = a ∧ t = s := by
  simp [pure, EStateM.pure, eq_comm]

theorem reading_eq_ok_iff {look : σ → Except ε α} {a : α} {s t : σ} :
    reading look s = .ok a t ↔ look s = .ok a ∧ t = s := by
  unfold reading
  cases look s <;> simp [eq_comm]

theorem reading_bind_eq_ok_iff {look : σ → Except ε α} {next : α → EStateM ε σ β} {s t : σ} {b : β} :
    (reading look >>= next) s = .ok b t ↔ ∃ a, look s = .ok a ∧ next a s = .ok b t := by
  simp only [bind, EStateM.bind, reading]
  cases look s <;> simp

theorem writing_eq_ok_iff {change : σ → σ} {u : Unit} {s t : σ} :
    (writing change : EStateM ε σ Unit) s = .ok u t ↔ t = change s := by
  simp [writing, eq_comm]

theorem translating_eq_ok_iff {translate : ε → ε} {body : EStateM ε σ α} {a : α} {s t : σ} :
    translating translate body s = .ok a t ↔ body s = .ok a t := by
  unfold translating
  cases body s <;> simp

theorem atomic_eq_ok_iff {rollback : σ → σ → σ} {body : EStateM ε σ α} {a : α} {s t : σ} :
    atomic rollback body s = .ok a t ↔ body s = .ok a t := by
  unfold atomic
  cases body s <;> simp

/-! ## Runs that raise -/

theorem translating_eq_error_iff {translate : ε → ε} {body : EStateM ε σ α} {e : ε} {s t : σ} :
    translating translate body s = .error e t ↔ ∃ e', body s = .error e' t ∧ e = translate e' := by
  unfold translating
  cases body s with
  | ok a u => simp
  | error e' u => simp [eq_comm, and_comm]

theorem atomic_eq_error_iff {rollback : σ → σ → σ} {body : EStateM ε σ α} {e : ε} {s t : σ} :
    atomic rollback body s = .error e t ↔ ∃ u, body s = .error e u ∧ t = rollback s u := by
  unfold atomic
  cases body s with
  | ok a u => simp
  | error e' u => simp [eq_comm]

theorem translating_of_error {translate : ε → ε} {body : EStateM ε σ α} {e : ε} {s t : σ}
    (raised : body s = .error e t) : translating translate body s = .error (translate e) t :=
  translating_eq_error_iff.mpr ⟨e, raised, rfl⟩

theorem atomic_of_error {rollback : σ → σ → σ} {body : EStateM ε σ α} {e : ε} {s t : σ}
    (raised : body s = .error e t) : atomic rollback body s = .error e (rollback s t) :=
  atomic_eq_error_iff.mpr ⟨t, raised, rfl⟩

/-! ## Running a prefix -/

theorem bind_of_ok {program : EStateM ε σ α} {next : α → EStateM ε σ β} {s t : σ} {a : α}
    (result : program s = .ok a t) : (program >>= next) s = next a t := by
  simp only [bind, EStateM.bind, result]

theorem bind_of_error {program : EStateM ε σ α} {next : α → EStateM ε σ β} {s t : σ} {e : ε}
    (result : program s = .error e t) : (program >>= next) s = .error e t := by
  simp only [bind, EStateM.bind, result]

theorem reading_of_error {look : σ → Except ε α} {s : σ} {e : ε} (raised : look s = .error e) :
    reading look s = .error e s := by
  rw [reading, raised]

theorem reading_bind (look : σ → Except ε α) (next : α → EStateM ε σ β) (s : σ) :
    (reading look >>= next) s =
      match look s with
      | .ok a => next a s
      | .error e => .error e s := by
  simp only [bind, EStateM.bind, reading]
  cases look s <;> rfl

theorem reading_bind_ok {look : σ → Except ε α} {next : α → EStateM ε σ β} {s : σ} {a : α}
    (found : look s = .ok a) : (reading look >>= next) s = next a s := by
  rw [reading_bind, found]

theorem reading_bind_error {look : σ → Except ε α} {next : α → EStateM ε σ β} {s : σ} {e : ε}
    (raised : look s = .error e) : (reading look >>= next) s = .error e s := by
  rw [reading_bind, raised]

/-! ## What a run does to the state -/

@[simp] theorem final_translating (translate : ε → ε) (body : EStateM ε σ α) (s : σ) :
    final (translating translate body) s = final body s := by
  unfold final translating
  cases body s <;> rfl

theorem final_pure (a : α) (s : σ) : final (pure a : EStateM ε σ α) s = s := rfl

theorem final_of_ok {program : EStateM ε σ α} {s t : σ} {a : α} (result : program s = .ok a t) :
    final program s = t := by
  rw [final, result]

theorem final_of_error {program : EStateM ε σ α} {s t : σ} {e : ε} (result : program s = .error e t) :
    final program s = t := by
  rw [final, result]

theorem outcome_of_ok {program : EStateM ε σ α} {s t : σ} {a : α} (result : program s = .ok a t) :
    outcome program s = .ok a := by
  rw [outcome, result]

theorem outcome_of_error {program : EStateM ε σ α} {s t : σ} {e : ε} (result : program s = .error e t) :
    outcome program s = .error e := by
  rw [outcome, result]

theorem outcome_eq_ok {program : EStateM ε σ α} {s : σ} {a : α} (answered : outcome program s = .ok a) :
    ∃ t, program s = .ok a t := by
  rw [outcome] at answered
  cases result : program s with
  | ok b t =>
    rw [result] at answered
    exact ⟨t, by rw [Except.ok.inj answered]⟩
  | error e t =>
    rw [result] at answered
    cases answered

/-- A sequence relates its ends when both parts do. -/
theorem relates_bind {relation : σ → σ → Prop} (transitive : ∀ a b c, relation a b → relation b c → relation a c)
    {program : EStateM ε σ α} {next : α → EStateM ε σ β} {s : σ}
    (first : relation s (final program s))
    (rest : ∀ a t, program s = .ok a t → relation t (final (next a) t)) :
    relation s (final (program >>= next) s) := by
  simp only [final, bind, EStateM.bind] at first rest ⊢
  cases result : program s with
  | ok a t =>
    rw [result] at first
    -- `next` runs only when the first part returned
    exact transitive _ _ _ first (rest a t result)
  | error e t =>
    rw [result] at first
    exact first

/-- What follows leaves this part of the state as it is. -/
theorem final_bind_of_same {γ : Type} (part : σ → γ) {program : EStateM ε σ α} {next : α → EStateM ε σ β} {s : σ}
    (same : ∀ a t, part (final (next a) t) = part t) :
    part (final (program >>= next) s) = part (final program s) := by
  simp only [final, bind, EStateM.bind] at same ⊢
  cases program s with
  | ok a t => exact same a t
  | error e t => rfl

/-- What follows changes nothing. -/
theorem final_bind_same {program : EStateM ε σ α} {next : α → EStateM ε σ β} {s : σ}
    (same : ∀ a t, final (next a) t = t) : final (program >>= next) s = final program s :=
  final_bind_of_same id same

/-- After a look at the state, only what was seen matters. -/
theorem relates_reading_bind {relation : σ → σ → Prop} (reflexive : ∀ s, relation s s)
    {look : σ → Except ε α} {next : α → EStateM ε σ β} {s : σ}
    (rest : ∀ a, look s = .ok a → relation s (final (next a) s)) :
    relation s (final (reading look >>= next) s) := by
  unfold final
  rw [reading_bind]
  cases found : look s with
  | ok a => exact rest a found
  | error e => exact reflexive s

theorem relates_atomic {relation : σ → σ → Prop} {rollback : σ → σ → σ} {body : EStateM ε σ α} {s : σ}
    (returned : ∀ a t, body s = .ok a t → relation s t)
    (raised : ∀ e t, body s = .error e t → relation s (rollback s t)) :
    relation s (final (atomic rollback body) s) := by
  unfold final atomic
  cases result : body s with
  | ok a t => exact returned a t result
  | error e t => exact raised e t result

/-! ## How a run ends -/

theorem ending_of_ok {program : EStateM ε σ α} {s t : σ} {a : α} (result : program s = .ok a t) :
    ending program s = (none, t) := by
  rw [ending, result]

theorem ending_of_error {program : EStateM ε σ α} {s t : σ} {e : ε} (result : program s = .error e t) :
    ending program s = (some e, t) := by
  rw [ending, result]

theorem ending_bind_of_ok {program : EStateM ε σ α} {next : α → EStateM ε σ β} {s t : σ} {a : α}
    (result : program s = .ok a t) : ending (program >>= next) s = ending (next a) t := by
  rw [ending, bind_of_ok result, ending]

theorem ending_snd (program : EStateM ε σ α) (s : σ) : (ending program s).2 = final program s := by
  unfold ending final
  cases program s <;> rfl

/-- Nothing is done with the answer but to return something made of it. -/
theorem ending_bind_pure (program : EStateM ε σ α) (f : α → β) (s : σ) :
    ending (program >>= fun a => pure (f a)) s = ending program s := by
  unfold ending
  simp only [bind, EStateM.bind]
  cases program s <;> rfl

/-! ## What a run answers -/

theorem outcome_reading_bind (look : σ → Except ε α) (next : α → EStateM ε σ β) (s : σ) :
    outcome (reading look >>= next) s = (look s).bind fun a => outcome (next a) s := by
  unfold outcome
  rw [reading_bind]
  cases look s <;> rfl

/-- Programs that answer alike, from any two states, still do when something is made of the answer. -/
theorem outcome_bind_pure_congr {program program' : EStateM ε σ α} (f : α → β) {s s' : σ}
    (same : outcome program' s' = outcome program s) :
    outcome (program' >>= fun a => pure (f a)) s' = outcome (program >>= fun a => pure (f a)) s := by
  simp only [outcome, bind, EStateM.bind] at same ⊢
  cases result : program s <;> cases result' : program' s' <;> simp_all [pure, EStateM.pure]

/-! ## Programs that change nothing when they raise -/

def RaisesClean (program : EStateM ε σ α) : Prop := ∀ s e t, program s = .error e t → t = s

theorem RaisesClean.final_cases {program : EStateM ε σ α} (clean : RaisesClean program) (s : σ) :
    final program s = s ∨ ∃ a, program s = .ok a (final program s) := by
  cases result : program s with
  | ok a t => exact Or.inr ⟨a, by rw [final_of_ok result]⟩
  | error e t => exact Or.inl ((final_of_error result).trans (clean s e t result))

theorem raisesClean_reading_bind {look : σ → Except ε α} {next : α → EStateM ε σ β} (rest : ∀ a, RaisesClean (next a)) :
    RaisesClean (reading look >>= next) := by
  intro s e t raised
  cases found : look s with
  | ok a =>
    rw [reading_bind_ok found] at raised
    exact rest a s e t raised
  | error e' =>
    rw [reading_bind_error found] at raised
    cases raised
    rfl

theorem raisesClean_writing (change : σ → σ) : RaisesClean (writing change : EStateM ε σ Unit) :=
  fun _ _ _ raised => by cases raised

theorem RaisesClean.bind_pure {program : EStateM ε σ α} (clean : RaisesClean program) (f : α → β) :
    RaisesClean (program >>= fun a => pure (f a)) := by
  intro s e t raised
  cases result : program s with
  | ok a u =>
    rw [bind_of_ok result] at raised
    cases raised
  | error e' u =>
    rw [bind_of_error result] at raised
    cases raised
    exact clean s e t result

/-! ## Programs that only append to a log -/

/-- Whatever the program does, it leaves the log behind longer, by entries that are allowed. -/
def Appends {γ : Type} (log : σ → List γ) (allowed : γ → Prop) (program : EStateM ε σ α) : Prop :=
  ∀ s, ∃ added, log (final program s) = log s ++ added ∧ ∀ entry ∈ added, allowed entry

section Appends

variable {γ : Type} {log : σ → List γ} {allowed : γ → Prop}

/-- A program that leaves the log alone. -/
theorem Appends.of_same {program : EStateM ε σ α} (same : ∀ s, log (final program s) = log s) :
    Appends log allowed program := fun s => ⟨[], by rw [same, List.append_nil], by simp⟩

theorem appends_pure (a : α) : Appends log allowed (pure a : EStateM ε σ α) := .of_same fun _ => rfl

theorem appends_throw (e : ε) : Appends log allowed (throw e : EStateM ε σ α) := .of_same fun _ => rfl

theorem appends_bind {program : EStateM ε σ α} {next : α → EStateM ε σ β} (first : Appends log allowed program)
    (rest : ∀ a, Appends log allowed (next a)) : Appends log allowed (program >>= next) := by
  intro s
  obtain ⟨added, appended, fine⟩ := first s
  cases result : program s with
  | error e t =>
    rw [final_of_error result] at appended
    rw [final_of_error (bind_of_error result)]
    exact ⟨added, appended, fine⟩
  | ok a t =>
    rw [final_of_ok result] at appended
    obtain ⟨later, appendedLater, fineLater⟩ := rest a t
    refine ⟨added ++ later, ?_, List.forall_mem_append.mpr ⟨fine, fineLater⟩⟩
    rw [← List.append_assoc, ← appended, ← appendedLater, final, bind_of_ok result, final]

theorem appends_translating {translate : ε → ε} {program : EStateM ε σ α} (appends : Appends log allowed program) :
    Appends log allowed (translating translate program) := by
  intro s
  rw [final_translating]
  exact appends s

/-- A transaction that does not take the log back. -/
theorem appends_atomic {rollback : σ → σ → σ} (keeps : ∀ s t, log (rollback s t) = log t) {program : EStateM ε σ α}
    (appends : Appends log allowed program) : Appends log allowed (atomic rollback program) := by
  intro s
  have same : log (final (atomic rollback program) s) = log (final program s) := by
    unfold final atomic
    cases program s with
    | ok a t => rfl
    | error e t => exact keeps s t
  rw [same]
  exact appends s

end Appends

/-! ## Loops that may raise -/

theorem foldlM_invariant {step : σ → α → Except ε σ} {invariant : σ → Prop} {items : List α}
    (preserved : ∀ item ∈ items, ∀ s t, invariant s → step s item = .ok t → invariant t) {s t : σ}
    (start : invariant s) (result : items.foldlM step s = .ok t) : invariant t := by
  induction items generalizing s with
  | nil =>
    cases result
    exact start
  | cons item rest inductionHypothesis =>
    rw [List.foldlM_cons] at result
    cases first : step s item with
    | error e =>
      rw [first] at result
      cases result
    | ok u =>
      rw [first] at result
      exact inductionHypothesis (fun other member => preserved other (List.mem_cons_of_mem _ member))
        (preserved item List.mem_cons_self s u start first) result

/-- The turn of one item, between the turns before and after it. -/
theorem foldlM_turn {step : σ → α → Except ε σ} {items : List α} {item : α} (member : item ∈ items) {s t : σ}
    (result : items.foldlM step s = .ok t) : ∃ before after u v, items = before ++ item :: after ∧
      before.foldlM step s = .ok u ∧ step u item = .ok v ∧ after.foldlM step v = .ok t := by
  obtain ⟨before, after, rfl⟩ := List.append_of_mem member
  rw [List.foldlM_append] at result
  cases first : before.foldlM step s with
  | error e =>
    rw [first] at result
    cases result
  | ok u =>
    rw [first] at result
    change (item :: after).foldlM step u = .ok t at result
    rw [List.foldlM_cons] at result
    cases turn : step u item with
    | error e =>
      rw [turn] at result
      cases result
    | ok v =>
      rw [turn] at result
      exact ⟨before, after, u, v, rfl, first, turn, result⟩

end Program

end SurveyPlatform.Library

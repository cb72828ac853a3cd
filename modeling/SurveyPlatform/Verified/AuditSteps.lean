import SurveyPlatform.Verified.AnswerDurability
import SurveyPlatform.Verified.AuditDeletions
import SurveyPlatform.Verified.AuditRefinement
import SurveyPlatform.Verified.EditEffects

/-! # What one request publishes

A run is `Accounted` when its tasks are those of the changes that stand, and
`RolledBack` when one task is out and no change stands.  Statements alone are
accounted; a save and a check in one transaction are one or the other
(`accounted_checkedUpdate`, `rolledBack_checkedUpdate`).
-/

namespace SurveyPlatform.Verified

open SurveyPlatform.Library SurveyPlatform.Library.Program SurveyPlatform.Python
open SurveyPlatform.Surveys SurveyPlatform.Responses
open SurveyPlatform.Audit (Audited Worker worldPart quietly auditedAtomic ModelClass AuditTask RowChange ThreadLocal
  trackedModels)

/-! ## Accounted and rolled back -/

/-- The user and the address are those stored in the thread. -/
def SentFrom (context : ThreadLocal) (task : AuditTask) : Prop :=
  task.userId = context.currentUser.map User.id ∧ task.ipAddress = context.ipAddress

theorem sentFrom_auditPostSave (context : ThreadLocal) (sender : ModelClass) (pk : Nat) (created : Bool) :
    ∀ task ∈ (Audit.auditPostSave context sender pk created).toList, SentFrom context task := by
  intro task member
  rw [Option.mem_toList, Audit.auditPostSave] at member
  split at member
  · cases member
    exact ⟨rfl, rfl⟩
  · cases member

theorem sentFrom_auditPostDelete (context : ThreadLocal) (instances : List (ModelClass × Nat)) :
    ∀ task ∈ instances.filterMap fun (sender, pk) => Audit.auditPostDelete context sender pk, SentFrom context task := by
  intro task member
  obtain ⟨_, _, sent⟩ := List.mem_filterMap.mp member
  simp only [Audit.auditPostDelete] at sent
  split at sent
  · cases sent
    exact ⟨rfl, rfl⟩
  · cases sent

structure Accounted (before after : Worker) : Prop where
  sameThread : after.threadLocal = before.threadLocal
  matched : ∃ tasks changes, after.published = before.published ++ tasks ∧
    after.journal = before.journal ++ changes ∧
    (tasks.map AuditTask.entry).Perm (changes.map RowChange.entry) ∧ ∀ task ∈ tasks, SentFrom before.threadLocal task

structure RolledBack (before after : Worker) : Prop where
  sameThread : after.threadLocal = before.threadLocal
  sameJournal : after.journal = before.journal
  sent : ∃ task, after.published = before.published ++ [task] ∧ SentFrom before.threadLocal task

theorem Accounted.of_same {before after : Worker} (sameThread : after.threadLocal = before.threadLocal)
    (samePublished : after.published = before.published) (sameJournal : after.journal = before.journal) :
    Accounted before after :=
  ⟨sameThread, [], [], by simp [samePublished], by simp [sameJournal], List.Perm.refl _, by simp⟩

theorem Accounted.refl (worker : Worker) : Accounted worker worker := Accounted.of_same rfl rfl rfl

theorem Accounted.trans (a b c : Worker) (first : Accounted a b) (second : Accounted b c) : Accounted a c := by
  obtain ⟨thread, tasks, changes, published, journal, perm, sent⟩ := first
  obtain ⟨thread', tasks', changes', published', journal', perm', sent'⟩ := second
  refine ⟨thread'.trans thread, tasks ++ tasks', changes ++ changes', ?_, ?_, ?_, ?_⟩
  · rw [published', published, List.append_assoc]
  · rw [journal', journal, List.append_assoc]
  · rw [List.map_append, List.map_append]
    exact perm.append perm'
  · intro task member
    cases List.mem_append.mp member with
    | inl early => exact sent task early
    | inr late => exact thread ▸ sent' task late

/-! ## Rules for programs -/

section Rules

variable {ε α β : Type} {worker : Worker}

theorem accounted_quietly (program : EStateM ε World α) : Accounted worker (final (quietly program) worker) := by
  rw [quietly, final_focusing]
  exact Accounted.of_same rfl rfl rfl

theorem accounted_bind {program : EStateM ε Worker α} {next : α → EStateM ε Worker β}
    (first : Accounted worker (final program worker)) (rest : ∀ a t, program worker = .ok a t → Accounted t (final (next a) t)) :
    Accounted worker (final (program >>= next) worker) :=
  relates_bind Accounted.trans first rest

/-- Whatever the program returns, the rest is accounted. -/
theorem accounted_quietly_bind (program : EStateM ε World α) {next : α → EStateM ε Worker β}
    (rest : ∀ a t, Accounted t (final (next a) t)) : Accounted worker (final (quietly program >>= next) worker) :=
  accounted_bind (accounted_quietly program) fun a t _ => rest a t

/-- The four checks before a write. -/
theorem accounted_guarded {γ δ η : Type} {p : EStateM ε World α} {q : α → EStateM ε World β}
    {r : α → β → EStateM ε World γ} {s : α → β → γ → EStateM ε World δ} {next : α → β → γ → δ → EStateM ε Worker η}
    (rest : ∀ a b c d t, Accounted t (final (next a b c d) t)) :
    Accounted worker (final (do
      let a ← quietly p
      let b ← quietly (q a)
      let c ← quietly (r a b)
      let d ← quietly (s a b c)
      next a b c d) worker) :=
  accounted_quietly_bind _ fun _ _ => accounted_quietly_bind _ fun _ _ => accounted_quietly_bind _ fun _ _ =>
    accounted_quietly_bind _ fun _ _ => rest _ _ _ _ _

/-- A write and the clearing of the cache. -/
theorem accounted_cleared {γ : Type} {program : EStateM ε Worker α} {clear : α → EStateM ε World β} {result : α → γ}
    (written : Accounted worker (final program worker)) :
    Accounted worker (final (do
      let a ← program
      let _ ← quietly (clear a)
      return result a) worker) :=
  accounted_bind written fun _ _ _ => accounted_quietly_bind _ fun _ t => Accounted.refl t

theorem accounted_translating {translate : ε → ε} {program : EStateM ε Worker α}
    (accounted : Accounted worker (final program worker)) : Accounted worker (final (translating translate program) worker) := by
  rwa [final_translating]

/-- A query that finds something leaves the worker as it is. -/
theorem quietly_query_of_ok {look : Database → Except PyExn α} {a : α} (found : look worker.world.db = .ok a) :
    quietly (query look) worker = .ok a worker :=
  focusing_of_ok (query_eq_ok_iff.mpr ⟨found, rfl⟩)

theorem quietly_query_of_error {look : Database → Except PyExn α} {exn : PyExn}
    (refused : look worker.world.db = .error exn) : quietly (query look) worker = .error exn worker :=
  focusing_of_error (reading_of_error refused)

theorem quietly_query_bind_of_ok {look : Database → Except PyExn α} {next : α → Audited β} {a : α}
    (found : look worker.world.db = .ok a) : (quietly (query look) >>= next) worker = next a worker :=
  bind_of_ok (quietly_query_of_ok found)

/-- Only what was found matters. -/
theorem accounted_query_bind {look : Database → Except PyExn α} {next : α → Audited β}
    (rest : ∀ a, look worker.world.db = .ok a → Accounted worker (final (next a) worker)) :
    Accounted worker (final (quietly (query look) >>= next) worker) := by
  apply accounted_bind (accounted_quietly _)
  intro a t returned
  obtain ⟨s, looked, rfl⟩ := focusing_eq_ok returned
  obtain ⟨found, rfl⟩ := query_eq_ok_iff.mp looked
  exact rest a found

theorem accounted_requireAdmin_bind {user : User} {next : Unit → Audited β}
    (rest : user.role = .admin → Accounted worker (final (next ()) worker)) :
    Accounted worker (final (quietly (requireAdmin user) >>= next) worker) := by
  apply accounted_query_bind
  intro _ permitted
  refine rest ?_
  by_contra notAdmin
  rw [if_neg notAdmin] at permitted
  cases permitted

theorem accounted_getOr404_bind {find : Database → Option α} {next : α → Audited β}
    (rest : ∀ row, find worker.world.db = some row → Accounted worker (final (next row) worker)) :
    Accounted worker (final (quietly (getOr404 find) >>= next) worker) := by
  apply accounted_query_bind
  intro row result
  refine rest row ?_
  cases found : find worker.world.db with
  | none => rw [found] at result; cases result
  | some other => rw [found] at result; cases result; rfl

theorem accounted_ensureDraftSurveyOf_bind {surveyId : Nat} {next : Unit → Audited β}
    (rest : IsDraft worker.world.db surveyId → Accounted worker (final (next ()) worker)) :
    Accounted worker (final (quietly (ensureDraftSurveyOf surveyId) >>= next) worker) := by
  apply accounted_query_bind
  intro _ result
  refine rest ?_
  cases found : worker.world.db.surveys.get surveyId with
  | none => rw [found] at result; cases result
  | some survey => rw [found] at result; exact ⟨survey, found, ensureDraftSurvey_eq_ok.mp result⟩

end Rules

/-! ## Statements -/

section Statements

variable {ε α : Type} {worker : Worker}

/-- The worker after a row is saved and its signal is sent. -/
def rowSaved (worker : Worker) (w : World) (sender : ModelClass) (pk : Nat) (created : Bool) : Worker where
  world := w
  journal := worker.journal ++ [.saved sender pk created]
  published := worker.published ++ (Audit.auditPostSave worker.threadLocal sender pk created).toList
  threadLocal := worker.threadLocal

theorem auditPostSave_of_tracked {sender : ModelClass} (tracked : sender ∈ trackedModels) (context : ThreadLocal)
    (pk : Nat) (created : Bool) : ∃ task, Audit.auditPostSave context sender pk created = some task ∧
      task.entry = (RowChange.saved sender pk created).entry ∧ SentFrom context task :=
  ⟨_, if_pos tracked, rfl, rfl, rfl⟩

theorem accounted_rowSaved {sender : ModelClass} (tracked : sender ∈ trackedModels) (w : World) (pk : Nat)
    (created : Bool) : Accounted worker (rowSaved worker w sender pk created) := by
  obtain ⟨task, sent, sameEntry, origin⟩ := auditPostSave_of_tracked tracked worker.threadLocal pk created
  refine ⟨rfl, [task], [.saved sender pk created], ?_, rfl, ?_, ?_⟩
  · rw [rowSaved, sent]
    rfl
  · rw [List.map_singleton, List.map_singleton, sameEntry]
  · intro other member
    rw [List.mem_singleton.mp member]
    exact origin

variable [Keyed α] {model : Model α} {sender : ModelClass}

theorem insertRow_of_ok {make : Nat → α} {keyedMake : ∀ i, key (make i) = i} {row : α} {w : World}
    (inserted : model.insert make keyedMake worker.world = .ok row w) :
    Audit.insertRow sender model make keyedMake worker = .ok row (rowSaved worker w sender (key row) true) := by
  rw [Audit.insertRow, bind_of_ok (show quietly _ worker = _ from focusing_of_ok inserted)]
  rfl

theorem insertRow_of_error {make : Nat → α} {keyedMake : ∀ i, key (make i) = i} {exn : PyExn} {w : World}
    (raised : model.insert make keyedMake worker.world = .error exn w) :
    Audit.insertRow sender model make keyedMake worker = .error exn (worldPart.set w worker) :=
  bind_of_error (focusing_of_error raised)

theorem accounted_insertRow (tracked : sender ∈ trackedModels) (make : Nat → α) (keyedMake : ∀ i, key (make i) = i) :
    Accounted worker (final (Audit.insertRow sender model make keyedMake) worker) := by
  cases inserted : model.insert make keyedMake worker.world with
  | ok row w =>
    rw [final_of_ok (insertRow_of_ok inserted)]
    exact accounted_rowSaved tracked _ _ _
  | error exn w =>
    rw [final_of_error (insertRow_of_error inserted)]
    exact Accounted.of_same rfl rfl rfl

theorem updateRow_of_ok {id : Nat} {assign : α → α} {keepsKey : ∀ row, key (assign row) = key row} {u : Unit}
    {w : World} (updated : model.update id assign keepsKey worker.world = .ok u w) :
    Audit.updateRow sender model id assign keepsKey worker = .ok () (rowSaved worker w sender id false) := by
  rw [Audit.updateRow, bind_of_ok (show quietly _ worker = _ from focusing_of_ok updated)]
  rfl

theorem updateRow_of_error {id : Nat} {assign : α → α} {keepsKey : ∀ row, key (assign row) = key row} {exn : PyExn}
    {w : World} (raised : model.update id assign keepsKey worker.world = .error exn w) :
    Audit.updateRow sender model id assign keepsKey worker = .error exn (worldPart.set w worker) :=
  bind_of_error (focusing_of_error raised)

theorem accounted_updateRow (tracked : sender ∈ trackedModels) (id : Nat) (assign : α → α)
    (keepsKey : ∀ row, key (assign row) = key row) :
    Accounted worker (final (Audit.updateRow sender model id assign keepsKey) worker) := by
  cases updated : model.update id assign keepsKey worker.world with
  | ok u w =>
    rw [final_of_ok (updateRow_of_ok updated)]
    exact accounted_rowSaved tracked _ _ _
  | error exn w =>
    rw [final_of_error (updateRow_of_error updated)]
    exact Accounted.of_same rfl rfl rfl

theorem final_collecting {α : Type} (body : Audited α) (worker : Worker) :
    final (Audit.collecting body) worker = final body worker := by
  unfold final Audit.collecting
  cases body worker with
  | ok value t => rfl
  | error exn t => cases exn <;> rfl

theorem accounted_saveFields {isEmpty : Bool} {update : Audited Unit} (accounted : Accounted worker (final update worker)) :
    Accounted worker (final (Audit.saveFields isEmpty update) worker) := by
  cases isEmpty with
  | true => exact Accounted.refl worker
  | false => exact accounted

theorem accounted_saveSurvey (row : Survey) : Accounted worker (final (Audit.saveSurvey row) worker) :=
  accounted_rowSaved (by decide) _ _ _

theorem accounted_deleteRows {collect : Database → List Audit.Collected} {change : Database → Database}
    (collects : Collects worker.world.db collect change) :
    Accounted worker (final (Audit.deleteRows collect change) worker) := by
  exact ⟨rfl, _, _, rfl, rfl, perm_deletions collects worker.threadLocal, sentFrom_auditPostDelete _ _⟩

end Statements

/-! ## An update and a check in one transaction -/

section CheckedUpdates

variable {α : Type} [Keyed α] {model : Model α} {sender : ModelClass} {worker : Worker} {row : α} {isEmpty : Bool}
  {assign : α → α} {keepsKey : ∀ row, key (assign row) = key row} {check : Database → Except PyExn Unit}
  {translate : PyExn → PyExn}

/-- A save followed by a check, as the transactions of the services have it. -/
def checkedUpdate (sender : ModelClass) (model : Model α) (isEmpty : Bool) (id : Nat) (assign : α → α)
    (keepsKey : ∀ row, key (assign row) = key row) (check : Database → Except PyExn Unit) : Audited Unit := do
  Audit.saveFields isEmpty (Audit.updateRow sender model id assign keepsKey)
  quietly (query check)

theorem checkedUpdate_false (sender : ModelClass) (model : Model α) (id : Nat) (assign : α → α)
    (keepsKey : ∀ row, key (assign row) = key row) (check : Database → Except PyExn Unit) (worker : Worker) :
    checkedUpdate sender model false id assign keepsKey check worker =
      (Audit.updateRow sender model id assign keepsKey >>= fun _ => quietly (query check)) worker := rfl

/-- The rows once the row is saved. -/
def edited (model : Model α) (db : Database) (row : α) : Database := model.store db ((model.table db).save row)

theorem update_of_constraints {w : World} (stored : (model.table w.db).get (key row) = some row)
    (allowed : model.constraints w.db (assign row) = .ok ()) :
    model.update (key row) assign keepsKey w = .ok () { w with db := edited model w.db (assign row) } := by
  apply Model.update_eq_ok_iff.mpr
  refine ⟨row, stored, allowed, ?_⟩
  rw [Table.modify_eq_save stored]
  rfl

theorem update_of_refused {w : World} {exn : PyExn} (stored : (model.table w.db).get (key row) = some row)
    (refused : model.constraints w.db (assign row) = .error exn) :
    model.update (key row) assign keepsKey w = .error exn w :=
  query_bind_of_error (by rw [stored]; exact refused)

/-- The save goes through and the check accepts it, or nothing is saved. -/
theorem accounted_checkedUpdate (tracked : sender ∈ trackedModels)
    (stored : (model.table worker.world.db).get (key row) = some row)
    (accepted : isEmpty = false → model.constraints worker.world.db (assign row) = .ok () →
      check (edited model worker.world.db (assign row)) = .ok ()) :
    Accounted worker (final (translating translate
      (auditedAtomic (checkedUpdate sender model isEmpty (key row) assign keepsKey check))) worker) := by
  apply accounted_translating
  apply relates_atomic
  · intro _ t returned
    rw [← final_of_ok returned]
    exact accounted_bind (accounted_saveFields (accounted_updateRow tracked _ _ _)) fun _ _ _ => accounted_quietly _
  · intro exn t raised
    cases isEmpty with
    | true =>
      have quiet : final (quietly (query check)) worker = t := final_of_error raised
      rw [← quiet, quietly, final_focusing]
      exact Accounted.of_same rfl rfl rfl
    | false =>
      cases allowed : model.constraints worker.world.db (assign row) with
      | error refused =>
        have failed : Audit.updateRow sender model (key row) assign keepsKey worker = .error refused worker :=
          updateRow_of_error (update_of_refused stored allowed)
        rw [checkedUpdate_false, bind_of_error failed] at raised
        cases raised
        exact Accounted.of_same rfl rfl rfl
      | ok _ =>
        -- the save is accepted, so nothing is raised
        have updated := @updateRow_of_ok _ worker _ model sender _ _ keepsKey _ _ (update_of_constraints stored allowed)
        have passes := accepted rfl allowed
        rw [checkedUpdate_false, bind_of_ok updated, quietly_query_of_ok passes] at raised
        cases raised

/-- The save is undone, its task is not. -/
theorem rolledBack_checkedUpdate (tracked : sender ∈ trackedModels)
    (stored : (model.table worker.world.db).get (key row) = some row)
    (allowed : model.constraints worker.world.db (assign row) = .ok ()) {exn : PyExn}
    (refused : check (edited model worker.world.db (assign row)) = .error exn) :
    ∃ t, translating translate (auditedAtomic (checkedUpdate sender model false (key row) assign keepsKey check)) worker =
      .error (translate exn) t ∧ RolledBack worker t := by
  have updated := @updateRow_of_ok _ worker _ model sender _ _ keepsKey _ _ (update_of_constraints stored allowed)
  obtain ⟨task, sent, _, origin⟩ := auditPostSave_of_tracked tracked worker.threadLocal (key row) false
  have raised := checkedUpdate_false sender model (key row) assign keepsKey check worker
  rw [bind_of_ok updated, quietly_query_of_error refused] at raised
  refine ⟨_, translating_of_error (atomic_of_error raised), rfl, rfl, task, ?_, origin⟩
  rw [← Option.toList_some, ← sent]
  rfl

end CheckedUpdates

end SurveyPlatform.Verified

import SurveyPlatform.Library.Runs
import SurveyPlatform.Verified.SurveyUpdates

/-! # The status of a survey under concurrent updates

Any number of update requests run on one survey, each statement on its own.  The
stored status moves only forward exactly when no request writes after another
one has moved the survey past the status its instance holds
(`status_forward_iff`).  Without locks that can happen: a title update that was
loaded before a publication saves the old status (`status_moves_back`).
-/

namespace SurveyPlatform.Verified

open SurveyPlatform.Library SurveyPlatform.Library.Program SurveyPlatform.Python SurveyPlatform.Surveys

section StatusOrder

variable {ι : Type} [DecidableEq ι] (pk : Nat)

/-- One step of one of the requests. -/
def updateMove (requests : ι → UpdateRequest) : Config ι World UpdateStage → ι → Config ι World UpdateStage :=
  move fun i w stage => (requests i).step pk w stage

/-- Every request has just been received. -/
def received (w : World) : Config ι World UpdateStage := ⟨w, fun _ => .received⟩

/-- How far the stored survey is along draft → published → archived. -/
def statusRank (db : Database) : Nat := ((db.surveys.get pk).map (·.status.rank)).getD 0

/-- The next write of a request is not behind the stored status: the survey is at
most one step past the status it was loaded with when an accepted transition is
written, and not past the status of the instance when that is saved. -/
def NotOvertaken (db : Database) : UpdateStage → Prop
  | .accepted current _ => statusRank pk db ≤ current.status.rank + 1
  | .validated _ left => statusRank pk db ≤ left.status.rank
  | _ => True

instance (db : Database) (stage : UpdateStage) : Decidable (NotOvertaken pk db stage) := by
  cases stage <;> unfold NotOvertaken <;> infer_instance

/-- What a stage knows about its request, whatever the others do. -/
def Coherent (request : UpdateRequest) : UpdateStage → Prop
  | .loaded current => current.id = pk
  | .accepted current value => current.id = pk ∧ request.body.status = .given value ∧
      value.rank = current.status.rank + 1
  | .validated data left => left.id = pk ∧ (data.assign left).status = left.status
  | _ => True

variable {pk}

theorem statusRank_setStatus {db : Database} {survey : Survey} (status : SurveyStatus)
    (stored : db.surveys.get pk = some survey) : statusRank pk (db.setStatus pk status) = status.rank := by
  simp [statusRank, Database.setStatus, stored, Survey.withStatus]

theorem statusRank_of_none {db : Database} (missing : db.surveys.get pk = none) : statusRank pk db = 0 := by
  simp [statusRank, missing]

/-- Saving the instance stores its status. -/
theorem statusRank_perform {data : SurveyData} {left : Survey} (w : World) (sameKey : left.id = pk) :
    statusRank pk (final (surveyPerformUpdate data left) w).db = (data.assign left).status.rank := by
  have saved : (final (surveyPerformUpdate data left) w).db =
    { w.db with surveys := w.db.surveys.save (data.assign left) } := rfl
  rw [saved, statusRank, Table.get_save, if_pos]
  · rfl
  · exact sameKey.symm

theorem coherent_afterStatus {request : UpdateRequest} {left : Survey} (sameKey : left.id = pk)
    (status : request.body.status.value? = none ∨ request.body.status.value? = some left.status) :
    Coherent pk request (request.afterStatus left) := by
  cases request.afterStatus_cases left with
  | inl validated =>
    rw [validated]
    refine ⟨sameKey, ?_⟩
    cases status with
    | inl missing => simp [SurveyData.assign, missing]
    | inr same => simp [SurveyData.assign, same]
  | inr finished =>
    rw [finished]
    trivial

/-- A step keeps its own stage coherent. -/
theorem coherent_step (request : UpdateRequest) (w : World) {stage : UpdateStage}
    (coherent : Coherent pk request stage) : Coherent pk request (request.step pk w stage).2 := by
  cases stage with
  | received =>
    simp only [UpdateRequest.step]
    split
    · split
      · rename_i current stored
        exact w.db.surveys.keyed pk current stored
      · trivial
    · trivial
  -- the instance keeps the status it was loaded with, until a transition is accepted
  | loaded current =>
    cases given : request.body.status with
    | missing =>
      simp only [UpdateRequest.step, given]
      exact coherent_afterStatus coherent (Or.inl (by simp [given, Submitted.value?]))
    | refused message => simp only [UpdateRequest.step, given]; trivial
    | given value =>
      simp only [UpdateRequest.step, given]
      split
      · rename_i same
        exact coherent_afterStatus coherent (Or.inr (by simp [given, Submitted.value?, same]))
      · split
        · rename_i transition
          exact ⟨coherent, given, (checkTransition_eq_ok.mp transition).1⟩
        · trivial
  | accepted current value =>
    obtain ⟨sameKey, given, _⟩ := coherent
    simp only [UpdateRequest.step]
    split
    · exact coherent_afterStatus sameKey (Or.inr (by simp [given, Submitted.value?, Survey.withStatus]))
    · trivial
  | validated data left => trivial
  | finished => trivial

/-- A step moves the status forward exactly when it was not overtaken. -/
theorem step_forward_iff (request : UpdateRequest) (w : World) {stage : UpdateStage}
    (coherent : Coherent pk request stage) :
    statusRank pk w.db ≤ statusRank pk (request.step pk w stage).1.db ↔ NotOvertaken pk w.db stage := by
  cases stage with
  | received => simp [request.step_received_world, NotOvertaken]
  | loaded current => simp [request.step_loaded_world, NotOvertaken]
  | accepted current value =>
    obtain ⟨sameKey, _, oneStep⟩ := coherent
    subst sameKey
    cases stored : w.db.surveys.get current.id with
    | none => simp [UpdateRequest.step, saveStatus_of_none stored, NotOvertaken, statusRank_of_none stored]
    | some survey =>
      -- a transition goes one step past the loaded status; only a survey beyond that moves back
      simp [UpdateRequest.step, saveStatus_of_some stored, NotOvertaken, statusRank_setStatus value stored, oneStep]
  | validated data left =>
    obtain ⟨sameKey, sameStatus⟩ := coherent
    simp [UpdateRequest.step, NotOvertaken, statusRank_perform w sameKey, sameStatus]
  | finished => simp [UpdateRequest.step, NotOvertaken]

theorem coherent_updateMove (requests : ι → UpdateRequest) (c : Config ι World UpdateStage) (i : ι)
    (coherent : ∀ j, Coherent pk (requests j) (c.locals j)) (j : ι) :
    Coherent pk (requests j) ((updateMove pk requests c i).locals j) := by
  by_cases same : j = i
  · subst same
    rw [updateMove, move_locals_self]
    exact coherent_step (requests j) c.shared (coherent j)
  · rw [updateMove, move_locals_other _ _ same]
    exact coherent j

/-- Under any schedule of any requests, the stored status never moves backwards
exactly when no request writes after it was overtaken. -/
theorem status_forward_iff (requests : ι → UpdateRequest) (w : World) (schedule : List ι) :
    (trace (updateMove pk requests) (received w) schedule).Pairwise
        (fun earlier later => statusRank pk earlier.shared.db ≤ statusRank pk later.shared.db) ↔
      Along (updateMove pk requests) (fun c i => NotOvertaken pk c.shared.db (c.locals i)) (received w) schedule := by
  have transitive : ∀ a b c : Config ι World UpdateStage, statusRank pk a.shared.db ≤ statusRank pk b.shared.db →
      statusRank pk b.shared.db ≤ statusRank pk c.shared.db → statusRank pk a.shared.db ≤ statusRank pk c.shared.db :=
    fun _ _ _ => Nat.le_trans
  rw [pairwise_trace_iff transitive]
  -- step by step: coherence says what the next write puts into the row
  have agree : ∀ (c : Config ι World UpdateStage) (i : ι), (∀ j, Coherent pk (requests j) (c.locals j)) →
      (statusRank pk c.shared.db ≤ statusRank pk (updateMove pk requests c i).shared.db ↔
        NotOvertaken pk c.shared.db (c.locals i)) := by
    intro c i coherent
    exact step_forward_iff (requests i) c.shared (coherent i)
  have start : ∀ j, Coherent pk (requests j) ((received w : Config ι World UpdateStage).locals j) :=
    fun _ => trivial
  exact along_iff_along agree (fun c i _ coherent => coherent_updateMove requests c i coherent) start schedule

end StatusOrder

/-! ## A title update and a publication -/

/-- `PATCH {"title": "Habits"}` and `PATCH {"status": "published"}` -/
def titleAndPublish : Bool → UpdateRequest
  | false => ⟨administrator, true, ⟨.given "Habits", .missing, .missing⟩⟩
  | true => ⟨administrator, true, ⟨.missing, .missing, .given .published⟩⟩

/-- The first request loads the draft, the second publishes it, the first saves. -/
theorem status_moves_back :
    ¬ (trace (updateMove 1 titleAndPublish) (received draftWorld)
        [false, false, true, true, true, true, false]).Pairwise
      (fun earlier later => statusRank 1 earlier.shared.db ≤ statusRank 1 later.shared.db) := by
  decide

end SurveyPlatform.Verified

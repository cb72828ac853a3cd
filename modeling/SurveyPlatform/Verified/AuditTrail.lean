import SurveyPlatform.Verified.AuditOutcomes

/-! # Audit tasks and committed changes

In a run of API requests the published tasks match the changes that stand, in
every state reached, exactly when no request saves a row and rolls back
(`tasks_match_changes_iff`).  Tasks are only ever too many: the signal of a save
publishes at once, and a later check of the same transaction takes the save back.
-/

namespace SurveyPlatform.Verified

open SurveyPlatform.Library SurveyPlatform.Library.Program SurveyPlatform.Python
open SurveyPlatform.Surveys SurveyPlatform.Responses
open SurveyPlatform.Audit (Worker AuditTask RowChange ApiRequest)

/-- As many tasks as changes that stand, for the same rows. -/
def Balanced (worker : Worker) : Prop :=
  (worker.published.map AuditTask.entry).Perm (worker.journal.map RowChange.entry)

theorem balanced_start (w : World) : Balanced (Worker.start w) := List.Perm.refl _

section Steps

variable {before after : Worker}

theorem Accounted.balanced (accounted : Accounted before after) (balanced : Balanced before) : Balanced after := by
  obtain ⟨tasks, changes, published, journal, perm, _⟩ := accounted.matched
  rw [Balanced, published, journal, List.map_append, List.map_append]
  exact balanced.append perm

/-- One task too many. -/
theorem RolledBack.not_balanced (rolledBack : RolledBack before after) (balanced : Balanced before) :
    ¬ Balanced after := by
  obtain ⟨task, published, _⟩ := rolledBack.sent
  have sameLength := balanced.length_eq
  intro afterwards
  have lengths := afterwards.length_eq
  rw [published, rolledBack.sameJournal] at lengths
  simp only [List.length_map, List.length_append, List.length_singleton] at lengths sameLength
  omega

end Steps

/-- The world after a request; without a token it is answered 401. -/
def requestWorld (py : Interpreter) (w : World) (request : ApiRequest) : World :=
  request.bearer.elim w fun user => handle py w (request.call user)

/-- No save of the request is rolled back. -/
def KeepsSaves (py : Interpreter) (w : World) (request : ApiRequest) : Prop :=
  ∀ user, request.bearer = some user → ¬ RollsBack py w (request.call user)

theorem serve_balanced_iff (py : Interpreter) (worker : Worker) (request : ApiRequest) (balanced : Balanced worker) :
    Balanced (request.serve py worker) ↔ KeepsSaves py worker.world request := by
  unfold ApiRequest.serve KeepsSaves
  cases request.bearer with
  | none =>
    refine iff_of_true balanced ?_
    intro _ absent
    cases absent
  | some user =>
    -- the middleware touches neither tasks nor rows
    let stored := Audit.auditIPMiddleware request.toHttpRequest worker
    have sameBalance : Balanced stored := balanced
    constructor
    · intro afterwards other same rollsBack
      cases same
      exact (rolledBack_audited py stored _ rollsBack).not_balanced sameBalance afterwards
    · intro keeps
      exact (accounted_audited py stored _ (keeps user rfl)).balanced sameBalance

/-- Tasks and committed changes match throughout a run exactly when no request of
it saves a row and rolls back. -/
theorem tasks_match_changes_iff (py : Interpreter) (w : World) (requests : List ApiRequest) :
    (∀ worker ∈ trace (ApiRequest.serve py) (Worker.start w) requests, Balanced worker) ↔
      Along (requestWorld py) (KeepsSaves py) w requests := by
  have states := @forall_trace_iff _ _ (ApiRequest.serve py) Balanced (fun _ _ => True)
    (fun worker request => KeepsSaves py worker.world request)
    (fun worker request _ balanced => serve_balanced_iff py worker request balanced) (Worker.start w) (balanced_start w)
    requests (along_of_forall (fun _ _ => trivial) _ _)
  have worlds := @along_map_iff _ _ (ApiRequest.serve py) _ _ (requestWorld py) Worker.world id
    (fun worker request => serve_world py worker request) (KeepsSaves py) (Worker.start w) requests
  rw [List.map_id] at worlds
  exact states.trans worlds

/-! ## A new order that is refused -/

def adminRequest (request : Request) : ApiRequest where
  forwardedFor := none
  remoteAddr := some "10.0.0.7"
  session := none
  bearer := some administrator
  order := .ascending
  encryptValue := prefixToken
  request := request

/-- A survey of two sections with a field each; the second field depends on the first. -/
def buildDependency : List ApiRequest :=
  [adminRequest (.createSurvey ⟨.given "Health", .missing, .missing⟩),
    adminRequest (.createSection 1 ⟨.given "You", .missing, .missing⟩),
    adminRequest (.createSection 1 ⟨.given "Habits", .missing, .missing⟩),
    adminRequest (.createField 1 1
      ⟨.given "Smoker", .given .text, .missing, .missing, .missing, .missing, .missing⟩),
    adminRequest (.createField 1 2
      ⟨.given "Brand", .given .dropdown, .missing, .missing, .given (.list [.str "c", .str "d"]), .missing, .missing⟩),
    adminRequest (.createFieldDependency 1
      ⟨.given 2, .given 1, .given .equals, .given (.str "x"), .given .showOptions, .given (.list [.str "c"])⟩)]

/-- `PATCH {"order": 3}` of the first section. -/
def moveBehind : ApiRequest := adminRequest (.updateSection 1 1 true ⟨.missing, .missing, .given 3⟩)

/-- The order is saved, its task is out, and the dependency of the second field takes the save back. -/
theorem tasks_match_changes_refusedOrder :
    (run (ApiRequest.serve bareInterpreter) (Worker.start World.empty) (buildDependency ++ [moveBehind])).published.map
      AuditTask.entry = (run (ApiRequest.serve bareInterpreter) (Worker.start World.empty)
        (buildDependency ++ [moveBehind])).journal.map RowChange.entry ++ [(.update, "Section", "1")] ∧
    ¬ ∀ worker ∈ trace (ApiRequest.serve bareInterpreter) (Worker.start World.empty) (buildDependency ++ [moveBehind]),
      Balanced worker := by
  have oneMore : (run (ApiRequest.serve bareInterpreter) (Worker.start World.empty)
      (buildDependency ++ [moveBehind])).published.map AuditTask.entry =
        (run (ApiRequest.serve bareInterpreter) (Worker.start World.empty)
          (buildDependency ++ [moveBehind])).journal.map RowChange.entry ++ [(.update, "Section", "1")] := by
    decide +kernel
  refine ⟨oneMore, ?_⟩
  intro balanced
  have lengths := (balanced _ (run_mem_trace _ _)).length_eq
  rw [oneMore, List.length_append] at lengths
  exact absurd lengths (Nat.succ_ne_self _)

end SurveyPlatform.Verified

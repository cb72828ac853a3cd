import SurveyPlatform.Responses.SubmitSteps
import SurveyPlatform.Verified.RequestChanges
import SurveyPlatform.Verified.StatusOrder

/-! # Submissions while the status is updated

Submissions and survey updates run statement by statement under any schedule.  A
submission reads the status once and creates its rows several queries later.
As long as no update takes a survey out of publication while a submission of it
is under way, every response is committed while its survey is published
(`responses_while_published`).  Nothing in the code waits: `response_after_archive`
archives the survey between the two.
-/

namespace SurveyPlatform.Verified

open SurveyPlatform.Library SurveyPlatform.Library.Program SurveyPlatform.Python
open SurveyPlatform.Surveys SurveyPlatform.Responses

/-! ## The processes -/

inductive OpenProcess where
  | submit (request : SubmitRequest) (stage : SubmitStage)
  | update (pk : Nat) (request : UpdateRequest) (stage : UpdateStage)

namespace OpenProcess

def step (py : Interpreter) (w : World) : OpenProcess → World × OpenProcess
  | submit request stage => ((request.step py w stage).1, submit request (request.step py w stage).2)
  | update pk request stage => ((request.step pk w stage).1, update pk request (request.step pk w stage).2)

def Starts : OpenProcess → Prop
  | submit _ stage => stage = .received
  | update _ _ stage => stage = .received

end OpenProcess

/-- The survey a submission has found open. -/
def foundSurvey : SubmitStage → Option Survey
  | .found survey | .parsed survey _ | .gathered survey _ _ | .cleaned survey _ _ => some survey
  | .received | .finished => none

/-- The status the next step of an update stores. -/
def writtenStatus : UpdateStage → Option SurveyStatus
  | .accepted _ value => some value
  | .validated data left => some (data.assign left).status
  | .received | .loaded _ | .finished => none

/-- A submission of the survey is under way. -/
def UnderWay (surveyId : Nat) : OpenProcess → Prop
  | .submit _ stage => ∃ survey, foundSurvey stage = some survey ∧ survey.id = surveyId
  | .update _ _ _ => False

section OpenSubmissions

variable {ι : Type} [DecidableEq ι] {py : Interpreter}

def openMove (py : Interpreter) : Config ι World OpenProcess → ι → Config ι World OpenProcess :=
  move fun _ w process => process.step py w

/-- An update does not take its survey out of publication while a submission of it is under way. -/
def WaitsForSubmissions (c : Config ι World OpenProcess) : OpenProcess → Prop
  | .update pk _ stage => ∀ status, writtenStatus stage = some status → status ≠ .published →
    ∀ j, ¬ UnderWay pk (c.locals j)
  | .submit _ _ => True

/-- The responses that are new were committed while their survey was published. -/
def CommitsWhilePublished (before after : Database) : Prop :=
  ∀ id row, after.responses.get id = some row → before.responses.get id ≠ some row → Published row.surveyId after

/-- What the stage of a process says about the database. -/
def OpenStageHolds (db : Database) : OpenProcess → Prop
  | .submit _ stage => ∀ survey, foundSurvey stage = some survey → Published survey.id db
  | .update pk request stage => Coherent pk request stage

/-! ## Submissions -/

section Submissions

variable {request : SubmitRequest} {w : World} {stage : SubmitStage}

/-- Only the transaction writes, and only responses. -/
theorem submitStep_db (py : Interpreter) (request : SubmitRequest) (w : World) (stage : SubmitStage) :
    (request.step py w stage).1.db = w.db ∨ ∃ survey row fieldResponses, foundSurvey stage = some survey ∧
      row.surveyId = survey.id ∧ (request.step py w stage).1.db =
        bulkCreate row.id fieldResponses { w.db with responses := w.db.responses.save row } := by
  cases stage with
  | received =>
    simp only [SubmitRequest.step]
    split
    · split <;> exact Or.inl rfl
    · exact Or.inl rfl
  | found survey =>
    simp only [SubmitRequest.step]
    split <;> exact Or.inl rfl
  | parsed survey answers =>
    simp only [SubmitRequest.step]
    split <;> exact Or.inl rfl
  | gathered survey answers surveyFields =>
    simp only [SubmitRequest.step]
    split <;> exact Or.inl rfl
  | cleaned survey cleanedAnswers surveyFields =>
    simp only [SubmitRequest.step]
    cases result : createSubmission py request.encryptValue survey request.user cleanedAnswers surveyFields w with
    | ok row w' =>
      obtain ⟨fieldResponses, _, isRow, written⟩ := createSubmission_ok result
      rw [final_of_ok result, written]
      exact Or.inr ⟨survey, row, fieldResponses, rfl, by rw [isRow], rfl⟩
    | error exn w' =>
      rw [final_of_error result, createSubmission_error result]
      exact Or.inl rfl
  | finished => exact Or.inl rfl

theorem submitStep_surveys : (request.step py w stage).1.db.surveys = w.db.surveys := by
  obtain same | ⟨_, _, _, _, _, written⟩ := submitStep_db py request w stage
  · rw [same]
  · rw [written]
    rfl

theorem published_of_surveys {db db' : Database} {surveyId : Nat} (same : db'.surveys = db.surveys) :
    Published surveyId db' ↔ Published surveyId db := by
  rw [Published, Published, same]

/-- A stage that has found its survey keeps it. -/
theorem submitStep_found {survey : Survey} (later : foundSurvey (request.step py w stage).2 = some survey) :
    foundSurvey stage = some survey ∨ Published survey.id w.db := by
  cases stage with
  | received =>
    simp only [SubmitRequest.step] at later
    split at later
    · split at later
      · rename_i other found
        cases later
        obtain ⟨stored, published⟩ := Option.filter_eq_some_iff.mp found
        have sameKey : survey.id = request.surveyPk := w.db.surveys.keyed _ survey stored
        exact Or.inr ⟨survey, sameKey ▸ stored, by simpa using published⟩
      · cases later
    · cases later
  | found other =>
    simp only [SubmitRequest.step] at later
    split at later
    · exact Or.inl later
    · cases later
  | parsed other answers =>
    simp only [SubmitRequest.step] at later
    split at later
    · exact Or.inl later
    · cases later
  | gathered other answers surveyFields =>
    simp only [SubmitRequest.step] at later
    split at later
    · exact Or.inl later
    · cases later
  | cleaned => cases later
  | finished => cases later

/-- The new responses are of the survey that was found. -/
theorem submitStep_responses {id : Nat} {row : SurveyResponse}
    (after : (request.step py w stage).1.db.responses.get id = some row) (new : w.db.responses.get id ≠ some row) :
    ∃ survey, foundSurvey stage = some survey ∧ row.surveyId = survey.id := by
  obtain same | ⟨survey, created, fieldResponses, found, inSurvey, written⟩ := submitStep_db py request w stage
  · rw [same] at after
    exact absurd after new
  · have saved : (w.db.responses.save created).get id = some row := by
      rw [written] at after
      exact after
    rw [Table.get_save] at saved
    split at saved
    · cases saved
      exact ⟨survey, found, inSurvey⟩
    · exact absurd saved new

end Submissions

/-! ## Updates -/

section Updates

variable {request : UpdateRequest} {pk surveyId : Nat} {w : World} {stage : UpdateStage}

theorem updateStep_responses : (request.step pk w stage).1.db.responses = w.db.responses := by
  cases stage with
  | received => rw [request.step_received_world]
  | loaded current => rw [request.step_loaded_world]
  | accepted current value =>
    cases stored : w.db.surveys.get current.id with
    | none => rw [UpdateRequest.step, saveStatus_of_none stored]
    | some survey => rw [UpdateRequest.step, saveStatus_of_some stored]; rfl
  | validated data left => rfl
  | finished => rfl

/-- A survey stays published unless an update of it stores another status. -/
theorem updateStep_published (coherent : Coherent pk request stage)
    (kept : surveyId = pk → ∀ status, writtenStatus stage = some status → status = .published)
    (published : Published surveyId w.db) : Published surveyId (request.step pk w stage).1.db := by
  cases stage with
  | received =>
    rw [request.step_received_world]
    exact published
  | loaded current =>
    rw [request.step_loaded_world]
    exact published
  | accepted current value =>
    obtain ⟨rfl, _, _⟩ := coherent
    cases stored : w.db.surveys.get current.id with
    | none =>
      rw [UpdateRequest.step, saveStatus_of_none stored]
      exact published
    | some survey =>
      rw [UpdateRequest.step, saveStatus_of_some stored]
      by_cases same : surveyId = current.id
      · have status := kept same value rfl
        subst same status
        exact ⟨survey.withStatus .published, by simp [Database.setStatus, stored], rfl⟩
      · obtain ⟨row, found, status⟩ := published
        exact ⟨row, by simp [Database.setStatus, same, found], status⟩
  | validated data left =>
    obtain ⟨sameKey, _⟩ := coherent
    have saved : (request.step pk w (.validated data left)).1.db =
      { w.db with surveys := w.db.surveys.save (data.assign left) } := rfl
    rw [saved]
    by_cases same : surveyId = pk
    · refine ⟨data.assign left, ?_, kept same _ rfl⟩
      rw [Table.get_save]
      exact if_pos (same.trans sameKey.symm)
    · obtain ⟨row, found, status⟩ := published
      refine ⟨row, ?_, status⟩
      rw [Table.get_save, if_neg]
      · exact found
      · exact fun isKey => same (isKey.trans sameKey)
  | finished => exact published

end Updates

/-! ## Runs -/

def OpenConfig : Config ι World OpenProcess → Prop :=
  Holds (fun _ => True) fun _ w process => OpenStageHolds w.db process

/-- A step that waits keeps every stage true. -/
theorem openConfig_step {c : Config ι World OpenProcess} {i : ι} (waits : WaitsForSubmissions c (c.locals i))
    (holds : OpenConfig c) : OpenConfig (openMove py c i) := by
  have own := holds.each i
  apply interference_free holds trivial
  · generalize c.locals i = process at own waits
    cases process with
    | submit request stage =>
      intro survey found
      apply (published_of_surveys submitStep_surveys).mpr
      obtain before | published := submitStep_found found
      · exact own survey before
      · exact published
    | update pk request stage => exact coherent_step request c.shared own
  · intro j different before
    generalize other : c.locals j = process at before
    cases process with
    | update pk request stage => exact before
    | submit request stage =>
      intro survey found
      have published := before survey found
      generalize c.locals i = moving at own waits
      cases moving with
      | submit request' stage' => exact (published_of_surveys submitStep_surveys).mpr published
      | update pk request' stage' =>
        refine updateStep_published own (fun same status writes => ?_) published
        by_contra notPublished
        exact waits status writes notPublished j (by rw [other]; exact ⟨survey, found, same⟩)

theorem commits_step {c : Config ι World OpenProcess} {i : ι} (holds : OpenConfig c) :
    CommitsWhilePublished c.shared.db (openMove py c i).shared.db := by
  intro id row after new
  have own := holds.each i
  simp only [openMove, move_shared] at after ⊢
  generalize c.locals i = process at own after ⊢
  cases process with
  | submit request stage =>
    obtain ⟨survey, found, inSurvey⟩ := submitStep_responses after new
    apply (published_of_surveys submitStep_surveys).mpr
    rw [inSurvey]
    exact own survey found
  | update pk request stage =>
    have same : (OpenProcess.step py c.shared (.update pk request stage)).1.db.responses = c.shared.db.responses :=
      updateStep_responses
    rw [same] at after
    exact absurd after new

omit [DecidableEq ι] in
theorem openConfig_start {start : Config ι World OpenProcess} (starts : ∀ i, (start.locals i).Starts) :
    OpenConfig start := by
  refine ⟨trivial, fun i => ?_⟩
  have starting := starts i
  cases process : start.locals i with
  | submit request stage =>
    rw [process] at starting
    cases starting
    intro survey found
    cases found
  | update pk request stage =>
    rw [process] at starting
    cases starting
    trivial

/-- Under any schedule in which the updates wait for the submissions under way,
every response is committed while its survey is published. -/
theorem responses_while_published (py : Interpreter) {start : Config ι World OpenProcess}
    (starts : ∀ i, (start.locals i).Starts) {schedule : List ι}
    (waits : Along (openMove py) (fun c i => WaitsForSubmissions c (c.locals i)) start schedule) :
    Along (openMove py) (fun c i => CommitsWhilePublished c.shared.db (openMove py c i).shared.db) start schedule := by
  refine waits.mono ?_ ?_ (openConfig_start starts)
  · intro c i holds _
    exact commits_step holds
  · intro c i waits holds
    exact openConfig_step waits holds

end OpenSubmissions

/-! ## A submission and the end of the survey -/

/-- A published survey with one field. -/
def openDatabase : Database where
  surveys := Table.empty.insert (Survey.withId ⟨0, "Health", "", 1, .published⟩) (Survey.key_withId _)
  sections := Table.empty.insert (Section.withId ⟨0, 1, "Person", "", 1⟩) (Section.key_withId _)
  fields := Table.empty.insert (Field.withId ⟨0, 1, "Name", .text, false, 1, .list [], false, .object []⟩)
    (Field.key_withId _)
  conditionalRules := .empty
  fieldDependencies := .empty
  responses := .empty
  fieldResponses := .empty

/-- A customer submits no answers while an administrator archives the survey. -/
def submitAndArchive : Config Bool World OpenProcess where
  shared := ⟨openDatabase, fun _ => none⟩
  locals
    | false => .submit ⟨⟨2, .customer⟩, 1, .given [], .ascending, prefixToken⟩ .received
    | true => .update 1 ⟨administrator, true, ⟨.missing, .missing, .given .archived⟩⟩ .received

theorem submitAndArchive_starts : ∀ i, (submitAndArchive.locals i).Starts := by
  intro i
  cases i with
  | false => rfl
  | true => rfl

/-- The submission ends before the survey is archived. -/
theorem responses_while_published_oneByOne :
    Along (openMove bareInterpreter)
      (fun c i => CommitsWhilePublished c.shared.db (openMove bareInterpreter c i).shared.db) submitAndArchive
      [false, false, false, false, false, true, true, true] := by
  apply responses_while_published bareInterpreter submitAndArchive_starts
  refine ⟨trivial, trivial, trivial, trivial, trivial, ?_, ?_, ?_, trivial⟩
  · intro status writes
    cases writes
  · intro status writes
    exact absurd (Option.isSome_iff_exists.mpr ⟨status, writes⟩) (by decide +kernel)
  -- the status is written when no submission is under way
  · intro status _ _ j underWay
    cases j with
    | false =>
      obtain ⟨survey, found, _⟩ := underWay
      exact absurd (Option.isSome_iff_exists.mpr ⟨survey, found⟩) (by decide +kernel)
    | true => exact underWay

/-- The survey is archived after the answers were validated; then the rows are created. -/
def lateSubmission : Config Bool World OpenProcess :=
  run (openMove bareInterpreter) submitAndArchive [false, false, false, false, true, true, true, false]

theorem response_after_archive : (∀ i, (submitAndArchive.locals i).Starts) ∧
    ¬ Along (openMove bareInterpreter)
      (fun c i => CommitsWhilePublished c.shared.db (openMove bareInterpreter c i).shared.db) submitAndArchive
      [false, false, false, false, true, true, true, false] := by
  refine ⟨submitAndArchive_starts, fun commits => ?_⟩
  obtain ⟨-, -, -, -, -, -, -, last, -⟩ := commits
  have published : Published 1 lateSubmission.shared.db := last 1 ⟨1, 1, 2⟩ (by decide +kernel) (by decide +kernel)
  have archived : (lateSubmission.shared.db.surveys.get 1).map Survey.status = some .archived := by decide +kernel
  obtain ⟨survey, stored, isPublished⟩ := published
  rw [stored, Option.map_some, isPublished] at archived
  cases archived

end SurveyPlatform.Verified

import SurveyPlatform.Responses.Storage
import SurveyPlatform.Surveys.Steps

/-! # Submissions in steps

`SurveySubmitView.post` cut at its queries: the survey is read once, at the
start, and nothing is locked.  `create_submission` is one step, its transaction,
at the moment it commits.
-/

namespace SurveyPlatform.Responses

open SurveyPlatform.Library SurveyPlatform.Library.Program SurveyPlatform.Python SurveyPlatform.Surveys

structure SubmitRequest where
  user : User
  surveyPk : Nat
  answers : Submitted (List Answer)
  order : SetOrder
  encryptValue : Encryption

inductive SubmitStage where
  | received
  -- the survey was published when it was read
  | found (survey : Survey)
  | parsed (survey : Survey) (answers : List Answer)
  | gathered (survey : Survey) (answers : Dict String Json) (surveyFields : Nat → Option Field)
  -- the rows are created next
  | cleaned (survey : Survey) (cleanedAnswers : Dict String Json) (surveyFields : Nat → Option Field)
  | finished

namespace SubmitRequest

def step (py : Interpreter) (request : SubmitRequest) (w : World) : SubmitStage → World × SubmitStage
  | .received =>
    if request.user.role = .customer then
      match (w.db.surveys.get request.surveyPk).filter (·.status = .published) with
      | some survey => (w, .found survey)
      | none => (w, .finished)
    else (w, .finished)
  | .found survey =>
    match validateAnswers w.db request.answers with
    | .ok answers => (w, .parsed survey answers)
    | .error _ => (w, .finished)
  | .parsed survey answers =>
    match answersDict w.db survey.id answers Dict.empty with
    | .ok answers => (w, .gathered survey answers fun id => fieldOfSurvey w.db survey.id id)
    | .error _ => (w, .finished)
  | .gathered survey answers surveyFields =>
    match validateSubmission py request.order (prefetchSurveyStructure w.db survey.id) answers with
    | .ok cleanedAnswers => (w, .cleaned survey cleanedAnswers surveyFields)
    | .error _ => (w, .finished)
  | .cleaned survey cleanedAnswers surveyFields =>
    (final (createSubmission py request.encryptValue survey request.user cleanedAnswers surveyFields) w, .finished)
  | .finished => (w, .finished)

/-- The view of the request. -/
def perform (py : Interpreter) (request : SubmitRequest) : Procedure SubmitResponse :=
  submit py request.order request.encryptValue request.user request.surveyPk request.answers

/-- The next step of a submission that runs alone. -/
def stepAlone (py : Interpreter) (request : SubmitRequest) (state : World × SubmitStage) : World × SubmitStage :=
  request.step py state.1 state.2

theorem stepAlone_finished (py : Interpreter) (request : SubmitRequest) (w : World) (n : Nat) :
    (request.stepAlone py)^[n] (w, .finished) = (w, .finished) :=
  Function.iterate_fixed rfl n

/-- The view once the answers are gathered. -/
def record (py : Interpreter) (request : SubmitRequest) (survey : Survey) (answers : Dict String Json)
    (surveyFields : Nat → Option Field) : EStateM SubmissionExn World SubmitResponse := do
  let cleaned ← reading fun w =>
    validateSubmission py request.order (prefetchSurveyStructure w.db survey.id) answers
  let surveyResponse ← createSubmission py request.encryptValue survey request.user cleaned surveyFields
  return .created surveyResponse.id

theorem perform_of_answers {py : Interpreter} {request : SubmitRequest} {w : World} {survey : Survey}
    {answers : List Answer} (customer : request.user.role = .customer)
    (found : (w.db.surveys.get request.surveyPk).filter (·.status = .published) = some survey)
    (parsed : validateAnswers w.db request.answers = .ok answers) :
    request.perform py w =
      match answersDict w.db survey.id answers Dict.empty with
      | .error errors => .ok (.errors errors) w
      | .ok answers => respondErrors (request.record py survey answers fun id => fieldOfSurvey w.db survey.id id) w := by
  rw [perform, submit, query_bind_of_ok (if_pos customer), getOr404_bind_of_some found, query_bind_of_ok parsed,
    query_bind_of_ok rfl]
  cases answersDict w.db survey.id answers Dict.empty with
  | error errors => rfl
  | ok answers => rfl

/-- Two more steps do what is left of the view. -/
theorem stepAlone_gathered (py : Interpreter) (request : SubmitRequest) (w : World) (survey : Survey)
    (answers : Dict String Json) (surveyFields : Nat → Option Field) :
    (request.stepAlone py)^[2] (w, .gathered survey answers surveyFields) =
      (final (request.record py survey answers surveyFields) w, .finished) := by
  rw [Function.iterate_succ_apply]
  cases validated : validateSubmission py request.order (prefetchSurveyStructure w.db survey.id) answers with
  | error exn =>
    have next : request.stepAlone py (w, .gathered survey answers surveyFields) = (w, .finished) := by
      simp only [stepAlone, step, validated]
    have raised : request.record py survey answers surveyFields w = .error exn w := by
      apply reading_bind_error
      exact validated
    rw [next, stepAlone_finished, final_of_error raised]
  | ok cleaned =>
    have next : request.stepAlone py (w, .gathered survey answers surveyFields) =
        (w, .cleaned survey cleaned surveyFields) := by
      simp only [stepAlone, step, validated]
    have transaction : final (request.record py survey answers surveyFields) w =
        final (createSubmission py request.encryptValue survey request.user cleaned surveyFields) w := by
      rw [← final_bind_same (fun (row : SurveyResponse) t => (rfl : final (pure (.created row.id) :
        EStateM SubmissionExn World SubmitResponse) t = t))]
      unfold final
      congr 1
      apply reading_bind_ok
      exact validated
    rw [next, Function.iterate_one, transaction]
    rfl

/-- Alone, the steps of a submission do what the view does. -/
theorem stepAlone_eq (py : Interpreter) (request : SubmitRequest) (w : World) :
    (request.stepAlone py)^[5] (w, .received) = (final (request.perform py) w, .finished) := by
  by_cases customer : request.user.role = .customer
  · cases found : (w.db.surveys.get request.surveyPk).filter (·.status = .published) with
    | none =>
      have first : request.stepAlone py (w, .received) = (w, .finished) := by
        simp only [stepAlone, step, if_pos customer, found]
      have missing : request.perform py w = .error .http404 w := by
        rw [perform, submit, query_bind_of_ok (if_pos customer), getOr404_bind_of_none found]
      rw [Function.iterate_succ_apply, first, stepAlone_finished, final_of_error missing]
    | some survey =>
      have first : request.stepAlone py (w, .received) = (w, .found survey) := by
        simp only [stepAlone, step, if_pos customer, found]
      rw [Function.iterate_succ_apply, first, Function.iterate_succ_apply]
      cases parsed : validateAnswers w.db request.answers with
      | error exn =>
        have second : request.stepAlone py (w, .found survey) = (w, .finished) := by
          simp only [stepAlone, step, parsed]
        have refused : request.perform py w = .error exn w := by
          rw [perform, submit, query_bind_of_ok (if_pos customer), getOr404_bind_of_some found,
            query_bind_of_error parsed]
        rw [second, stepAlone_finished, final_of_error refused]
      | ok answers =>
        have second : request.stepAlone py (w, .found survey) = (w, .parsed survey answers) := by
          simp only [stepAlone, step, parsed]
        rw [second, Function.iterate_succ_apply, final, perform_of_answers customer found parsed]
        cases gathered : answersDict w.db survey.id answers Dict.empty with
        | error errors =>
          have third : request.stepAlone py (w, .parsed survey answers) = (w, .finished) := by
            simp only [stepAlone, step, gathered]
          rw [third, stepAlone_finished]
        | ok dict =>
          have third : request.stepAlone py (w, .parsed survey answers) =
              (w, .gathered survey dict fun id => fieldOfSurvey w.db survey.id id) := by
            simp only [stepAlone, step, gathered]
          rw [third, stepAlone_gathered, ← final_respondErrors]
          rfl
  · have first : request.stepAlone py (w, .received) = (w, .finished) := by
      simp only [stepAlone, step, if_neg customer]
    have forbidden : request.perform py w = .error .permissionDenied w := by
      rw [perform, submit, query_bind_of_error (if_neg customer)]
    rw [Function.iterate_succ_apply, first, stepAlone_finished, final_of_error forbidden]

end SubmitRequest

end SurveyPlatform.Responses

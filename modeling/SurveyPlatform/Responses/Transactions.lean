import SurveyPlatform.Library.Runs
import SurveyPlatform.Responses.Storage

/-! # Submissions as transactions

`create_submission` cut into the statements and rounds of its loop, for calls
that run at the same time.  What a transaction has written is its own until it
commits; the unique index is the exception: a second insert of the same survey
and user waits until the first transaction is decided.  The sequences that
number rows are not rolled back.
-/

namespace SurveyPlatform.Responses

open SurveyPlatform.Library SurveyPlatform.Library.Program SurveyPlatform.Python SurveyPlatform.Surveys

/-- The arguments of a call of `create_submission`. -/
structure SubmissionCall where
  survey : Survey
  user : User
  cleanedAnswers : Dict String Json
  surveyFields : Nat → Option Field
  encryptValue : Encryption

/-- What the unique index compares. -/
def SubmissionCall.uniqueKey (call : SubmissionCall) : Nat × Nat := (call.survey.id, call.user.id)

/-- The committed rows, the sequences, and the transaction that has inserted an
uncommitted row for a survey and a user. -/
structure Store (ι : Type) where
  db : Database
  nextResponse : Nat
  nextFieldResponse : Nat
  holder : Nat × Nat → Option ι

inductive TransactionStage where
  | received
  -- the parent is inserted; some answers are prepared, the rest follow
  | inserted (row : SurveyResponse) (prepared : List (Nat × String)) (rest : List (String × Json))
  -- `bulk_create` has run
  | created (row : SurveyResponse) (rows : List FieldResponse)
  | returned (row : SurveyResponse)
  | raised (exn : SubmissionExn)

/-- The rows of a `bulk_create`, numbered by the sequence. -/
def numberRows (surveyResponseId : Nat) : Nat → List (Nat × String) → List FieldResponse
  | _, [] => []
  | first, (fieldId, value) :: rest =>
    ⟨first, surveyResponseId, fieldId, value⟩ :: numberRows surveyResponseId (first + 1) rest

section Transactions

variable {ι : Type}

/-- The transaction is over: its row no longer blocks the index. -/
def Store.release (store : Store ι) (key : Nat × Nat) : Store ι :=
  { store with holder := Function.update store.holder key none }

def Store.commit (store : Store ι) (row : SurveyResponse) (rows : List FieldResponse) : Store ι :=
  { store with db := { store.db with
      responses := store.db.responses.save row
      fieldResponses := store.db.fieldResponses.saveAll rows } }

/-- One step of a call; `i` is its transaction. -/
def SubmissionCall.step (py : Interpreter) (call : SubmissionCall) (i : ι) (store : Store ι) :
    TransactionStage → Store ι × TransactionStage
  | .received =>
    let row : SurveyResponse := ⟨store.nextResponse, call.survey.id, call.user.id⟩
    match surveyResponseConstraints store.db row with
    | .error exn => (store, .raised (onDuplicate (.raised exn)))
    | .ok _ =>
      match store.holder call.uniqueKey with
      -- the insert waits for the transaction that holds the index entry
      | some _ => (store, .received)
      -- the number is taken at once, whatever becomes of the transaction
      | none => ({ store with
          nextResponse := store.nextResponse + 1
          holder := Function.update store.holder call.uniqueKey (some i) },
        .inserted row [] call.cleanedAnswers.entries)
  | .inserted row prepared ((fieldIdStr, value) :: rest) =>
    match prepareFieldResponse py call.encryptValue call.surveyFields fieldIdStr value with
    | .ok fieldResponse => (store, .inserted row (prepared ++ [fieldResponse]) rest)
    | .error exn => (store.release call.uniqueKey, .raised (onDuplicate exn))
  | .inserted row prepared [] =>
    if fieldsStored store.db prepared then
      ({ store with nextFieldResponse := store.nextFieldResponse + prepared.length },
        .created row (numberRows row.id store.nextFieldResponse prepared))
    else (store.release call.uniqueKey, .raised (onDuplicate (.raised .integrityError)))
  | .created row rows => ((store.commit row rows).release call.uniqueKey, .returned row)
  | .returned row => (store, .returned row)
  | .raised exn => (store, .raised exn)

/-- One step of one of the calls. -/
def submissionMove [DecidableEq ι] (py : Interpreter) (calls : ι → SubmissionCall) :
    Config ι (Store ι) TransactionStage → ι → Config ι (Store ι) TransactionStage :=
  move fun i store stage => (calls i).step py i store stage

/-- No response is stored, and every call is about to start. -/
def noSubmissions (db : Database) : Config ι (Store ι) TransactionStage where
  shared := ⟨{ db with responses := .empty, fieldResponses := .empty }, 1, 1, fun _ => none⟩
  locals := fun _ => .received

end Transactions

/-! ## Numbered rows -/

section NumberRows

variable {surveyResponseId first : Nat} {prepared : List (Nat × String)} {row : FieldResponse}

theorem mem_numberRows (member : row ∈ numberRows surveyResponseId first prepared) :
    row.surveyResponseId = surveyResponseId ∧ first ≤ row.id ∧ row.id < first + prepared.length := by
  induction prepared generalizing first with
  | nil => cases member
  | cons head rest inductionHypothesis =>
    rw [numberRows, List.mem_cons] at member
    cases member with
    | inl same =>
      subst same
      simp
    | inr later =>
      obtain ⟨sameResponse, above, below⟩ := inductionHypothesis later
      refine ⟨sameResponse, by omega, ?_⟩
      rw [List.length_cons]
      omega

theorem nodup_numberRows : ((numberRows surveyResponseId first prepared).map key).Nodup := by
  induction prepared generalizing first with
  | nil => exact List.nodup_nil
  | cons head rest inductionHypothesis =>
    rw [numberRows, List.map_cons, List.nodup_cons]
    refine ⟨fun member => ?_, inductionHypothesis⟩
    obtain ⟨row, later, sameKey⟩ := List.mem_map.mp member
    -- the numbers after the first are larger
    have above := (mem_numberRows later).2.1
    simp only [key_fieldResponse] at sameKey
    omega

/-- The numbered rows are those `bulk_create` stores. -/
theorem bulkCreate_eq (surveyResponseId : Nat) (prepared : List (Nat × String)) (db : Database) :
    bulkCreate surveyResponseId prepared db = { db with
      fieldResponses := db.fieldResponses.saveAll
        (numberRows surveyResponseId db.fieldResponses.next prepared) } := by
  induction prepared generalizing db with
  | nil => rfl
  | cons head rest inductionHypothesis =>
    obtain ⟨fieldId, value⟩ := head
    let new : FieldResponse := ⟨0, surveyResponseId, fieldId, value⟩
    let inserted := db.fieldResponses.insert new.withId new.key_withId
    have saved : inserted = db.fieldResponses.save (new.withId db.fieldResponses.next) :=
      db.fieldResponses.insert_eq_save _ _
    calc bulkCreate surveyResponseId ((fieldId, value) :: rest) db
        = bulkCreate surveyResponseId rest { db with fieldResponses := inserted } := rfl
      _ = { db with
              fieldResponses := inserted.saveAll
                (numberRows surveyResponseId (db.fieldResponses.next + 1) rest) } := inductionHypothesis _
      _ = _ := by rw [saved, numberRows, Table.saveAll, Table.saveAll, List.foldl_cons]; rfl

end NumberRows

/-! ## A call alone -/

section Alone

variable {ι : Type} {py : Interpreter} {call : SubmissionCall} {i : ι} {store : Store ι}

/-- The store over a database with no transaction open. -/
def Store.of (db : Database) : Store ι := ⟨db, db.responses.next, db.fieldResponses.next, fun _ => none⟩

def SubmissionCall.stepAlone (py : Interpreter) (call : SubmissionCall) (i : ι) (state : Store ι × TransactionStage) :
    Store ι × TransactionStage :=
  call.step py i state.1 state.2

theorem step_received_of_error {exn : PyExn}
    (refused : surveyResponseConstraints store.db ⟨store.nextResponse, call.survey.id, call.user.id⟩ = .error exn) :
    call.step py i store .received = (store, .raised (onDuplicate (.raised exn))) := by
  simp only [SubmissionCall.step, refused]

theorem step_received_of_ok (free : store.holder call.uniqueKey = none)
    (allowed : surveyResponseConstraints store.db ⟨store.nextResponse, call.survey.id, call.user.id⟩ = .ok ()) :
    call.step py i store .received =
      ({ store with
          nextResponse := store.nextResponse + 1
          holder := Function.update store.holder call.uniqueKey (some i) },
        .inserted ⟨store.nextResponse, call.survey.id, call.user.id⟩ [] call.cleanedAnswers.entries) := by
  simp only [SubmissionCall.step, allowed, free]

theorem stepAlone_raised (exn : SubmissionExn) (n : Nat) :
    (call.stepAlone py i)^[n] (store, .raised exn) = (store, .raised exn) :=
  Function.iterate_fixed rfl n

/-- The rounds of the loop, up to the first answer that raises. -/
theorem stepAlone_loop (row : SurveyResponse) (prepared : List (Nat × String)) (rest : List (String × Json)) :
    (call.stepAlone py i)^[rest.length] (store, .inserted row prepared rest) =
      match prepareFieldResponses py call.encryptValue call.surveyFields rest with
      | .ok others => (store, .inserted row (prepared ++ others) [])
      | .error exn => (store.release call.uniqueKey, .raised (onDuplicate exn)) := by
  induction rest generalizing prepared with
  | nil => simp [prepareFieldResponses]
  | cons answer rest inductionHypothesis =>
    obtain ⟨fieldIdStr, value⟩ := answer
    rw [List.length_cons, Function.iterate_succ_apply, prepareFieldResponses]
    cases ready : prepareFieldResponse py call.encryptValue call.surveyFields fieldIdStr value with
    | error exn =>
      -- the first answer that raises ends the transaction; no step follows
      have raises : call.stepAlone py i (store, .inserted row prepared ((fieldIdStr, value) :: rest)) =
          (store.release call.uniqueKey, .raised (onDuplicate exn)) := by
        rw [SubmissionCall.stepAlone, SubmissionCall.step, ready]
      rw [raises, stepAlone_raised]
      rfl
    | ok fieldResponse =>
      have prepares : call.stepAlone py i (store, .inserted row prepared ((fieldIdStr, value) :: rest)) =
          (store, .inserted row (prepared ++ [fieldResponse]) rest) := by
        rw [SubmissionCall.stepAlone, SubmissionCall.step, ready]
      rw [prepares, inductionHypothesis]
      cases prepareFieldResponses py call.encryptValue call.surveyFields rest with
      | error exn => rfl
      | ok others =>
        show (store, TransactionStage.inserted row (prepared ++ [fieldResponse] ++ others) []) =
          (store, .inserted row (prepared ++ fieldResponse :: others) [])
        rw [List.append_assoc, List.singleton_append]

/-- `bulk_create` and the commit. -/
theorem stepAlone_end (row : SurveyResponse) (prepared : List (Nat × String)) :
    (call.stepAlone py i)^[2] (store, .inserted row prepared []) =
      if fieldsStored store.db prepared then
        ((Store.commit { store with nextFieldResponse := store.nextFieldResponse + prepared.length } row
            (numberRows row.id store.nextFieldResponse prepared)).release call.uniqueKey, .returned row)
      else (store.release call.uniqueKey, .raised (onDuplicate (.raised .integrityError))) := by
  rw [Function.iterate_succ_apply, Function.iterate_one]
  by_cases stored : fieldsStored store.db prepared
  · simp only [SubmissionCall.stepAlone, SubmissionCall.step, if_pos stored]
  · simp only [SubmissionCall.stepAlone, SubmissionCall.step, if_neg stored]

/-- Alone, the steps of a call do what `create_submission` does. -/
theorem stepAlone_eq_createSubmission (py : Interpreter) (call : SubmissionCall) (i : ι) (w : World) :
    ∃ store : Store ι,
      store.db = (final (createSubmission py call.encryptValue call.survey call.user call.cleanedAnswers
        call.surveyFields) w).db ∧
      (call.stepAlone py i)^[call.cleanedAnswers.entries.length + 3] (Store.of w.db, .received) =
        (store, match createSubmission py call.encryptValue call.survey call.user call.cleanedAnswers
            call.surveyFields w with
          | .ok row _ => .returned row
          | .error exn _ => .raised exn) := by
  let row : SurveyResponse := ⟨w.db.responses.next, call.survey.id, call.user.id⟩
  have sequential := createSubmission_eq py call.encryptValue call.survey call.user call.cleanedAnswers
    call.surveyFields w (Eq.refl row)
  rw [final, sequential, Function.iterate_succ_apply]
  cases allowed : surveyResponseConstraints w.db row with
  | error exn =>
    have refused : call.stepAlone py i (Store.of w.db, .received) =
        (Store.of w.db, .raised (onDuplicate (.raised exn))) := step_received_of_error allowed
    rw [refused, stepAlone_raised]
    exact ⟨_, rfl, rfl⟩
  | ok _ =>
    have inserted : call.stepAlone py i (Store.of w.db, .received) = (_, .inserted row [] _) :=
      step_received_of_ok rfl allowed
    -- one step for each answer, then `bulk_create` and the commit
    rw [inserted, Nat.add_comm, Function.iterate_add_apply, stepAlone_loop]
    cases prepareFieldResponses py call.encryptValue call.surveyFields call.cleanedAnswers.entries with
    | error exn =>
      simp only [stepAlone_raised]
      exact ⟨_, rfl, rfl⟩
    | ok fieldResponses =>
      simp only [stepAlone_end, List.nil_append]
      by_cases stored : fieldsStored w.db fieldResponses
      · simp only [Store.of, if_pos stored]
        refine ⟨_, ?_, if_pos stored⟩
        rw [bulkCreate_eq]
        rfl
      · simp only [Store.of, if_neg stored]
        exact ⟨_, rfl, if_neg stored⟩

end Alone

end SurveyPlatform.Responses

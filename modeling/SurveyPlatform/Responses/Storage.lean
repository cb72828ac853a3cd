import SurveyPlatform.Python.Encoding
import SurveyPlatform.Responses.Submission
import SurveyPlatform.Surveys.Views

/-! # Storing a submission

`prefetch_survey_structure`, `create_submission` and `SurveySubmitView.post`.
`encrypt_value` is a parameter of a call: it may return any ciphertext, or
raise, at each field.
-/

namespace SurveyPlatform.Responses

open SurveyPlatform.Library SurveyPlatform.Library.Program SurveyPlatform.Python SurveyPlatform.Surveys

/-! ## `prefetch_survey_structure` -/

/-- `section.order` of a field, for `order_by("section__order", "order")`. -/
def sectionOrder (db : Database) (field : Field) : Nat :=
  ((db.sections.get field.sectionId).map Section.order).getD 0

def structureSections (db : Database) (surveyId : Nat) : List Section :=
  (db.sectionsOf surveyId).mergeSort fun a b => a.order ≤ b.order

def structureFields (db : Database) (surveyId : Nat) : List Field :=
  (db.fields.rows.filter fun field => (db.sections.get field.sectionId).any (·.surveyId = surveyId)).mergeSort
    fun a b => sectionOrder db a < sectionOrder db b ||
      (sectionOrder db a == sectionOrder db b && a.order ≤ b.order)

theorem mem_structureSections {db : Database} {surveyId : Nat} {row : Section} :
    row ∈ structureSections db surveyId ↔ row ∈ db.sectionsOf surveyId := by
  simp [structureSections]

theorem mem_structureFields {db : Database} {surveyId : Nat} {field : Field} :
    field ∈ structureFields db surveyId ↔ db.fields.get field.id = some field ∧
      ∃ parent, db.sections.get field.sectionId = some parent ∧ parent.surveyId = surveyId := by
  simp [structureFields, Table.mem_rows, Option.any_eq_true]

def prefetchSurveyStructure (db : Database) (surveyId : Nat) : SurveyStructure where
  sections := structureSections db surveyId
  fields := structureFields db surveyId
  sectionRules := db.conditionalRules.rows.filter fun rule => rule.surveyId = surveyId && rule.targetSectionId.isSome
  fieldRules := db.conditionalRules.rows.filter fun rule => rule.surveyId = surveyId && rule.targetFieldId.isSome
  dependencies := db.fieldDependencies.rows.filter (·.surveyId = surveyId)
  sectionIds :=
    ((List.mergeSort_perm _ _).map _).nodup_iff.mpr (db.sections.nodup_rows.sublist (List.filter_sublist.map _))
  fieldIds :=
    ((List.mergeSort_perm _ _).map _).nodup_iff.mpr (db.fields.nodup_rows.sublist (List.filter_sublist.map _))
  placed := by
    intro field member
    obtain ⟨_, parent, found, inSurvey⟩ := mem_structureFields.mp member
    have sameId : parent.id = field.sectionId := db.sections.keyed _ parent found
    exact ⟨parent, mem_structureSections.mpr (Database.mem_sectionsOf.mpr ⟨sameId ▸ found, inSurvey⟩), sameId⟩

/-! ## `create_submission` -/

/-- `encrypt_value`, with what it returns or raises for the value under each key. -/
abbrev Encryption := String → String → Except PyExn String

def serializeValue (py : Interpreter) : Json → String
  | .list items => (Json.list items).dumps
  | value => py.str value

/-- One round of the loop: the field and the value to store for it. -/
def prepareFieldResponse (py : Interpreter) (encryptValue : Encryption) (surveyFields : Nat → Option Field)
    (fieldIdStr : String) (value : Json) : Except SubmissionExn (Nat × String) :=
  match parseInt fieldIdStr with
  | none => .error (.raised .valueError)
  | some id =>
    -- `int` also reads spaces, signs and underscores; the dict decides
    match (if 0 ≤ id then surveyFields id.toNat else none) with
    | none => .error (.raised .keyError)
    | some field =>
      if field.isEncrypted then
        match encryptValue fieldIdStr (serializeValue py value) with
        | .ok storeValue => .ok (field.id, storeValue)
        | .error _ => .error (.invalid (Dict.empty.set fieldIdStr
            "Unable to process this field. Please try again later."))
      else .ok (field.id, serializeValue py value)

def prepareFieldResponses (py : Interpreter) (encryptValue : Encryption) (surveyFields : Nat → Option Field) :
    List (String × Json) → Except SubmissionExn (List (Nat × String))
  | [] => .ok []
  | (fieldIdStr, value) :: rest => do
    let prepared ← prepareFieldResponse py encryptValue surveyFields fieldIdStr value
    let others ← prepareFieldResponses py encryptValue surveyFields rest
    return prepared :: others

def surveyResponseConstraints (db : Database) (row : SurveyResponse) : Except PyExn Unit := do
  Database.requireRow db.surveys row.surveyId
  if db.responses.rows.any fun other =>
      other.id != row.id && other.surveyId == row.surveyId && other.userId == row.userId then
    throw .integrityError

theorem surveyResponseConstraints_eq_ok {db : Database} {row : SurveyResponse} :
    surveyResponseConstraints db row = .ok () ↔ (db.surveys.get row.surveyId).isSome ∧
      ∀ other ∈ db.responses.rows, other.id ≠ row.id →
        ¬ (other.surveyId = row.surveyId ∧ other.userId = row.userId) := by
  unfold surveyResponseConstraints Database.requireRow
  cases (db.surveys.get row.surveyId).isSome with
  | false => simp [bind, Except.bind]
  | true => simp [bind, Except.bind, throw, throwThe, MonadExceptOf.throw, pure, Except.pure]

def surveyResponseModel : Model SurveyResponse :=
  ⟨Database.responses, fun db responses => { db with responses }, surveyResponseConstraints⟩

/-- The rows `bulk_create` adds. -/
def bulkCreate (surveyResponseId : Nat) (fieldResponses : List (Nat × String)) (db : Database) : Database :=
  { db with
    -- one row after the other, numbered by the sequence
    fieldResponses := fieldResponses.foldl (fun table (fieldId, value) =>
      let new : FieldResponse := ⟨0, surveyResponseId, fieldId, value⟩
      table.insert new.withId new.key_withId) db.fieldResponses }

/-- The foreign keys of the new rows: a field may have been deleted since it was read. -/
def fieldsStored (db : Database) (fieldResponses : List (Nat × String)) : Bool :=
  fieldResponses.all fun (fieldId, _) => (db.fields.get fieldId).isSome

/-- `FieldResponse.objects.bulk_create(field_responses)` -/
def createFieldResponses (surveyResponseId : Nat) (fieldResponses : List (Nat × String)) : Procedure Unit := do
  query fun db => if fieldsStored db fieldResponses then .ok () else .error .integrityError
  statement (bulkCreate surveyResponseId fieldResponses)

/-- A database exception inside the submission services. -/
def raising {α : Type} (body : Procedure α) : EStateM SubmissionExn World α :=
  EStateM.adaptExcept SubmissionExn.raised body

/-- `except IntegrityError` around the transaction. -/
def onDuplicate : SubmissionExn → SubmissionExn
  | .raised .integrityError =>
    .invalid (Dict.empty.set "survey" "You have already submitted a response to this survey.")
  | exn => exn

def createSubmission (py : Interpreter) (encryptValue : Encryption) (survey : Survey) (user : User)
    (cleanedAnswers : Dict String Json) (surveyFields : Nat → Option Field) :
    EStateM SubmissionExn World SurveyResponse :=
  translating onDuplicate <| atomic (fun before after => { after with db := before.db }) do
    let new : SurveyResponse := ⟨0, survey.id, user.id⟩
    let surveyResponse ← raising (surveyResponseModel.insert new.withId new.key_withId)
    -- the parent row is in the transaction while the answers are prepared
    let fieldResponses ← reading fun _ =>
      prepareFieldResponses py encryptValue surveyFields cleanedAnswers.entries
    raising (createFieldResponses surveyResponse.id fieldResponses)
    return surveyResponse

theorem raising_of_ok {α : Type} {body : Procedure α} {w w' : World} {a : α} (returned : body w = .ok a w') :
    raising body w = .ok a w' := by
  rw [raising, EStateM.adaptExcept, returned]

theorem raising_of_error {α : Type} {body : Procedure α} {w w' : World} {exn : PyExn}
    (raised : body w = .error exn w') : raising body w = .error (.raised exn) w' := by
  rw [raising, EStateM.adaptExcept, raised]

theorem createFieldResponses_eq (surveyResponseId : Nat) (fieldResponses : List (Nat × String)) (w : World) :
    createFieldResponses surveyResponseId fieldResponses w =
      if fieldsStored w.db fieldResponses then .ok () { w with db := bulkCreate surveyResponseId fieldResponses w.db }
      else .error .integrityError w := by
  unfold createFieldResponses
  split
  · rename_i stored
    exact query_bind_of_ok (if_pos stored)
  · rename_i missing
    exact query_bind_of_error (if_neg missing)

/-- A round succeeds with the field that the key names, and with the text of the value or what it is encrypted to. -/
theorem prepareFieldResponse_eq_ok {py : Interpreter} {encryptValue : Encryption} {fields : Nat → Option Field}
    {key : String} {value : Json} {prepared : Nat × String} :
    prepareFieldResponse py encryptValue fields key value = .ok prepared ↔
      ∃ id : Nat, ∃ field, parseInt key = some (id : Int) ∧ fields id = some field ∧ prepared.1 = field.id ∧
        if field.isEncrypted then encryptValue key (serializeValue py value) = .ok prepared.2
        else prepared.2 = serializeValue py value := by
  unfold prepareFieldResponse
  constructor
  · intro result
    cases parsed : parseInt key with
    | none => simp only [parsed, reduceCtorEq] at result
    | some id =>
      simp only [parsed] at result
      split at result
      · cases result
      rename_i field found
      split at found
      · rename_i natural
        refine ⟨id.toNat, field, congrArg some (Int.toNat_of_nonneg natural).symm, found, ?_⟩
        split at result
        · rename_i encrypted
          split at result
          · rename_i stored isEncrypted
            cases result
            exact ⟨rfl, by rw [if_pos encrypted]; exact isEncrypted⟩
          · cases result
        · rename_i plain
          cases result
          exact ⟨rfl, by rw [if_neg plain]⟩
      · cases found
  · intro holds
    obtain ⟨id, field, parsed, found, sameId, stored⟩ := holds
    simp only [parsed, Int.natCast_nonneg, if_true, Int.toNat_natCast, found]
    split at stored
    · rename_i encrypted
      simp only [encrypted, if_true, stored, ← sameId]
    · rename_i plain
      simp only [plain, Bool.false_eq_true, if_false, ← stored, ← sameId]

/-- A prepared row is for one of the fields. -/
theorem field_of_prepareFieldResponse {py : Interpreter} {encryptValue : Encryption} {fields : Nat → Option Field}
    {key : String} {value : Json} {prepared : Nat × String}
    (result : prepareFieldResponse py encryptValue fields key value = .ok prepared) :
    ∃ id field, fields id = some field ∧ prepared.1 = field.id := by
  obtain ⟨id, field, _, found, sameId, _⟩ := prepareFieldResponse_eq_ok.mp result
  exact ⟨id, field, found, sameId⟩

/-- The rows that are prepared are for stored fields. -/
theorem fieldsStored_of_prepareFieldResponses {py : Interpreter} {encryptValue : Encryption} {db : Database}
    {fields : Nat → Option Field} (stored : ∀ id field, fields id = some field → (db.fields.get field.id).isSome = true)
    {entries : List (String × Json)} {prepared : List (Nat × String)}
    (result : prepareFieldResponses py encryptValue fields entries = .ok prepared) : fieldsStored db prepared = true := by
  induction entries generalizing prepared with
  | nil =>
    cases result
    rfl
  | cons entry rest inductionHypothesis =>
    simp only [prepareFieldResponses, bind_eq_ok, pure_eq_ok] at result
    obtain ⟨head, headResult, others, restResult, rfl⟩ := result
    obtain ⟨id, field, found, sameId⟩ := field_of_prepareFieldResponse headResult
    rw [fieldsStored, List.all_cons, Bool.and_eq_true]
    refine ⟨?_, inductionHypothesis restResult⟩
    simpa only [sameId] using stored id field found

/-- The call in order: what fails first is raised, and then nothing is stored. -/
theorem createSubmission_eq (py : Interpreter) (encryptValue : Encryption) (survey : Survey) (user : User)
    (cleanedAnswers : Dict String Json) (surveyFields : Nat → Option Field) (w : World) {row : SurveyResponse}
    (made : row = ⟨w.db.responses.next, survey.id, user.id⟩) :
    createSubmission py encryptValue survey user cleanedAnswers surveyFields w =
      match surveyResponseConstraints w.db row with
      | .error exn => .error (onDuplicate (.raised exn)) w
      | .ok _ =>
        match prepareFieldResponses py encryptValue surveyFields cleanedAnswers.entries with
        | .error exn => .error (onDuplicate exn) w
        | .ok fieldResponses =>
          if fieldsStored w.db fieldResponses then
            .ok row { w with
              db := bulkCreate row.id fieldResponses { w.db with responses := w.db.responses.save row } }
          else .error (onDuplicate (.raised .integrityError)) w := by
  subst made
  have saved : w.db.responses.insert (SurveyResponse.withId ⟨0, survey.id, user.id⟩) (SurveyResponse.key_withId _) =
      w.db.responses.save ⟨w.db.responses.next, survey.id, user.id⟩ := w.db.responses.insert_eq_save _ _
  unfold createSubmission
  cases allowed : surveyResponseConstraints w.db ⟨w.db.responses.next, survey.id, user.id⟩ with
  | error exn =>
    apply translating_of_error
    apply atomic_of_error
    exact bind_of_error (raising_of_error (Model.insert_of_error _ allowed))
  | ok _ =>
    have inserted : raising (surveyResponseModel.insert _ (SurveyResponse.key_withId ⟨0, survey.id, user.id⟩)) w = _ :=
      raising_of_ok (Model.insert_of_constraints _ allowed)
    cases prepareFieldResponses py encryptValue surveyFields cleanedAnswers.entries with
    | error exn =>
      apply Eq.trans (translating_of_error (atomic_of_error ?raised))
      case raised =>
        apply (bind_of_ok inserted).trans
        exact reading_bind _ _ _
      rfl
    | ok fieldResponses =>
      by_cases stored : fieldsStored w.db fieldResponses
      · simp only [if_pos stored, ← saved]
        apply translating_eq_ok_iff.mpr
        apply atomic_eq_ok_iff.mpr
        apply (bind_of_ok inserted).trans
        apply (reading_bind _ _ _).trans
        exact bind_of_ok (raising_of_ok ((createFieldResponses_eq _ _ _).trans (if_pos stored)))
      · simp only [if_neg stored]
        apply Eq.trans (translating_of_error (atomic_of_error ?refused))
        case refused =>
          apply (bind_of_ok inserted).trans
          apply (reading_bind _ _ _).trans
          exact bind_of_error (raising_of_error ((createFieldResponses_eq _ _ _).trans (if_neg stored)))
        rfl

/-- What a stored submission consists of. -/
theorem createSubmission_ok {py : Interpreter} {encryptValue : Encryption} {survey : Survey} {user : User}
    {cleanedAnswers : Dict String Json} {surveyFields : Nat → Option Field} {w w' : World} {row : SurveyResponse}
    (returned : createSubmission py encryptValue survey user cleanedAnswers surveyFields w = .ok row w') :
    ∃ fieldResponses, prepareFieldResponses py encryptValue surveyFields cleanedAnswers.entries = .ok fieldResponses ∧
      row = ⟨w.db.responses.next, survey.id, user.id⟩ ∧ w' = { w with
        db := bulkCreate row.id fieldResponses { w.db with responses := w.db.responses.save row } } := by
  rw [createSubmission_eq py encryptValue survey user cleanedAnswers surveyFields w rfl] at returned
  split at returned
  · cases returned
  · split at returned
    · cases returned
    · rename_i prepared
      split at returned
      · cases returned
        exact ⟨_, prepared, rfl, rfl⟩
      · cases returned

/-- A submission that raises is rolled back. -/
theorem createSubmission_error {py : Interpreter} {encryptValue : Encryption} {survey : Survey} {user : User}
    {cleanedAnswers : Dict String Json} {surveyFields : Nat → Option Field} {w w' : World} {exn : SubmissionExn}
    (raised : createSubmission py encryptValue survey user cleanedAnswers surveyFields w = .error exn w') :
    w'.db = w.db := by
  simp only [createSubmission, translating_eq_error_iff, atomic_eq_error_iff] at raised
  obtain ⟨_, ⟨_, _, rfl⟩, _⟩ := raised
  rfl

/-! ## `SurveySubmitView.post` -/

structure Answer where
  fieldId : Int
  value : Json

inductive SubmitResponse where
  | created (surveyResponseId : Nat)
  | errors (messages : Dict String String)

def fieldOfSurvey (db : Database) (surveyId : Nat) (id : Int) : Option Field :=
  if 0 ≤ id then
    (db.fields.get id.toNat).filter fun field =>
      (db.sections.get field.sectionId).any (·.surveyId = surveyId)
  else none

/-- `SurveySubmissionSerializer.is_valid(raise_exception=True)` -/
def validateAnswers (db : Database) (answers : Submitted (List Answer)) : Except PyExn (List Answer) := do
  let answers := answers.convert fun answers =>
    if answers.any (·.value.isNone) then .error "This field may not be null."
    else
      let missing := (answers.map (·.fieldId)).filter fun id => !(0 ≤ id && (db.fields.get id.toNat).isSome)
      if missing.isEmpty then .ok answers
      else .error ("Invalid field IDs: \x7b" ++ join ", " (missing.dedup.map toString) ++ "\x7d")
  raiseErrors [("answers", answers.error? true)]
  return answers.value?.getD []

/-- The loop that builds `answers_dict`; it stops at a field of another survey. -/
def answersDict (db : Database) (surveyId : Nat) : List Answer → Dict String Json →
    Except (Dict String String) (Dict String Json)
  | [], answers => .ok answers
  | answer :: rest, answers =>
    if (fieldOfSurvey db surveyId answer.fieldId).isSome then
      answersDict db surveyId rest (answers.set (toString answer.fieldId) answer.value)
    else .error (Dict.empty.set (toString answer.fieldId) "Field does not belong to this survey.")

/-- `except SubmissionValidationError as e: return Response({"errors": e.errors}, ...)` -/
def respondErrors (body : EStateM SubmissionExn World SubmitResponse) : Procedure SubmitResponse := fun w =>
  match body w with
  | .ok response w' => .ok response w'
  | .error (.invalid errors) w' => .ok (.errors errors) w'
  | .error (.raised exn) w' => .error exn w'

@[simp] theorem final_respondErrors (body : EStateM SubmissionExn World SubmitResponse) (w : World) :
    final (respondErrors body) w = final body w := by
  unfold final respondErrors
  cases body w with
  | ok response w' => rfl
  | error exn w' => cases exn <;> rfl

theorem outcome_respondErrors (body : EStateM SubmissionExn World SubmitResponse) (w : World) :
    outcome (respondErrors body) w = match outcome body w with
      | .ok response => .ok response
      | .error (.invalid errors) => .ok (.errors errors)
      | .error (.raised exn) => .error exn := by
  unfold outcome respondErrors
  cases body w with
  | ok response t => rfl
  | error exn t => cases exn <;> rfl

def submit (py : Interpreter) (order : SetOrder) (encryptValue : Encryption) (user : User) (surveyPk : Nat)
    (answers : Submitted (List Answer)) : Procedure SubmitResponse := do
  query fun _ => if user.role = .customer then .ok () else .error .permissionDenied
  let survey ← getOr404 fun db => (db.surveys.get surveyPk).filter (·.status = .published)
  let answers ← query fun db => validateAnswers db answers
  let db ← query fun db => .ok db
  match answersDict db survey.id answers Dict.empty with
  | .error errors => return .errors errors
  | .ok answers =>
    respondErrors do
      let cleaned ← reading fun w =>
        validateSubmission py order (prefetchSurveyStructure w.db survey.id) answers
      let surveyResponse ← createSubmission py encryptValue survey user cleaned
        fun id => fieldOfSurvey db survey.id id
      return .created surveyResponse.id

end SurveyPlatform.Responses

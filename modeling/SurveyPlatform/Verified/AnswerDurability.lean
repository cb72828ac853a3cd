import SurveyPlatform.Responses.Details
import SurveyPlatform.Responses.Transactions
import SurveyPlatform.Verified.StructureFreeze
import SurveyPlatform.Verified.SubmissionLoop

/-! # Stored answers stay readable

Whatever requests follow a submission, as long as the response is stored its
detail view shows each accepted answer once, as it was given (`answers_durable`).

The rows of a response change only when one of its fields is deleted, and reading
depends on the fields' `is_encrypted`.  Both are settled by the freeze of a survey
that has left draft.
-/

namespace SurveyPlatform.Verified

open SurveyPlatform.Library SurveyPlatform.Library.Program SurveyPlatform.Python
open SurveyPlatform.Surveys SurveyPlatform.Responses

/-! ## What is stored -/

/-- The answers `post` passes on to `create_submission`. -/
def CleanedAnswers (py : Interpreter) (order : SetOrder) (w : World) (surveyPk : Nat)
    (answers : Submitted (List Answer)) (cleaned : Dict String Json) : Prop :=
  ∃ given dict, validateAnswers w.db answers = .ok given ∧ answersDict w.db surveyPk given Dict.empty = .ok dict ∧
    validateSubmission py order (prefetchSurveyStructure w.db surveyPk) dict = .ok cleaned

/-- Fernet with a constant key: a token is never empty, and decrypts to what was encrypted. -/
def Inverts (decryptValue : Decryption) (encryptValue : Encryption) : Prop :=
  ∀ fieldIdStr value token, encryptValue fieldIdStr value = .ok token →
    token ≠ "" ∧ decryptValue token = .ok value

/-- The column for an answer: its text, or an output of `encrypt_value` for it. -/
def StoredAs (encryptValue : Encryption) (field : Field) (text stored : String) : Prop :=
  if field.isEncrypted then encryptValue (fieldIdStr field.id) text = .ok stored else stored = text

/-- One round of the loop of `create_submission`. -/
structure Prepared (py : Interpreter) (encryptValue : Encryption) (fields : Nat → Option Field)
    (answer : String × Json) (prepared : Nat × String) : Prop where
  field : ∃ field, fields prepared.1 = some field ∧ field.id = prepared.1 ∧
    StoredAs encryptValue field (serializeValue py answer.2) prepared.2
  sameKey : answer.1 = fieldIdStr prepared.1

section Stored

variable {py : Interpreter} {encryptValue : Encryption} {decryptValue : Decryption} {fields : Nat → Option Field}

theorem prepareFieldResponse_ok {id : Nat} {value : Json} {prepared : Nat × String}
    (keyed : ∀ i field, fields i = some field → field.id = i)
    (result : prepareFieldResponse py encryptValue fields (fieldIdStr id) value = .ok prepared) :
    Prepared py encryptValue fields (fieldIdStr id, value) prepared := by
  obtain ⟨id', field, parsed, found, isField, stored⟩ := prepareFieldResponse_eq_ok.mp result
  obtain rfl : id = id' := by
    rw [fieldIdStr, parseInt_toString, Option.some.injEq, Int.ofNat_inj] at parsed
    exact parsed
  have sameId : field.id = id := keyed id field found
  have samePrepared : prepared.1 = id := isField.trans sameId
  exact ⟨⟨field, samePrepared ▸ found, isField.symm, sameId ▸ stored⟩, congrArg fieldIdStr samePrepared.symm⟩

/-- The loop prepares one row for each answer, in order. -/
theorem prepareFieldResponses_ok {answers : List (String × Json)} {prepared : List (Nat × String)}
    (keyed : ∀ i field, fields i = some field → field.id = i)
    (fromFields : ∀ answer ∈ answers, ∃ id, answer.1 = fieldIdStr id)
    (result : prepareFieldResponses py encryptValue fields answers = .ok prepared) :
    List.Forall₂ (Prepared py encryptValue fields) answers prepared := by
  induction answers generalizing prepared with
  | nil =>
    cases result
    exact .nil
  | cons answer rest inductionHypothesis =>
    obtain ⟨fieldIdStr, value⟩ := answer
    rw [List.forall_mem_cons] at fromFields
    obtain ⟨⟨id, rfl⟩, restFields⟩ := fromFields
    simp only [prepareFieldResponses, bind_eq_ok, pure_eq_ok] at result
    obtain ⟨head, headResult, others, restResult, rfl⟩ := result
    exact .cons (prepareFieldResponse_ok keyed headResult) (inductionHypothesis restFields restResult)

/-- Reading undoes storing. -/
theorem getValue_of_storedAs (fernet : Inverts decryptValue encryptValue) {field : Field} {text : String}
    {row : FieldResponse} (stored : StoredAs encryptValue field text row.value) :
    getValue decryptValue field row = text := by
  unfold StoredAs at stored
  cases encrypted : field.isEncrypted with
  | false => simpa [getValue, encrypted] using stored
  | true =>
    rw [if_pos encrypted] at stored
    obtain ⟨nonempty, decrypts⟩ := fernet _ _ _ stored
    simp [getValue, encrypted, nonempty, decrypts]

/-- Every row of a submission is one of the prepared ones. -/
theorem storedAs_of_mem_numberRows {surveyResponseId first : Nat} {answers : List (String × Json)}
    {prepared : List (Nat × String)} (ready : List.Forall₂ (Prepared py encryptValue fields) answers prepared)
    {row : FieldResponse} (member : row ∈ numberRows surveyResponseId first prepared) :
    ∃ field text, fields row.fieldId = some field ∧ StoredAs encryptValue field text row.value := by
  induction ready generalizing first with
  | nil => cases member
  | cons head rest inductionHypothesis =>
    rw [numberRows, List.mem_cons] at member
    cases member with
    | inl same =>
      obtain ⟨⟨field, found, _, stored⟩, _⟩ := head
      subst same
      exact ⟨field, _, found, stored⟩
    | inr later => exact inductionHypothesis later

/-- The details of the rows of a submission, one for each answer. -/
theorem details_numberRows (fernet : Inverts decryptValue encryptValue) (surveyResponseId first : Nat)
    {answers : List (String × Json)} {prepared : List (Nat × String)}
    (ready : List.Forall₂ (Prepared py encryptValue fields) answers prepared) :
    ((numberRows surveyResponseId first prepared).filterMap fun row =>
        (fields row.fieldId).map fun field => fieldResponseDetail decryptValue field row).map
      (fun detail => (fieldIdStr detail.field, detail.value)) =
    answers.map fun answer => (answer.1, serializeValue py answer.2) := by
  induction ready generalizing first with
  | nil => rfl
  | cons head rest inductionHypothesis =>
    rename_i answer prepared answers others
    obtain ⟨⟨field, found, sameId, stored⟩, sameKey⟩ := head
    have value : getValue decryptValue field ⟨first, surveyResponseId, prepared.1, prepared.2⟩ =
        serializeValue py answer.2 := getValue_of_storedAs fernet stored
    simp only [numberRows, List.filterMap_cons, found, Option.map_some, List.map_cons, inductionHypothesis]
    exact congrArg₂ List.cons (Prod.ext sameKey.symm value) rfl

end Stored

/-! ## What later requests leave alone -/

/-- A response of a survey that has left draft, with its rows and their fields. -/
structure Recorded (db : Database) (response : SurveyResponse) (rows : List FieldResponse)
    (fields : Nat → Option Field) : Prop where
  stored : db.responses.get response.id = some response
  left : LeftDraft db response.surveyId
  exactly : ∀ row, row ∈ fieldResponsesOf db response.id ↔ row ∈ rows
  readable : ∀ row ∈ rows, ∃ field, fields row.fieldId = some field ∧ field.id = row.fieldId ∧
    field ∈ FieldRows db response.surveyId

section Kept

variable {db : Database} {response : SurveyResponse} {rows : List FieldResponse} {fields : Nat → Option Field}

/-- What one change does to a recorded response that it does not delete. -/
structure KeepsRecord (db db' : Database) (response : SurveyResponse) (rows : List FieldResponse) : Prop where
  survey : (db'.surveys.get response.surveyId).isSome = true
  exactly : ∀ row, row ∈ fieldResponsesOf db' response.id ↔ row ∈ rows

/-- A change that touches neither the responses nor the set of stored surveys. -/
theorem keepsRecord_of_same {db' : Database} (recorded : Recorded db response rows fields)
    (surveys : ∀ s, (db.surveys.get s).isSome = true → (db'.surveys.get s).isSome = true)
    (sameRows : db'.fieldResponses = db.fieldResponses) : KeepsRecord db db' response rows := by
  obtain ⟨survey, stored, _⟩ := recorded.left
  refine ⟨surveys _ (by rw [stored]; rfl), fun row => ?_⟩
  rw [← recorded.exactly, fieldResponsesOf, sameRows, fieldResponsesOf]

/-- Rows are deleted, but none of this response. -/
theorem mem_fieldResponsesOf_deleteWhere {db' : Database} (recorded : Recorded db response rows fields)
    {gone : FieldResponse → Bool} (deleted : db'.fieldResponses = db.fieldResponses.deleteWhere gone)
    (kept : ∀ row ∈ rows, gone row = false) (row : FieldResponse) :
    row ∈ fieldResponsesOf db' response.id ↔ row ∈ rows := by
  rw [← recorded.exactly, mem_fieldResponsesOf, mem_fieldResponsesOf, deleted]
  apply and_congr_left
  intro inResponse
  apply filter_eq_some_iff_of_kept
  intro stored
  rw [kept row ((recorded.exactly row).mp (mem_fieldResponsesOf.mpr ⟨stored, inResponse⟩))]
  rfl

/-- The fields of the rows are none of those a predicate selects. -/
theorem Recorded.field_kept (recorded : Recorded db response rows fields) {gone : Nat → Bool}
    (kept : ∀ field ∈ FieldRows db response.surveyId, gone field.id = false) :
    ∀ row ∈ rows, gone row.fieldId = false := by
  intro row member
  obtain ⟨field, _, sameId, inSurvey⟩ := recorded.readable row member
  exact sameId ▸ kept field inSurvey

theorem keepsRecord_deleteFields (recorded : Recorded db response rows fields) {gone : Nat → Bool}
    (kept : ∀ field ∈ FieldRows db response.surveyId, gone field.id = false) :
    KeepsRecord db (db.deleteFields gone) response rows := by
  obtain ⟨survey, stored, _⟩ := recorded.left
  exact ⟨by rw [Database.deleteFields, stored]; rfl,
    mem_fieldResponsesOf_deleteWhere recorded rfl (recorded.field_kept kept)⟩

theorem fieldRows_gone {gone : Nat → Bool} {s : Nat} (kept : ∀ row ∈ SectionRows db s, gone row.id = false) :
    ∀ field ∈ FieldRows db s, ((db.fields.get field.id).any fun row => gone row.sectionId) = false := by
  intro field member
  obtain ⟨stored, parent, foundParent, inSurvey⟩ := member
  have sameParent : parent.id = field.sectionId := db.sections.keyed _ parent foundParent
  rw [stored, Option.any_some, ← sameParent]
  exact kept parent ⟨sameParent ▸ foundParent, inSurvey⟩

theorem keepsRecord_deleteSections (recorded : Recorded db response rows fields) {gone : Nat → Bool}
    (kept : ∀ row ∈ SectionRows db response.surveyId, gone row.id = false) :
    KeepsRecord db (db.deleteSections gone) response rows := by
  have fieldsGone : KeepsRecord db
      (db.deleteFields fun id => (db.fields.get id).any fun row => gone row.sectionId) response rows :=
    keepsRecord_deleteFields recorded (fieldRows_gone kept)
  exact ⟨fieldsGone.survey, fieldsGone.exactly⟩

theorem keepsRecord_deleteSurvey (recorded : Recorded db response rows fields) {t : Nat}
    (different : response.surveyId ≠ t) : KeepsRecord db (db.deleteSurvey t) response rows := by
  obtain ⟨survey, stored, _⟩ := recorded.left
  have sameKey : survey.id = response.surveyId := db.surveys.keyed _ survey stored
  refine ⟨?_, fun row => ?_⟩
  · have kept : (db.deleteSurvey t).surveys.get response.surveyId = some survey :=
      Option.filter_eq_some_iff.mpr ⟨stored, by simpa [sameKey] using different⟩
    rw [kept]
    rfl
  · -- first the rows of the fields of the survey go, then those of its responses
    have sectionsGone : KeepsRecord db
        (db.deleteSections fun id => (db.sections.get id).any (·.surveyId = t)) response rows := by
      apply keepsRecord_deleteSections recorded
      intro row member
      obtain ⟨found, inSurvey⟩ := member
      simp [found, inSurvey, different]
    rw [← sectionsGone.exactly, mem_fieldResponsesOf, mem_fieldResponsesOf]
    apply and_congr_left
    intro inResponse
    apply filter_eq_some_iff_of_kept
    intro _
    simp [inResponse, recorded.stored, different]

theorem keepsRecord_submitted (recorded : Recorded db response rows fields) {row : SurveyResponse}
    (fieldResponses : List (Nat × String)) (new : row.id = db.responses.next) :
    KeepsRecord db (bulkCreate row.id fieldResponses { db with responses := db.responses.save row }) response rows := by
  obtain ⟨survey, stored, _⟩ := recorded.left
  rw [bulkCreate_eq]
  refine ⟨by rw [stored]; rfl, fun other => ?_⟩
  have different : row.id ≠ response.id := by
    rw [new]
    exact (Nat.ne_of_lt (Table.lt_next recorded.stored)).symm
  rw [← recorded.exactly, fieldResponsesOf, fieldResponsesOf, List.mem_filter, List.mem_filter,
    Table.mem_rows_saveAll nodup_numberRows]
  apply and_congr_left
  intro inResponse
  have inResponse : other.surveyResponseId = response.id := by simpa using inResponse
  -- the new rows are numbered from the next key on, and belong to the new response
  have notNew : other ∉ numberRows row.id db.fieldResponses.next fieldResponses :=
    fun member => different ((mem_numberRows member).1.symm.trans inResponse)
  rw [or_iff_right notNew]
  apply and_iff_left_of_imp
  intro member added inNew sameKey
  have above : db.fieldResponses.next ≤ added.id := (mem_numberRows inNew).2.1
  have below : other.id < db.fieldResponses.next := Table.lt_next (Table.mem_rows.mp member)
  rw [key_fieldResponse, key_fieldResponse] at sameKey
  omega

/-- What a change leaves of a recorded response: the rows, or nothing. -/
theorem Change.keepsRecord {w w' : World} {call : Call} (change : Change w call w') (recorded : Recorded w.db response rows fields)
    {still : SurveyResponse} (stored : w'.db.responses.get response.id = some still) :
    still = response ∧ KeepsRecord w.db w'.db response rows := by
  have same : ∀ {other : SurveyResponse}, w.db.responses.get response.id = some other → other = response := by
    intro other found
    rw [recorded.stored, Option.some.injEq] at found
    exact found.symm
  have noSurvey : ∀ s, (w.db.surveys.get s).isSome = true → (w.db.surveys.get s).isSome = true := fun _ => id
  cases change with
  | quiet => exact ⟨same stored, keepsRecord_of_same recorded noSurvey rfl⟩
  | cleared surveyId => exact ⟨same stored, keepsRecord_of_same recorded noSurvey rfl⟩
  | surveyCreated draft =>
    rename_i row
    refine ⟨same stored, keepsRecord_of_same recorded (fun s found => ?_) rfl⟩
    show ((w.db.surveys.insert row.withId row.key_withId).get s).isSome = true
    rw [Table.get_insert]
    split
    · rfl
    · exact found
  | surveyMoved _ _ _ found writes =>
    refine ⟨same stored, keepsRecord_of_same recorded (fun s found => ?_) rfl⟩
    simp only [withDb, Database.setStatus, Table.get_modify]
    split
    · rw [Option.isSome_map]
      exact found
    · exact found
  | surveySaved found sameStatus =>
    refine ⟨same stored, keepsRecord_of_same recorded (fun s found => ?_) rfl⟩
    simp only [refreshed, invalidated, withDb, Table.get_save]
    split
    · rfl
    · exact found
  | surveyMovedSaved found accepted sameKey sameStatus =>
    refine ⟨same stored, keepsRecord_of_same recorded (fun s found => ?_) rfl⟩
    simp only [refreshed, invalidated, withDb, Database.setStatus, Table.get_save, Table.get_modify, key_survey,
      sameKey]
    split
    · rfl
    · exact found
  | surveyDeleted _ _ found =>
    obtain ⟨found, kept⟩ := Option.filter_eq_some_iff.mp stored
    have isResponse := same found
    subst isResponse
    refine ⟨rfl, keepsRecord_deleteSurvey recorded fun inSurvey => ?_⟩
    -- the responses of a deleted survey go with it
    simp [recorded.stored, inSurvey] at kept
  | sectionCreated draft => exact ⟨same stored, keepsRecord_of_same recorded noSurvey rfl⟩
  | sectionUpdated data found draft => exact ⟨same stored, keepsRecord_of_same recorded noSurvey rfl⟩
  | sectionDeleted _ _ found draft =>
    rename_i row _ _
    have kept : KeepsRecord w.db (w.db.deleteSections (· == row.id)) response rows :=
      keepsRecord_deleteSections recorded (recorded.left.section_ne found draft)
    exact ⟨same stored, kept.survey, kept.exactly⟩
  | fieldCreated found draft => exact ⟨same stored, keepsRecord_of_same recorded noSurvey rfl⟩
  | fieldUpdated data found draft => exact ⟨same stored, keepsRecord_of_same recorded noSurvey rfl⟩
  | fieldDeleted _ _ found draft =>
    rename_i row _ _
    have kept : KeepsRecord w.db (w.db.deleteFields (· == row.id)) response rows :=
      keepsRecord_deleteFields recorded (recorded.left.field_ne found draft)
    exact ⟨same stored, kept.survey, kept.exactly⟩
  | ruleUpdated data found draft => exact ⟨same stored, keepsRecord_of_same recorded noSurvey rfl⟩
  | ruleDeleted found draft => exact ⟨same stored, keepsRecord_of_same recorded noSurvey rfl⟩
  | dependencyCreated draft => exact ⟨same stored, keepsRecord_of_same recorded noSurvey rfl⟩
  | dependencyUpdated data found draft => exact ⟨same stored, keepsRecord_of_same recorded noSurvey rfl⟩
  | dependencyDeleted found draft => exact ⟨same stored, keepsRecord_of_same recorded noSurvey rfl⟩
  | submitted fieldResponses new isPublished =>
    rename_i row
    have different : response.id ≠ row.id := by
      rw [new]
      exact Nat.ne_of_lt (Table.lt_next recorded.stored)
    have found : (w.db.responses.save row).get response.id = some still := stored
    rw [Table.get_save, key_surveyResponse, if_neg different] at found
    exact ⟨same found, keepsRecord_submitted recorded fieldResponses new⟩

end Kept

/-! ## The run -/

/-- The response is recorded, or it is gone for good. -/
def StillRecorded (response : SurveyResponse) (rows : List FieldResponse) (fields : Nat → Option Field) (w : World) :
    Prop :=
  response.id < w.db.responses.next ∧
    ∀ still, w.db.responses.get response.id = some still → still = response ∧ Recorded w.db response rows fields

section Run

variable {response : SurveyResponse} {rows : List FieldResponse} {fields : Nat → Option Field} {w w' : World}

theorem Recorded.start (recorded : Recorded w.db response rows fields) : StillRecorded response rows fields w := by
  refine ⟨Table.lt_next recorded.stored, fun still found => ⟨?_, recorded⟩⟩
  rw [recorded.stored, Option.some.injEq] at found
  exact found.symm

theorem Change.responses_next (change : Change w call w') : w.db.responses.next ≤ w'.db.responses.next := by
  cases change with
  | submitted fieldResponses new isPublished => exact Nat.le_max_left _ _
  | quiet | cleared | surveyCreated | surveyMoved | surveySaved | surveyMovedSaved | surveyDeleted | sectionCreated
  | sectionUpdated | sectionDeleted | fieldCreated | fieldUpdated | fieldDeleted | ruleUpdated | ruleDeleted
  | dependencyCreated | dependencyUpdated | dependencyDeleted => exact Nat.le_refl _

/-- No row is stored under a key below the sequence that was free. -/
theorem Change.responses_none (change : Change w call w') {id : Nat} (below : id < w.db.responses.next)
    (missing : w.db.responses.get id = none) : w'.db.responses.get id = none := by
  cases change with
  | submitted fieldResponses new isPublished =>
    rename_i row
    show (w.db.responses.save row).get id = none
    rw [Table.get_save, key_surveyResponse, if_neg (by omega)]
    exact missing
  | surveyDeleted _ _ stored =>
    show (w.db.responses.get id).filter _ = none
    rw [missing, Option.filter_none]
  | quiet | cleared | surveyCreated | surveyMoved | surveySaved | surveyMovedSaved | sectionCreated
  | sectionUpdated | sectionDeleted | fieldCreated | fieldUpdated | fieldDeleted | ruleUpdated | ruleDeleted
  | dependencyCreated | dependencyUpdated | dependencyDeleted => exact missing

theorem stillRecorded_change (change : Change w call w') (before : StillRecorded response rows fields w) :
    StillRecorded response rows fields w' := by
  obtain ⟨below, recorded⟩ := before
  refine ⟨below.trans_le change.responses_next, fun still stored => ?_⟩
  cases found : w.db.responses.get response.id with
  | none =>
    rw [change.responses_none below found] at stored
    cases stored
  | some other =>
    obtain ⟨rfl, recorded⟩ := recorded other found
    obtain ⟨rfl, keeps⟩ := change.keepsRecord recorded stored
    refine ⟨rfl, stored, ?_, keeps.exactly, fun row member => ?_⟩
    all_goals
      obtain ⟨survey, foundSurvey⟩ := Option.isSome_iff_exists.mp keeps.survey
      obtain ⟨notDraft, same⟩ := (effects_later change.effects).1.frozen _ recorded.left survey foundSurvey
    · exact ⟨survey, foundSurvey, notDraft⟩
    · obtain ⟨field, original, sameId, inSurvey⟩ := recorded.readable row member
      exact ⟨field, original, sameId, same.fields ▸ inSurvey⟩

theorem stillRecorded_run (py : Interpreter) (start : StillRecorded response rows fields w) (calls : List Call) :
    StillRecorded response rows fields (run (handle py) w calls) := by
  have kept : ∀ w call, StillRecorded response rows fields w → StillRecorded response rows fields (handle py w call) :=
    fun w call => stillRecorded_change (handle_change py w call)
  exact run_invariant kept start calls

variable {py : Interpreter} {order : SetOrder} {encryptValue : Encryption} {user : User} {surveyPk responseId : Nat}
  {answers : Submitted (List Answer)} {cleaned : Dict String Json}

/-- The answers that are passed on are determined by the request. -/
theorem CleanedAnswers.unique {cleaned' : Dict String Json} (accepted : CleanedAnswers py order w surveyPk answers cleaned)
    (accepted' : CleanedAnswers py order w surveyPk answers cleaned') : cleaned = cleaned' := by
  obtain ⟨given, dict, validated, built, passed⟩ := accepted
  obtain ⟨given', dict', validated', built', passed'⟩ := accepted'
  cases validated.symm.trans validated'
  cases built.symm.trans built'
  cases passed.symm.trans passed'
  rfl

/-- A submission that is answered 201 has passed every check, and was stored. -/
theorem submit_created (created : submit py order encryptValue user surveyPk answers w = .ok (.created responseId) w') :
    ∃ cleaned survey row, CleanedAnswers py order w surveyPk answers cleaned ∧
      w.db.surveys.get surveyPk = some survey ∧ survey.status = .published ∧ row.id = responseId ∧
      createSubmission py encryptValue survey user cleaned (fun id => fieldOfSurvey w.db surveyPk id) w = .ok row w' := by
  rw [submit, query_bind_eq_ok_iff] at created
  obtain ⟨_, _, created⟩ := created
  rw [getOr404_bind_eq_ok_iff] at created
  obtain ⟨survey, found, created⟩ := created
  obtain ⟨stored, published⟩ := Option.filter_eq_some_iff.mp found
  have sameKey : survey.id = surveyPk := w.db.surveys.keyed surveyPk survey stored
  subst sameKey
  rw [query_bind_eq_ok_iff] at created
  obtain ⟨given, validated, created⟩ := created
  rw [query_bind_of_ok rfl] at created
  cases built : answersDict w.db survey.id given Dict.empty with
  | error errors =>
    rw [built] at created
    cases created
  | ok dict =>
    rw [built] at created
    simp only [respondErrors, reading_bind] at created
    cases passed : validateSubmission py order (prefetchSurveyStructure w.db survey.id) dict with
    | error exn =>
      simp only [passed] at created
      cases exn <;> cases created
    | ok cleaned =>
      simp only [passed] at created
      refine ⟨cleaned, survey, ?_⟩
      cases result : createSubmission py encryptValue survey user cleaned (fun id => fieldOfSurvey w.db survey.id id) w with
      | error exn t =>
        simp only [bind_of_error result] at created
        cases exn <;> cases created
      | ok row t =>
        simp only [bind_of_ok result] at created
        cases created
        exact ⟨row, ⟨given, dict, validated, built, passed⟩, stored, by simpa using published, rfl, rfl⟩

/-- The keys of cleaned answers are ids of fields. -/
theorem cleaned_fromFields (accepted : CleanedAnswers py order w surveyPk answers cleaned) :
    ∀ answer ∈ cleaned.entries, ∃ id, answer.1 = fieldIdStr id := by
  obtain ⟨_, dict, _, _, passed⟩ := accepted
  intro answer member
  unfold validateSubmission at passed
  split at passed
  · cases passed
  · rename_i outcome ran
    split at passed
    · cases passed
      obtain ⟨field, _, _, sameKey, _⟩ := ((runChecks_ok ran).cleaned answer.1 answer.2).mp
        ((outcome.cleaned.get?_eq_some_iff _ _).mpr member)
      exact ⟨field.id, sameKey⟩
    · cases passed

theorem fieldOfSurvey_eq_some {db : Database} {id : Nat} {field : Surveys.Field}
    (found : fieldOfSurvey db surveyPk id = some field) :
    db.fields.get id = some field ∧ field.id = id ∧ field ∈ FieldRows db surveyPk := by
  rw [fieldOfSurvey, if_pos (Int.natCast_nonneg id), Int.toNat_natCast] at found
  obtain ⟨stored, inSurvey⟩ := Option.filter_eq_some_iff.mp found
  have sameId : field.id = id := db.fields.keyed id field stored
  obtain ⟨parent, foundParent, isSurvey⟩ := Option.any_eq_true _ _ |>.mp inSurvey
  exact ⟨stored, sameId, sameId ▸ stored, parent, foundParent, by simpa using isSurvey⟩

/-- No row belongs to a response that is not created yet. -/
def NoOrphans (db : Database) : Prop := ∀ row ∈ db.fieldResponses.rows, row.surveyResponseId < db.responses.next

theorem Change.noOrphans (change : Change w call w') (before : NoOrphans w.db) : NoOrphans w'.db := by
  -- deletes only take rows away
  have deleted : ∀ {gone : FieldResponse → Bool} {row : FieldResponse},
      row ∈ (w.db.fieldResponses.deleteWhere gone).rows → row ∈ w.db.fieldResponses.rows := by
    intro gone row member
    exact Table.mem_rows.mpr (Option.filter_eq_some_iff.mp (Table.mem_rows.mp member)).1
  cases change with
  | submitted fieldResponses new isPublished =>
    rename_i row
    intro other member
    have member : other ∈ (w.db.fieldResponses.saveAll
        (numberRows row.id w.db.fieldResponses.next fieldResponses)).rows := by
      rw [withDb, bulkCreate_eq] at member
      exact member
    show other.surveyResponseId < max w.db.responses.next (row.id + 1)
    rw [Table.mem_rows_saveAll nodup_numberRows] at member
    cases member with
    | inl added =>
      rw [(mem_numberRows added).1]
      omega
    | inr kept => exact (before other kept.1).trans_le (Nat.le_max_left _ _)
  | sectionDeleted _ _ stored draft => exact fun row member => before row (deleted member)
  | fieldDeleted _ _ stored draft => exact fun row member => before row (deleted member)
  | surveyDeleted _ _ stored =>
    intro row member
    have inner := (Option.filter_eq_some_iff.mp (Table.mem_rows.mp member)).1
    exact before row (deleted (Table.mem_rows.mpr inner))
  | quiet | cleared | surveyCreated | surveyMoved | surveySaved | surveyMovedSaved | sectionCreated
  | sectionUpdated | fieldCreated | fieldUpdated | ruleUpdated | ruleDeleted
  | dependencyCreated | dependencyUpdated | dependencyDeleted => exact before

/-- A submission records its response. -/
theorem recorded_of_created {survey : Survey} {row : SurveyResponse} (noOrphans : NoOrphans w.db)
    (stored : w.db.surveys.get surveyPk = some survey) (published : survey.status = .published)
    (fromFields : ∀ answer ∈ cleaned.entries, ∃ id, answer.1 = fieldIdStr id)
    (created : createSubmission py encryptValue survey user cleaned (fun id => fieldOfSurvey w.db surveyPk id) w =
      .ok row w') :
    ∃ prepared, List.Forall₂ (Prepared py encryptValue w.db.fields.get) cleaned.entries prepared ∧
      row.surveyId = surveyPk ∧
      Recorded w'.db row (numberRows row.id w.db.fieldResponses.next prepared) w.db.fields.get := by
  obtain ⟨prepared, ready, rfl, rfl⟩ := createSubmission_ok created
  have sameKey : survey.id = surveyPk := w.db.surveys.keyed surveyPk survey stored
  have inSurvey := prepareFieldResponses_ok (fun id field found => (fieldOfSurvey_eq_some found).2.1) fromFields ready
  have ready : List.Forall₂ (Prepared py encryptValue w.db.fields.get) cleaned.entries prepared := by
    refine inSurvey.imp fun answer prepared holds => ⟨?_, holds.sameKey⟩
    obtain ⟨field, found, sameId, storedAs⟩ := holds.field
    exact ⟨field, (fieldOfSurvey_eq_some found).1, sameId, storedAs⟩
  refine ⟨prepared, ready, sameKey, ?_, ⟨survey, sameKey ▸ stored, by rw [published]; decide⟩, ?_, ?_⟩
  · show (w.db.responses.save _).get _ = _
    rw [Table.get_save]
    exact if_pos rfl
  · intro other
    rw [bulkCreate_eq, fieldResponsesOf, List.mem_filter, Table.mem_rows_saveAll nodup_numberRows]
    constructor
    · intro holds
      obtain ⟨member, inResponse⟩ := holds
      refine member.resolve_right fun kept => ?_
      -- an older row would belong to a response that was not yet created
      have older := noOrphans other kept.1
      rw [of_decide_eq_true inResponse] at older
      exact Nat.lt_irrefl _ older
    · intro member
      exact ⟨Or.inl member, decide_eq_true (mem_numberRows member).1⟩
  · intro other member
    obtain ⟨field, _, found, _⟩ := storedAs_of_mem_numberRows inSurvey member
    obtain ⟨original, sameId, inRows⟩ := fieldOfSurvey_eq_some found
    exact ⟨field, original, sameId, sameKey ▸ inRows⟩

/-- A detail view that lists exactly one entry for each cleaned answer, with its
serialized value, for a field of the survey; the column holds that text, or an
output of `encrypt_value` for it. -/
structure ShowsAnswers (py : Interpreter) (encryptValue : Encryption) (db : Database) (surveyPk : Nat)
    (cleaned : Dict String Json) (detail : SurveyResponseDetail) : Prop where
  entries : (detail.fieldResponses.map fun entry => (fieldIdStr entry.field, entry.value)).Perm
    (cleaned.entries.map fun answer => (answer.1, serializeValue py answer.2))
  stored : ∀ entry ∈ detail.fieldResponses, ∃ row field, db.fieldResponses.get entry.id = some row ∧
    db.fields.get entry.field = some field ∧ field ∈ FieldRows db surveyPk ∧
    StoredAs encryptValue field entry.value row.value

/-- A recorded response reads as it was prepared. -/
theorem showsAnswers_of_recorded {decryptValue : Decryption} {first : Nat} {prepared : List (Nat × String)}
    (fernet : Inverts decryptValue encryptValue)
    (ready : List.Forall₂ (Prepared py encryptValue fields) cleaned.entries prepared)
    (recorded : Recorded w.db response (numberRows response.id first prepared) fields) :
    ShowsAnswers py encryptValue w.db response.surveyId cleaned
      ⟨response.id, response.surveyId, response.userId, fieldResponseDetails decryptValue w.db response.id⟩ := by
  have sameField : ∀ row ∈ numberRows response.id first prepared,
      ∃ field, w.db.fields.get row.fieldId = some field ∧ fields row.fieldId = some field ∧
        field ∈ FieldRows w.db response.surveyId := by
    intro row member
    obtain ⟨field, original, sameId, inSurvey⟩ := recorded.readable row member
    exact ⟨field, sameId ▸ inSurvey.1, original, inSurvey⟩
  constructor
  · have rows : (fieldResponsesOf w.db response.id).Perm (numberRows response.id first prepared) :=
      (List.perm_ext_iff_of_nodup (nodup_fieldResponsesOf _ _) (nodup_numberRows.of_map key)).mpr recorded.exactly
    have details : fieldResponseDetails decryptValue w.db response.id =
        (fieldResponsesOf w.db response.id).filterMap fun row =>
          (fields row.fieldId).map fun field => fieldResponseDetail decryptValue field row := by
      apply List.filterMap_congr
      intro row member
      obtain ⟨field, found, original, _⟩ := sameField row ((recorded.exactly row).mp member)
      rw [found, original]
    rw [details, ← details_numberRows fernet response.id first ready]
    exact (rows.filterMap _).map _
  · intro entry member
    obtain ⟨row, inResponse, described⟩ := List.mem_filterMap.mp member
    have inRows := (recorded.exactly row).mp inResponse
    obtain ⟨field, found, original, inSurvey⟩ := sameField row inRows
    obtain ⟨other, text, otherFound, storedAs⟩ := storedAs_of_mem_numberRows ready inRows
    rw [original, Option.some.injEq] at otherFound
    subst otherFound
    rw [found, Option.map_some, Option.some.injEq] at described
    subst described
    refine ⟨row, field, (mem_fieldResponsesOf.mp inResponse).1, found, inSurvey, ?_⟩
    rw [fieldResponseDetail, getValue_of_storedAs fernet storedAs]
    exact storedAs

end Run

/-- In every run of requests, after every submission answered 201, as long as the
response is stored its detail view shows exactly the accepted answers. -/
theorem answers_durable (py : Interpreter) (decryptValue : Decryption) (earlier later : List Call) (call : Call)
    {surveyPk responseId : Nat} {answers : Submitted (List Answer)} {cleaned : Dict String Json} {w' : World}
    (fernet : Inverts decryptValue call.encryptValue) (request : call.request = .submit surveyPk answers)
    (accepted : CleanedAnswers py call.order (run (handle py) World.empty earlier) surveyPk answers cleaned)
    (created : submit py call.order call.encryptValue call.user surveyPk answers
      (run (handle py) World.empty earlier) = .ok (.created responseId) w')
    {response : SurveyResponse} {viewer : User} (mayView : viewer.role ≠ .customer)
    (stored : (run (handle py) World.empty (earlier ++ call :: later)).db.responses.get responseId = some response) :
    ∃ detail, surveyResponseRetrieve decryptValue viewer surveyPk responseId
        (run (handle py) World.empty (earlier ++ call :: later)) =
          .ok detail (run (handle py) World.empty (earlier ++ call :: later)) ∧
      ShowsAnswers py call.encryptValue (run (handle py) World.empty (earlier ++ call :: later)).db surveyPk cleaned
        detail := by
  have noOrphans : NoOrphans (run (handle py) World.empty earlier).db :=
    run_invariant (fun w call => (handle_change py w call).noOrphans) (fun _ member => by cases member) earlier
  obtain ⟨_, survey, row, passed, surveyStored, published, rfl, createdRow⟩ := submit_created created
  obtain rfl := accepted.unique passed
  obtain ⟨prepared, ready, rfl, recorded⟩ :=
    recorded_of_created noOrphans surveyStored published (cleaned_fromFields accepted) createdRow
  have submitted : handle py (run (handle py) World.empty earlier) call = w' := by
    rw [handle, Call.procedure, request]
    exact final_of_ok (bind_eq_ok_iff.mpr ⟨_, _, created, rfl⟩)
  have whole : run (handle py) World.empty (earlier ++ call :: later) = run (handle py) w' later := by
    rw [run, List.foldl_append, List.foldl_cons, ← submitted]
    rfl
  -- from the submission on, the record stays or is gone
  have still := stillRecorded_run py recorded.start later
  rw [whole] at stored ⊢
  obtain ⟨rfl, recorded⟩ := still.2 response stored
  obtain ⟨survey, surveyStored, _⟩ := recorded.left
  exact ⟨_, surveyResponseRetrieve_of_stored mayView surveyStored stored rfl,
    showsAnswers_of_recorded fernet ready recorded⟩

/-! ## An encrypted answer -/

def dropPrefix : Decryption := fun token => .ok (String.ofList (token.toList.drop 6))

theorem inverts_dropPrefix : Inverts dropPrefix prefixToken := by
  intro _ value token encrypted
  cases encrypted
  refine ⟨fun empty => ?_, ?_⟩
  · have characters := congrArg String.toList empty
    simp at characters
  · simp [dropPrefix, String.toList_append]

/-- A survey with one encrypted field, published. -/
def buildAndPublish : List Call :=
  [adminCall (.createSurvey ⟨.given "Health", .missing, .missing⟩),
    adminCall (.createSection 1 ⟨.given "You", .missing, .missing⟩),
    adminCall (.createField 1 1
      ⟨.given "Insurance number", .given .text, .missing, .missing, .missing, .given true, .missing⟩),
    adminCall (.updateSurvey 1 true ⟨.missing, .missing, .given .published⟩)]

def customerCall : Call := ⟨⟨2, .customer⟩, .ascending, prefixToken, .submit 1 (.given [⟨1, .str "x"⟩])⟩

/-- The number is answered, then the survey is archived. -/
def answeredWorld : World :=
  run (handle bareInterpreter) World.empty
    (buildAndPublish ++ customerCall :: [adminCall (.updateSurvey 1 true ⟨.missing, .missing, .given .archived⟩)])

/-- The id of the stored response, when there is one. -/
def createdId : SubmitResponse → Option Nat
  | .created id => some id
  | .errors _ => none

theorem created_of_outcome {program : Procedure SubmitResponse} {w : World} {id : Nat}
    (answered : (outcome program w).toOption.bind createdId = some id) : ∃ w', program w = .ok (.created id) w' := by
  rw [outcome] at answered
  cases result : program w with
  | error exn t =>
    rw [result] at answered
    cases answered
  | ok response t =>
    rw [result] at answered
    cases response with
    | errors messages => cases answered
    | created other =>
      cases answered
      exact ⟨t, rfl⟩

/-- The view shows the archived response's number again. -/
theorem answers_durable_encrypted : ∃ cleaned detail, cleaned.keys = ["1"] ∧
    surveyResponseRetrieve dropPrefix administrator 1 1 answeredWorld = .ok detail answeredWorld ∧
    ShowsAnswers bareInterpreter prefixToken answeredWorld.db 1 cleaned detail := by
  let before := run (handle bareInterpreter) World.empty buildAndPublish
  let dict : Dict String Json := Dict.empty.set "1" (.str "x")
  have passes : ((validateSubmission bareInterpreter .ascending (prefetchSurveyStructure before.db 1) dict).toOption.any
      fun cleaned => cleaned.keys == ["1"]) = true := by decide +kernel
  have answered : (outcome (submit bareInterpreter .ascending prefixToken ⟨2, .customer⟩ 1 (.given [⟨1, .str "x"⟩]))
      before).toOption.bind createdId = some 1 := by decide +kernel
  have stored : answeredWorld.db.responses.get 1 = some ⟨1, 1, 2⟩ := by decide +kernel
  cases validated : validateSubmission bareInterpreter .ascending (prefetchSurveyStructure before.db 1) dict with
  | error exn =>
    rw [validated] at passes
    cases passes
  | ok cleaned =>
    rw [validated] at passes
    obtain ⟨w', created⟩ := created_of_outcome answered
    obtain ⟨detail, shown, shows_⟩ := answers_durable bareInterpreter dropPrefix buildAndPublish
      [adminCall (.updateSurvey 1 true ⟨.missing, .missing, .given .archived⟩)] customerCall inverts_dropPrefix rfl
      ⟨[⟨1, .str "x"⟩], dict, rfl, rfl, validated⟩ created (show administrator.role ≠ .customer by decide) stored
    exact ⟨cleaned, detail, eq_of_beq passes, shown, shows_⟩

end SurveyPlatform.Verified

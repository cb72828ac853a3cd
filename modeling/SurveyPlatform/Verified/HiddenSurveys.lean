import SurveyPlatform.Library.Sorting
import SurveyPlatform.Verified.AnswerOrder
import SurveyPlatform.Verified.SurveyDetails

/-! # What a submission tells about unpublished surveys

Two databases that agree on the published surveys and on the responses may hold
any drafts and archived surveys.  A submission is answered alike on both, unless
one of its field ids names a field in only one of them
(`submit_samePublished`): the serializer looks ids up among all fields.
-/

namespace SurveyPlatform.Verified

open SurveyPlatform.Library SurveyPlatform.Library.Program SurveyPlatform.Python
open SurveyPlatform.Surveys SurveyPlatform.Responses

/-- The same published surveys with their structure, and the same responses. -/
structure SamePublished (db db' : Database) : Prop where
  surveys : ∀ id, (db'.surveys.get id).filter (·.status = .published) = (db.surveys.get id).filter (·.status = .published)
  details : ∀ id survey, db.surveys.get id = some survey → survey.status = .published → SameDetail db db' id
  responses : db'.responses = db.responses

/-- Each field id of the request names a stored field in both databases or in neither.  A request
with a `null` is refused before its ids are looked up. -/
def SameStoredIds (db db' : Database) (answers : Submitted (List Answer)) : Prop :=
  ∀ given, answers = .given given → (∀ answer ∈ given, answer.value.isNone = false) →
    ∀ answer ∈ given, 0 ≤ answer.fieldId →
      (db'.fields.get answer.fieldId.toNat).isSome = (db.fields.get answer.fieldId.toNat).isSome

/-! ## The structure of one survey -/

section Structure

variable {db db' : Database} {surveyId : Nat}

theorem SameDetail.section_iff (same : SameDetail db db' surveyId) {id : Nat} {row : Section}
    (inSurvey : row.surveyId = surveyId) : db'.sections.get id = some row ↔ db.sections.get id = some row :=
  eq_some_iff_of_filter (same.sections id) (decide_eq_true inSurvey)

/-- A field belongs to the survey of its section. -/
def belongs (db : Database) (surveyId : Nat) (field : Field) : Bool :=
  (db.sections.get field.sectionId).any (·.surveyId = surveyId)

theorem SameDetail.fields_filter (same : SameDetail db db' surveyId) (id : Nat) :
    (db'.fields.get id).filter (belongs db' surveyId) = (db.fields.get id).filter (belongs db surveyId) := by
  apply Option.ext
  intro field
  simp only [Option.filter_eq_some_iff, belongs, Option.any_eq_true, decide_eq_true_eq, ← exists_and_left, ← and_assoc]
  refine exists_congr fun parent => and_congr_left fun inSurvey => ?_
  rw [same.section_iff inSurvey]
  refine and_congr_left fun stored => ?_
  have sameKey : parent.id = field.sectionId := db.sections.keyed _ parent stored
  exact eq_some_iff_of_filter (same.fields parent (sameKey ▸ stored) inSurvey id) (decide_eq_true sameKey.symm)

theorem SameDetail.fieldOfSurvey_eq (same : SameDetail db db' surveyId) (id : Int) :
    fieldOfSurvey db' surveyId id = fieldOfSurvey db surveyId id := by
  unfold fieldOfSurvey
  split
  · exact same.fields_filter id.toNat
  · rfl

theorem SameDetail.structureFields_eq (same : SameDetail db db' surveyId) :
    structureFields db' surveyId = structureFields db surveyId := by
  have rows : db'.fields.rows.filter (belongs db' surveyId) = db.fields.rows.filter (belongs db surveyId) :=
    Table.filter_rows_congr same.fields_filter
  -- the order of a section of the survey is stored in both
  have sameOrder : ∀ field ∈ db.fields.rows.filter (belongs db surveyId),
      sectionOrder db' field = sectionOrder db field := by
    intro field member
    obtain ⟨parent, stored, inSurvey⟩ := (Option.any_eq_true _ _).mp (List.mem_filter.mp member).2
    rw [sectionOrder, sectionOrder, stored, (same.section_iff (of_decide_eq_true inSurvey)).mpr stored]
  show (db'.fields.rows.filter (belongs db' surveyId)).mergeSort _ =
    (db.fields.rows.filter (belongs db surveyId)).mergeSort _
  rw [rows]
  apply (ranking_lexicographic (sectionOrder db') Field.order).mergeSort_congr
    (ranking_lexicographic (sectionOrder db) Field.order)
  intro a member b member'
  rw [sameOrder a member, sameOrder b member']

theorem SameDetail.structure_eq (same : SameDetail db db' surveyId) :
    prefetchSurveyStructure db' surveyId = prefetchSurveyStructure db surveyId := by
  have bySurvey : ∀ (rows : List ConditionalRule) (target : ConditionalRule → Bool),
      rows.filter (fun rule => rule.surveyId = surveyId && target rule) =
        (rows.filter (·.surveyId = surveyId)).filter target := by
    intro rows target
    rw [List.filter_filter]
    simp only [Bool.and_comm]
  simp only [prefetchSurveyStructure, structureSections, same.sectionsOf_eq, same.structureFields_eq, bySurvey,
    Table.filter_rows_congr same.conditionalRules, Table.filter_rows_congr same.fieldDependencies]

end Structure

/-! ## Two submissions -/

section Submit

variable {py : Interpreter} {order : SetOrder} {encryptValue : Encryption} {user : User} {surveyPk : Nat} {w w' : World}
  {answers : Submitted (List Answer)}

theorem validateAnswers_same {db db' : Database} (sameIds : SameStoredIds db db' answers) :
    validateAnswers db' answers = validateAnswers db answers := by
  cases answers with
  | missing => rfl
  | refused message => rfl
  | given given =>
    by_cases nulls : given.any (·.value.isNone) = true
    · simp only [validateAnswers, Submitted.convert, if_pos nulls]
    · have notNull : ∀ answer ∈ given, answer.value.isNone = false := by simpa using nulls
      have sameMissing : (given.map (·.fieldId)).filter (fun id => !(0 ≤ id && (db'.fields.get id.toNat).isSome)) =
          (given.map (·.fieldId)).filter fun id => !(0 ≤ id && (db.fields.get id.toNat).isSome) := by
        apply List.filter_congr
        intro id member
        obtain ⟨answer, inGiven, rfl⟩ := List.mem_map.mp member
        by_cases isId : 0 ≤ answer.fieldId
        · rw [sameIds given rfl notNull answer inGiven isId]
        · rw [decide_eq_false isId, Bool.false_and, Bool.false_and]
      simp only [validateAnswers, Submitted.convert, sameMissing]

/-- What a submission to this survey by this user reads of the database. -/
structure SubmitsAlike (db db' : Database) (surveyPk userId : Nat) (answers : Submitted (List Answer)) : Prop where
  ids : SameStoredIds db db' answers
  details : SameDetail db db' surveyPk
  nextResponse : db'.responses.next = db.responses.next
  constraints : surveyResponseConstraints db' ⟨db'.responses.next, surveyPk, userId⟩ =
    surveyResponseConstraints db ⟨db.responses.next, surveyPk, userId⟩

/-- The transaction reads the survey, its fields and the responses. -/
theorem createSubmission_congr {survey : Survey} (alike : SubmitsAlike w.db w'.db survey.id user.id answers)
    (cleaned : Dict String Json) :
    outcome (createSubmission py encryptValue survey user cleaned fun id => fieldOfSurvey w'.db survey.id id) w' =
      outcome (createSubmission py encryptValue survey user cleaned fun id => fieldOfSurvey w.db survey.id id) w := by
  simp only [alike.details.fieldOfSurvey_eq]
  have inBoth : ∀ id field, fieldOfSurvey w.db survey.id (id : Nat) = some field →
      (w.db.fields.get field.id).isSome = true ∧ (w'.db.fields.get field.id).isSome = true := by
    intro id field found
    have found' : fieldOfSurvey w'.db survey.id id = some field := (alike.details.fieldOfSurvey_eq id).trans found
    obtain ⟨isStored, rfl, _⟩ := fieldOfSurvey_eq_some found
    exact ⟨Option.isSome_of_eq_some isStored, Option.isSome_of_eq_some (fieldOfSurvey_eq_some found').1⟩
  unfold outcome
  rw [createSubmission_eq py encryptValue survey user cleaned _ w' rfl,
    createSubmission_eq py encryptValue survey user cleaned _ w rfl, alike.constraints]
  cases surveyResponseConstraints w.db ⟨w.db.responses.next, survey.id, user.id⟩ with
  | error exn => rfl
  | ok _ =>
    cases prepared : prepareFieldResponses py encryptValue (fun id => fieldOfSurvey w.db survey.id id) cleaned.entries with
    | error exn => rfl
    | ok rows =>
      simp only [if_pos (fieldsStored_of_prepareFieldResponses (fun id field found => (inBoth id field found).1) prepared),
        if_pos (fieldsStored_of_prepareFieldResponses (fun id field found => (inBoth id field found).2) prepared),
        alike.nextResponse]

/-- A submission is answered alike where its survey is not published, and where all that it reads is. -/
theorem submit_congr
    (surveys : (w'.db.surveys.get surveyPk).filter (·.status = .published) =
      (w.db.surveys.get surveyPk).filter (·.status = .published))
    (alike : ∀ survey, w.db.surveys.get surveyPk = some survey → survey.status = .published →
      SubmitsAlike w.db w'.db surveyPk user.id answers) :
    outcome (submit py order encryptValue user surveyPk answers) w' =
      outcome (submit py order encryptValue user surveyPk answers) w := by
  refine outcome_query_bind_congr rfl fun _ _ => outcome_getOr404_bind_congr surveys fun survey found => ?_
  obtain ⟨stored, isPublished⟩ := Option.filter_eq_some_iff.mp found
  have same := alike survey stored (of_decide_eq_true isPublished)
  refine outcome_query_bind_congr (validateAnswers_same same.ids) fun given _ => ?_
  have sameKey : survey.id = surveyPk := w.db.surveys.keyed surveyPk survey stored
  subst sameKey
  have sameDict : answersDict w'.db survey.id given Dict.empty = answersDict w.db survey.id given Dict.empty := by
    simp only [answersDict_eq, firstForeign, same.details.fieldOfSurvey_eq]
  have looked : ∀ (other : World) (next : Database → Procedure SubmitResponse),
      outcome ((query fun db => .ok db) >>= next) other = outcome (next other.db) other := fun _ _ => rfl
  simp only [looked, sameDict]
  cases answersDict w.db survey.id given Dict.empty with
  | error errors => rfl
  | ok dict =>
    show outcome (respondErrors _) w' = outcome (respondErrors _) w
    rw [outcome_respondErrors, outcome_respondErrors, outcome_reading_bind, outcome_reading_bind,
      same.details.structure_eq]
    cases validateSubmission py order (prefetchSurveyStructure w.db survey.id) dict with
    | error exn => rfl
    | ok cleaned =>
      dsimp only [Except.bind]
      rw [outcome_bind_pure_congr _ (createSubmission_congr same cleaned)]

end Submit

/-- Databases that agree on what is published answer a submission alike, if they agree on
which field ids of a submission to a published survey exist. -/
theorem submit_samePublished (py : Interpreter) (order : SetOrder) (encryptValue : Encryption) (user : User)
    (surveyPk : Nat) (answers : Submitted (List Answer)) (w w' : World) (same : SamePublished w.db w'.db)
    (sameIds : ∀ survey, w.db.surveys.get surveyPk = some survey → survey.status = .published →
      SameStoredIds w.db w'.db answers) :
    outcome (submit py order encryptValue user surveyPk answers) w' =
      outcome (submit py order encryptValue user surveyPk answers) w := by
  apply submit_congr (same.surveys surveyPk)
  intro survey stored published
  have details := same.details surveyPk survey stored published
  have stored' : w'.db.surveys.get surveyPk = some survey := details.survey.trans stored
  refine ⟨sameIds survey stored published, details, congrArg Table.next same.responses, ?_⟩
  simp only [surveyResponseConstraints, Database.requireRow, stored, stored', same.responses]

/-! ## A draft with a field -/

/-- The database with one more draft, with one section and one field. -/
def addDraft (db : Database) : Database :=
  let draft : Survey := ⟨0, "Draft", "", 1, .draft⟩
  let page : Section := ⟨0, db.surveys.next, "Page", "", 1⟩
  let field : Field := { blankField db.sections.next with label := "Name", order := 1 }
  { db with
    surveys := db.surveys.insert draft.withId draft.key_withId
    sections := db.sections.insert page.withId page.key_withId
    fields := db.fields.insert field.withId field.key_withId }

theorem samePublished_addDraft (db : Database) : SamePublished db (addDraft db) := by
  have notPublished : ∀ id, ((addDraft db).surveys.get id).filter (·.status = .published) =
      (db.surveys.get id).filter (·.status = .published) := by
    intro id
    rw [addDraft, Table.filter_get_insert rfl]
  refine ⟨notPublished, fun id survey stored _ => ?_, rfl⟩
  have other : db.surveys.next ≠ id := (Nat.ne_of_lt (Table.lt_next stored)).symm
  have surveys : SameDetail db { db with surveys := (addDraft db).surveys } id :=
    .of_surveys (by rw [addDraft, Table.get_insert, if_neg other.symm])
  refine surveys.trans (SameDetail.trans (sameDetail_sectionInsert other) (sameDetail_fieldInsert ?_))
  intro parent found
  -- the section of the new field is the new one
  have isNew : parent.surveyId = db.surveys.next := by
    simp only [Table.get_insert, blankField, if_true, Option.some.injEq] at found
    exact found ▸ rfl
  exact isNew ▸ other

/-- An administrator adds the draft. -/
def draftedWorld : World :=
  run (handle bareInterpreter) publishedWorld [adminCall (.createSurvey ⟨.given "Draft", .missing, .missing⟩),
    adminCall (.createSection 2 ⟨.given "Page", .missing, .missing⟩),
    adminCall (.createField 2 2 ⟨.given "Name", .given .text, .missing, .missing, .missing, .missing, .missing⟩)]

theorem draftedWorld_db : draftedWorld.db = addDraft publishedWorld.db := rfl

theorem submit_samePublished_draft :
    outcome (submit bareInterpreter .ascending prefixToken ⟨2, .customer⟩ 1 (.given thrice)) draftedWorld =
      outcome (submit bareInterpreter .ascending prefixToken ⟨2, .customer⟩ 1 (.given thrice)) publishedWorld := by
  apply submit_samePublished _ _ _ _ _ _ _ _ (draftedWorld_db ▸ samePublished_addDraft publishedWorld.db)
  rintro _ _ _ _ ⟨⟩ _
  decide +kernel

/-- The id of the draft's field is one the customer cannot use, and is told so in other words. -/
theorem submit_tells_drafts : SamePublished publishedWorld.db draftedWorld.db ∧
    draftedWorld.db.fieldResponses = publishedWorld.db.fieldResponses ∧
    outcome (submit bareInterpreter .ascending prefixToken ⟨2, .customer⟩ 1 (.given [⟨2, .str "x"⟩])) publishedWorld =
      .error (.apiValidationError [("answers", "Invalid field IDs: \x7b2\x7d")]) ∧
    outcome (submit bareInterpreter .ascending prefixToken ⟨2, .customer⟩ 1 (.given [⟨2, .str "x"⟩])) draftedWorld =
      .ok (.errors (Dict.empty.set "2" "Field does not belong to this survey.")) :=
  ⟨draftedWorld_db ▸ samePublished_addDraft publishedWorld.db, rfl, rfl, rfl⟩

end SurveyPlatform.Verified

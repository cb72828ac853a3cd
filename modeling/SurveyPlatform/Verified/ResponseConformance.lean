import SurveyPlatform.Verified.HiddenSurveys
import SurveyPlatform.Verified.SurveyIsolation

/-! # Responses conform to the stored definition

A submission is judged by the definition that is stored when it comes in.  What a
later validation, or the display of a response, takes from the database does not
change while the response is stored (`Served.judgedAlike`): its survey has left
draft.  So at every moment of a run each response shows just answers that the
validator accepts on the definition that is stored at that moment
(`responses_conform`).
-/

namespace SurveyPlatform.Verified

open SurveyPlatform.Library SurveyPlatform.Library.Program SurveyPlatform.Library.Table SurveyPlatform.Python
open SurveyPlatform.Surveys SurveyPlatform.Responses

/-- The answers of a response as its detail view lists them. -/
def shownAnswers (decryptValue : Decryption) (db : Database) (response : SurveyResponse) : List (String × String) :=
  (fieldResponseDetails decryptValue db response.id).map fun detail => (fieldIdStr detail.field, detail.value)

/-- The response shows just answers that the validator accepts on the stored definition of its survey. -/
structure Conforms (py : Interpreter) (decryptValue : Decryption) (db : Database) (response : SurveyResponse) : Prop where
  left : LeftDraft db response.surveyId
  accepted : ∃ order answers cleaned,
    validateSubmission py order (prefetchSurveyStructure db response.surveyId) answers = .ok cleaned ∧
      (shownAnswers decryptValue db response).Perm
        (cleaned.entries.map fun answer => (answer.1, serializeValue py answer.2))

/-- What judging and showing a response take from the database. -/
structure JudgedAlike (db db' : Database) (response : SurveyResponse) : Prop where
  definition : prefetchSurveyStructure db' response.surveyId = prefetchSurveyStructure db response.surveyId
  fields : ∀ id, fieldOfSurvey db' response.surveyId id = fieldOfSurvey db response.surveyId id
  rows : fieldResponsesOf db' response.id = fieldResponsesOf db response.id

section Responses

variable {py : Interpreter} {decryptValue : Decryption} {db db' : Database} {response : SurveyResponse}

/-! ## Showing -/

theorem fieldOfSurvey_of_fieldIn {surveyId id : Nat} (isIn : FieldIn db surveyId id) :
    fieldOfSurvey db surveyId id = db.fields.get id := by
  obtain ⟨field, found, inSurvey⟩ := isIn
  obtain ⟨stored, parent⟩ := Database.placedField_eq_some.mp found
  rw [fieldOfSurvey, if_pos (Int.natCast_nonneg id), Int.toNat_natCast, stored]
  exact Option.filter_some_pos (by rw [parent, Option.any_some]; exact decide_eq_true inSurvey)

/-- Where rows are in place, a response is shown with the fields of its survey. -/
theorem shownAnswers_eq (placed : RowsPlaced db) (stored : db.responses.get response.id = some response) :
    shownAnswers decryptValue db response = ((fieldResponsesOf db response.id).filterMap fun row =>
      (fieldOfSurvey db response.surveyId row.fieldId).map fun field => fieldResponseDetail decryptValue field row).map
        fun detail => (fieldIdStr detail.field, detail.value) := by
  have details : fieldResponseDetails decryptValue db response.id = (fieldResponsesOf db response.id).filterMap fun row =>
      (fieldOfSurvey db response.surveyId row.fieldId).map fun field => fieldResponseDetail decryptValue field row := by
    apply List.filterMap_congr
    intro row member
    obtain ⟨storedRow, inResponse⟩ := mem_fieldResponsesOf.mp member
    obtain ⟨other, found, isIn⟩ := placed.answers row (mem_rows.mpr storedRow)
    rw [inResponse, stored, Option.some.injEq] at found
    subst found
    rw [fieldOfSurvey_of_fieldIn isIn]
  rw [shownAnswers, details]

theorem Conforms.judgedAlike (alike : JudgedAlike db db' response) (placed : RowsPlaced db) (placed' : RowsPlaced db')
    (stored : db.responses.get response.id = some response) (stored' : db'.responses.get response.id = some response)
    (left' : LeftDraft db' response.surveyId) (conforms : Conforms py decryptValue db response) :
    Conforms py decryptValue db' response := by
  obtain ⟨order, answers, cleaned, passed, shown⟩ := conforms.accepted
  refine ⟨left', order, answers, cleaned, alike.definition ▸ passed, ?_⟩
  rw [shownAnswers_eq placed' stored', alike.rows]
  simp only [alike.fields]
  rwa [← shownAnswers_eq placed stored]

end Responses

/-! ## Requests -/

section Requests

variable {py : Interpreter} {decryptValue : Decryption} {w : World} {call : Call} {response : SurveyResponse}

/-- A request changes nothing by which a stored response is judged, unless it deletes it. -/
theorem Served.judgedAlike {ends : Option PyExn × World} (served : Served py w call ends) (inPlace : InPlace w.db)
    (stored : w.db.responses.get response.id = some response)
    (still : ends.2.db.responses.get response.id = some response) (left : LeftDraft w.db response.surveyId) :
    JudgedAlike w.db ends.2.db response := by
  by_cases names : surveyInUrl call.request = some response.surveyId
  · -- the survey is no draft, so its definition is not edited
    have notDraft : ∀ {surveyId}, surveyInUrl call.request = some surveyId → ¬ IsDraft w.db surveyId := by
      intro surveyId names' draft
      rw [names, Option.some.injEq] at names'
      exact left.ne draft names'
    cases served with
    | refused => exact ⟨rfl, fun _ => rfl, rfl⟩
    | invalid => exact ⟨rfl, fun _ => rfl, rfl⟩
    | surveyCreated => exact ⟨rfl, fun _ => rfl, rfl⟩
    | statusWritten => exact ⟨rfl, fun _ => rfl, rfl⟩
    | surveyUpdated => exact ⟨rfl, fun _ => rfl, rfl⟩
    | surveyDeleted admin request isStored =>
      rw [request, surveyInUrl, Option.some.injEq] at names
      obtain ⟨_, kept⟩ := Option.filter_eq_some_iff.mp still
      simp [stored, names] at kept
    | sectionCreated admin request draft => exact absurd draft (notDraft (by rw [request]; rfl))
    | sectionUpdated admin request _ _ draft => exact absurd draft (notDraft (by rw [request]; rfl))
    | sectionDeleted admin request _ draft => exact absurd draft (notDraft (by rw [request]; rfl))
    | fieldCreated admin request _ _ draft => exact absurd draft (notDraft (by rw [request]; rfl))
    | fieldUpdated admin request _ _ draft => exact absurd draft (notDraft (by rw [request]; rfl))
    | fieldDeleted admin request _ draft => exact absurd draft (notDraft (by rw [request]; rfl))
    | ruleUpdated admin request _ _ _ _ draft => exact absurd draft (notDraft (by rw [request]; rfl))
    | ruleDeleted admin request _ draft => exact absurd draft (notDraft (by rw [request]; rfl))
    | dependencyCreated admin request _ _ _ draft => exact absurd draft (notDraft (by rw [request]; rfl))
    | dependencyUpdated admin request _ _ _ _ draft => exact absurd draft (notDraft (by rw [request]; rfl))
    | dependencyDeleted admin request _ draft => exact absurd draft (notDraft (by rw [request]; rfl))
    | submitted customer request isPublished new =>
      have fresh := get_next w.db.responses
      rw [← new] at fresh
      exact ⟨rfl, fun _ => rfl, filter_rows_congr (filter_answers_bulkCreate fresh stored)⟩
  · obtain ⟨survey, storedSurvey, _⟩ := left
    have same : SameSurvey w.db ends.2.db response.surveyId :=
      served.isolated inPlace.placed (inPlace.targets.inSurvey _) (lt_next storedSurvey) names
    exact ⟨same.detail.structure_eq, same.detail.fieldOfSurvey_eq, filter_rows_congr (same.answers response stored rfl)⟩

/-- The answers of a new response are the ones of its submission. -/
theorem fieldResponsesOf_bulkCreate {db : Database} (intact : Intact db) (new : response.id = db.responses.next)
    (prepared : List (Nat × String)) :
    (fieldResponsesOf (bulkCreate response.id prepared { db with responses := db.responses.save response }) response.id).Perm
      (numberRows response.id db.fieldResponses.next prepared) := by
  refine (List.perm_ext_iff_of_nodup (nodup_fieldResponsesOf _ _) (nodup_numberRows.of_map key)).mpr fun row => ?_
  rw [bulkCreate_eq, fieldResponsesOf, List.mem_filter, mem_rows_saveAll nodup_numberRows]
  constructor
  · rintro ⟨member, inResponse⟩
    refine member.resolve_right fun kept => ?_
    -- an older row would belong to a response that was not yet stored
    have older := intact.answerResponse row kept.1 _ rfl
    rw [of_decide_eq_true inResponse, new, get_next] at older
    cases older
  · intro member
    exact ⟨Or.inl member, decide_eq_true (mem_numberRows member).1⟩

theorem conforms_submitted {answers : Submitted (List Answer)} {cleaned : Dict String Json} {prepared : List (Nat × String)}
    (fernet : Inverts decryptValue call.encryptValue) (intact : Intact w.db)
    (submits : Submits py w call response answers cleaned prepared)
    (placed' : RowsPlaced (bulkCreate response.id prepared { w.db with responses := w.db.responses.save response })) :
    Conforms py decryptValue (bulkCreate response.id prepared { w.db with responses := w.db.responses.save response })
      response := by
  obtain ⟨survey, stored, published⟩ := submits.isPublished
  obtain ⟨given, dict, _, _, passed⟩ := submits.accepted
  refine ⟨⟨survey, stored, by rw [published]; decide⟩, call.order, dict, cleaned, passed, ?_⟩
  have storedResponse : (w.db.responses.save response).get response.id = some response := by
    rw [get_save]
    exact if_pos rfl
  rw [shownAnswers_eq placed' storedResponse,
    ← details_numberRows fernet response.id w.db.fieldResponses.next submits.ready]
  exact ((fieldResponsesOf_bulkCreate intact submits.new prepared).filterMap _).map _

/-- Responses conform after a request as they did before. -/
theorem Served.conforms {ends : Option PyExn × World} (served : Served py w call ends)
    (fernet : ∀ surveyPk answers, call.request = .submit surveyPk answers → Inverts decryptValue call.encryptValue)
    (later : Later w.db ends.2.db) (inPlace : InPlace w.db) (inPlace' : InPlace ends.2.db)
    (before : ∀ response ∈ w.db.responses.rows, Conforms py decryptValue w.db response) :
    ∀ response ∈ ends.2.db.responses.rows, Conforms py decryptValue ends.2.db response := by
  intro response member
  obtain old | ⟨answers, cleaned, prepared, submits, written⟩ := served.response_cases (mem_rows.mp member)
  · have conforms := before response (mem_rows.mpr old)
    obtain ⟨survey, stored⟩ := Option.isSome_iff_exists.mp (inPlace'.intact.responseSurvey response member _ rfl)
    have left' : LeftDraft ends.2.db response.surveyId :=
      ⟨survey, stored, (later.frozen _ conforms.left survey stored).1⟩
    exact conforms.judgedAlike (served.judgedAlike inPlace old (mem_rows.mp member) conforms.left) inPlace.placed
      inPlace'.placed old (mem_rows.mp member) left'
  · rw [written]
    exact conforms_submitted (fernet _ _ submits.request) inPlace.intact submits (written ▸ inPlace'.placed)

theorem serve_conforms {action : ApiCall} (fernet : ∀ call, action = .write call → Inverts decryptValue call.encryptValue)
    (inPlace : InPlace w.db) (inPlace' : InPlace (serve py w action).db)
    (before : ∀ response ∈ w.db.responses.rows, Conforms py decryptValue w.db response) :
    ∀ response ∈ (serve py w action).db.responses.rows, Conforms py decryptValue (serve py w action).db response := by
  cases action with
  | write call =>
    obtain ⟨raised, ends⟩ := handle_served py w call
    exact ends.conforms (fun _ _ _ => fernet call rfl) (effects_later (handle_change py w call).effects).1 inPlace inPlace'
      before
  | retrieve user pk =>
    rw [serve_retrieve_db]
    exact before

/-- In every run of the API, at every moment, each stored response shows just answers
that the validator accepts on the definition of its survey that is stored then. -/
theorem responses_conform (py : Interpreter) (decryptValue : Decryption) {w : World} (inPlace : InPlace w.db)
    (start : ∀ response ∈ w.db.responses.rows, Conforms py decryptValue w.db response) {actions : List ApiCall}
    (named : Along (serve py) (NamesOwnSection py) w actions)
    (fernet : ∀ call, .write call ∈ actions → Inverts decryptValue call.encryptValue) :
    ∀ state ∈ trace (serve py) w actions, ∀ response ∈ state.db.responses.rows,
      Conforms py decryptValue state.db response := by
  induction actions generalizing w with
  | nil =>
    intro state member
    rw [trace, List.mem_singleton] at member
    exact member ▸ start
  | cons action rest inductionHypothesis =>
    obtain ⟨now, later⟩ := named
    have inPlace' : InPlace (serve py w action).db := serve_inPlace now inPlace
    have next := serve_conforms (fun call isCall => fernet call (isCall ▸ List.mem_cons_self)) inPlace inPlace' start
    intro state member
    rw [trace, List.mem_cons] at member
    cases member with
    | inl head => exact head ▸ start
    | inr tail =>
      exact inductionHypothesis inPlace' next later (fun call inRest => fernet call (List.mem_cons_of_mem _ inRest)) state
        tail

end Requests

/-- The answered survey with one encrypted field, archived at the end. -/
def archivedRun : List ApiCall :=
  (buildAndPublish ++ [customerCall, adminCall (.updateSurvey 1 true ⟨.missing, .missing, .given .archived⟩)]).map .write

theorem mem_archivedRun {action : ApiCall} (member : action ∈ archivedRun) : ∃ call, action = .write call ∧
    call.encryptValue = prefixToken ∧ ∀ surveyPk pk isPartial body,
      call.request ≠ .updateConditionalRule surveyPk pk isPartial body := by
  obtain ⟨call, listed, rfl⟩ := List.mem_map.mp member
  simp only [buildAndPublish, List.cons_append, List.nil_append, List.mem_cons, List.not_mem_nil, or_false] at listed
  obtain rfl | rfl | rfl | rfl | rfl | rfl := listed <;> exact ⟨_, rfl, rfl, fun _ _ _ _ same => by cases same⟩

theorem responses_conform_archived :
    (⟨1, 1, 2⟩ : SurveyResponse) ∈ (run (serve bareInterpreter) World.empty archivedRun).db.responses.rows ∧
      Conforms bareInterpreter dropPrefix (run (serve bareInterpreter) World.empty archivedRun).db ⟨1, 1, 2⟩ := by
  have stored : (run (serve bareInterpreter) World.empty archivedRun).db.responses.get 1 = some ⟨1, 1, 2⟩ := by
    decide +kernel
  have named : Along (serve bareInterpreter) (NamesOwnSection bareInterpreter) World.empty archivedRun := by
    refine along_of_forall_mem (fun _ action member => ?_) _
    intro call surveyPk pk isPartial body _ isCall isUpdate
    obtain ⟨_, rfl, _, noUpdate⟩ := mem_archivedRun member
    cases isCall
    exact absurd isUpdate (noUpdate surveyPk pk isPartial body)
  refine ⟨mem_rows.mpr stored, responses_conform bareInterpreter dropPrefix inPlace_empty ?_ named ?_ _
    (run_mem_trace _ _) _ (mem_rows.mpr stored)⟩
  · exact fun response member => absurd member (rows_empty response)
  · intro call member
    obtain ⟨_, isCall, isPrefix, _⟩ := mem_archivedRun member
    cases isCall
    exact isPrefix ▸ inverts_dropPrefix

end SurveyPlatform.Verified

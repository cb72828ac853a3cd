import SurveyPlatform.Library.Unwinding
import SurveyPlatform.Surveys.Listings
import SurveyPlatform.Verified.CacheExpiry
import SurveyPlatform.Verified.HiddenSurveys
import SurveyPlatform.Verified.SurveyIsolation

/-! # What customers learn about unpublished surveys

Two sites may hold any drafts and archived surveys, and on each of them anybody may go
on working on these.  As long as both have the same surveys published, with the same
responses and cache entries, the lists, surveys and submissions of customers are
answered alike on both (`customers_answered_alike`), whoever else reads the published
surveys in between.
-/

namespace SurveyPlatform.Verified

open SurveyPlatform.Library SurveyPlatform.Library.Program SurveyPlatform.Library.Table SurveyPlatform.Python
open SurveyPlatform.Surveys SurveyPlatform.Responses

/-! ## Requests of a reader -/

inductive Reading where
  | list (asked : ListQuery)
  | retrieve (pk : String)
  | submit (order : SetOrder) (encryptValue : Encryption) (surveyPk : Nat) (answers : Submitted (List Answer))

structure ReaderCall where
  user : User
  reading : Reading

inductive ReaderAnswer where
  | listed (page : Page Json)
  | retrieved (data : Json)
  | submitted (response : SubmitResponse)

def ReaderCall.procedure (py : Interpreter) (call : ReaderCall) : Procedure ReaderAnswer :=
  match call.reading with
  | .list asked => do return .listed (← surveyList call.user asked)
  | .retrieve pk => do return .retrieved (← surveyRetrieve call.user pk)
  | .submit order encryptValue surveyPk answers => do
    return .submitted (← submit py order encryptValue call.user surveyPk answers)

/-- Readers are answered; what else the API is asked stays hidden. -/
def site (py : Interpreter) : Machine World ReaderCall ApiCall (Except PyExn ReaderAnswer) where
  serve w call := final (call.procedure py) w
  answer w call := outcome (call.procedure py) w
  act := serve py

def surveyNamed : ApiCall → Option Nat
  | .write call => surveyInUrl call.request
  | .retrieve _ pk => lookupKey pk

/-! ## Alike -/

/-- The same published surveys with their structure, responses and cache entries, and the same number
for the next response. -/
structure AlikeToCustomers (w w' : World) : Prop where
  surveys : ∀ id, (w'.db.surveys.get id).filter (·.status = .published) = (w.db.surveys.get id).filter (·.status = .published)
  details : ∀ id, Published id w.db → SameDetail w.db w'.db id
  responses : ∀ id, Published id w.db → ∀ i, (w'.db.responses.get i).filter (·.surveyId = id) =
    (w.db.responses.get i).filter (·.surveyId = id)
  nextResponse : w'.db.responses.next = w.db.responses.next
  entries : ∀ pk id, lookupKey pk = some id → Published id w.db → w'.cache (structureKey pk) = w.cache (structureKey pk)

section Alike

variable {w w' : World}

theorem published_iff_filter {db : Database} {id : Nat} :
    Published id db ↔ ∃ survey, (db.surveys.get id).filter (·.status = .published) = some survey := by
  simp only [Published, Option.filter_eq_some_iff, decide_eq_true_eq]

theorem AlikeToCustomers.published_iff (alike : AlikeToCustomers w w') {id : Nat} :
    Published id w'.db ↔ Published id w.db := by
  rw [published_iff_filter, published_iff_filter, alike.surveys]

theorem SameDetail.symm {db db' : Database} {surveyId : Nat} (same : SameDetail db db' surveyId) :
    SameDetail db' db surveyId := by
  refine ⟨same.survey.symm, fun id => (same.sections id).symm, ?_, fun id => (same.conditionalRules id).symm,
    fun id => (same.fieldDependencies id).symm⟩
  intro row stored inSurvey id
  exact (same.fields row ((same.section_iff inSurvey).mp stored) inSurvey id).symm

theorem AlikeToCustomers.refl (w : World) : AlikeToCustomers w w :=
  ⟨fun _ => rfl, fun id _ => .refl w.db id, fun _ _ _ => rfl, rfl, fun _ _ _ _ => rfl⟩

theorem AlikeToCustomers.symm (alike : AlikeToCustomers w w') : AlikeToCustomers w' w where
  surveys id := (alike.surveys id).symm
  details id published := (alike.details id (alike.published_iff.mp published)).symm
  responses id published i := (alike.responses id (alike.published_iff.mp published) i).symm
  nextResponse := alike.nextResponse.symm
  entries pk id named published := (alike.entries pk id named (alike.published_iff.mp published)).symm

theorem AlikeToCustomers.trans {w'' : World} (first : AlikeToCustomers w w') (second : AlikeToCustomers w' w'') :
    AlikeToCustomers w w'' where
  surveys id := (second.surveys id).trans (first.surveys id)
  details id published := (first.details id published).trans (second.details id (first.published_iff.mpr published))
  responses id published i :=
    (second.responses id (first.published_iff.mpr published) i).trans (first.responses id published i)
  nextResponse := second.nextResponse.trans first.nextResponse
  entries pk id named published :=
    (second.entries pk id named (first.published_iff.mpr published)).trans (first.entries pk id named published)

end Alike

/-! ## Lists and surveys -/

/-- The requests the theorem speaks about: lists of customers, reads of customers or of published surveys,
and submissions that name the same stored fields. -/
def Observable (w w' : World) (call : ReaderCall) : Prop :=
  match call.reading with
  | .list _ => call.user.role = .customer
  | .retrieve pk => call.user.role = .customer ∨ ∃ id, lookupKey pk = some id ∧ Published id w.db
  | .submit _ _ surveyPk answers => Published surveyPk w.db → SameStoredIds w.db w'.db answers

section Reads

variable {w w' : World} {user : User} {pk : String}

theorem visibleSurveys_alike (alike : AlikeToCustomers w w') (customer : user.role = .customer) :
    visibleSurveys user w'.db = visibleSurveys user w.db := by
  simp only [visibleSurveys, customer, ne_eq, not_true_eq_false, decide_false, Bool.false_or]
  exact filter_rows_congr alike.surveys

theorem visibleSurvey_alike (alike : AlikeToCustomers w w')
    (readable : user.role = .customer ∨ ∃ id, lookupKey pk = some id ∧ Published id w.db) :
    visibleSurvey user pk w'.db = visibleSurvey user pk w.db := by
  unfold visibleSurvey
  rcases readable with customer | ⟨id, named, published⟩
  · simp only [customer, ne_eq, not_true_eq_false, decide_false, Bool.false_or]
    cases lookupKey pk with
    | none => rfl
    | some id => exact alike.surveys id
  · rw [named, Option.bind_some, Option.bind_some, (alike.details id published).survey]

theorem published_of_visible {survey : Survey} (found : visibleSurvey user pk w.db = some survey)
    (readable : user.role = .customer ∨ ∃ id, lookupKey pk = some id ∧ Published id w.db) :
    lookupKey pk = some survey.id ∧ Published survey.id w.db := by
  obtain ⟨named, stored, shown⟩ := visibleSurvey_eq_some.mp found
  refine ⟨named, ?_⟩
  rcases readable with customer | ⟨id, named', published⟩
  · exact ⟨survey, stored, shown customer⟩
  · rw [named, Option.some.injEq] at named'
    exact named' ▸ published

/-- An entry is stored where there is none. -/
theorem final_surveyRetrieve {survey : Survey} (found : visibleSurvey user pk w.db = some survey) :
    final (surveyRetrieve user pk) w =
      if ((w.cache (structureKey pk)).filter Json.truthy).isSome then w
      else w.withEntry pk (surveyJson w.db user.role survey) := by
  simp only [surveyRetrieve, final, getOr404_bind_of_some found, getStructure_bind]
  cases (w.cache (structureKey pk)).filter Json.truthy with
  | some cached => rfl
  | none =>
    simp only [uncachedRetrieve_of_visible found, bind, EStateM.bind]
    rfl

theorem AlikeToCustomers.withEntry (alike : AlikeToCustomers w w') (pk : String) (data : Json) :
    AlikeToCustomers (w.withEntry pk data) (w'.withEntry pk data) where
  surveys := alike.surveys
  details := alike.details
  responses := alike.responses
  nextResponse := alike.nextResponse
  entries other id named published := by
    simp only [World.withEntry, Function.update_apply]
    split
    · rfl
    · exact alike.entries other id named published

theorem surveyRetrieve_alike (alike : AlikeToCustomers w w')
    (readable : user.role = .customer ∨ ∃ id, lookupKey pk = some id ∧ Published id w.db) :
    outcome (surveyRetrieve user pk) w' = outcome (surveyRetrieve user pk) w ∧
      AlikeToCustomers (final (surveyRetrieve user pk) w) (final (surveyRetrieve user pk) w') := by
  have sameFound := visibleSurvey_alike alike readable
  cases found : visibleSurvey user pk w.db with
  | none =>
    have missing : surveyRetrieve user pk w = .error .http404 w := getOr404_bind_of_none found
    have missing' : surveyRetrieve user pk w' = .error .http404 w' := getOr404_bind_of_none (sameFound.trans found)
    rw [outcome_of_error missing, outcome_of_error missing', final_of_error missing, final_of_error missing']
    exact ⟨rfl, alike⟩
  | some survey =>
    have found' := sameFound.trans found
    obtain ⟨named, published⟩ := published_of_visible found readable
    have sameEntry := alike.entries pk survey.id named published
    have sameJson := (alike.details survey.id published).surveyJson_eq user.role
    rw [outcome_surveyRetrieve found, outcome_surveyRetrieve found', final_surveyRetrieve found,
      final_surveyRetrieve found', sameEntry, sameJson]
    refine ⟨rfl, ?_⟩
    split
    · exact alike
    · exact alike.withEntry pk _

end Reads

/-! ## Submissions -/

section Submissions

variable {py : Interpreter} {order : SetOrder} {encryptValue : Encryption} {user : User} {surveyPk : Nat} {w w' : World}
  {answers : Submitted (List Answer)}

/-- The constraints look at the responses of the survey. -/
theorem surveyResponseConstraints_alike (alike : AlikeToCustomers w w') {row : SurveyResponse}
    (published : Published row.surveyId w.db) :
    surveyResponseConstraints w'.db row = surveyResponseConstraints w.db row := by
  have sameSurvey : w'.db.surveys.get row.surveyId = w.db.surveys.get row.surveyId := (alike.details _ published).survey
  have sameRows : w'.db.responses.rows.filter (·.surveyId = row.surveyId) =
      w.db.responses.rows.filter (·.surveyId = row.surveyId) := filter_rows_congr (alike.responses _ published)
  have inSurvey : ∀ rows : List SurveyResponse, (rows.any fun other =>
      other.id != row.id && other.surveyId == row.surveyId && other.userId == row.userId) =
        (rows.filter (·.surveyId = row.surveyId)).any fun other => other.id != row.id && other.userId == row.userId := by
    intro rows
    rw [List.any_filter]
    congr 1
    funext other
    by_cases same : other.surveyId = row.surveyId <;> simp [same]
  simp only [surveyResponseConstraints, Database.requireRow, sameSurvey, inSurvey, sameRows]

theorem submit_alike (alike : AlikeToCustomers w w') (sameIds : Published surveyPk w.db → SameStoredIds w.db w'.db answers) :
    outcome (submit py order encryptValue user surveyPk answers) w' =
      outcome (submit py order encryptValue user surveyPk answers) w := by
  apply submit_congr (alike.surveys surveyPk)
  intro survey stored published
  have isPublished : Published surveyPk w.db := ⟨survey, stored, published⟩
  refine ⟨sameIds isPublished, alike.details surveyPk isPublished, alike.nextResponse, ?_⟩
  rw [alike.nextResponse]
  exact @surveyResponseConstraints_alike _ _ alike ⟨w.db.responses.next, surveyPk, user.id⟩ isPublished

/-- A stored response is no part of a survey's structure. -/
theorem sameDetail_submitted (db : Database) (row : SurveyResponse) (prepared : List (Nat × String)) (surveyId : Nat) :
    SameDetail db (bulkCreate row.id prepared { db with responses := db.responses.save row }) surveyId := by
  rw [bulkCreate_eq]
  exact ⟨rfl, fun _ => rfl, fun _ _ _ _ => rfl, fun _ => rfl, fun _ => rfl⟩

/-- The same response is stored in both. -/
theorem AlikeToCustomers.submitted (alike : AlikeToCustomers w w') (row : SurveyResponse)
    (prepared prepared' : List (Nat × String)) : AlikeToCustomers
      (withDb w (bulkCreate row.id prepared { w.db with responses := w.db.responses.save row }))
      (withDb w' (bulkCreate row.id prepared' { w'.db with responses := w'.db.responses.save row })) := by
  have sameSurveys : ∀ (db : Database) (rows : List (Nat × String)),
      (bulkCreate row.id rows { db with responses := db.responses.save row }).surveys = db.surveys := by
    intro db rows
    rw [bulkCreate_eq]
  have sameResponses : ∀ (db : Database) (rows : List (Nat × String)),
      (bulkCreate row.id rows { db with responses := db.responses.save row }).responses = db.responses.save row := by
    intro db rows
    rw [bulkCreate_eq]
  have before : ∀ {id}, Published id (withDb w (bulkCreate row.id prepared
      { w.db with responses := w.db.responses.save row })).db → Published id w.db := by
    intro id published
    simpa only [Published, withDb, sameSurveys] using published
  refine ⟨?_, ?_, ?_, ?_, ?_⟩
  · intro id
    simp only [withDb, sameSurveys]
    exact alike.surveys id
  · intro id published
    have details := alike.details id (before published)
    exact (sameDetail_submitted w.db row prepared id).symm.trans
      (details.trans (sameDetail_submitted w'.db row prepared' id))
  · intro id published i
    simp only [withDb, sameResponses, get_save]
    split
    · rfl
    · exact alike.responses id (before published) i
  · simp only [withDb, sameResponses]
    show max _ _ = max _ _
    rw [alike.nextResponse]
  · intro pk id named published
    exact alike.entries pk id named (before published)

theorem submit_consistent (alike : AlikeToCustomers w w') (sameIds : Published surveyPk w.db → SameStoredIds w.db w'.db answers) :
    AlikeToCustomers (final (submit py order encryptValue user surveyPk answers) w)
      (final (submit py order encryptValue user surveyPk answers) w') := by
  have sameOutcome := @submit_alike py order encryptValue user surveyPk w w' answers alike sameIds
  -- both end the same way
  obtain ⟨exn, ends⟩ | ⟨errors, ends⟩ | ⟨row, _, prepared, inSurvey, _, _, new, submitter, _, _, _, ends⟩ :=
    submit_cases py order encryptValue user surveyPk answers w <;>
  obtain ⟨exn', ends'⟩ | ⟨errors', ends'⟩ | ⟨row', _, prepared', inSurvey', _, _, new', submitter', _, _, _, ends'⟩ :=
    submit_cases py order encryptValue user surveyPk answers w' <;>
  simp only [outcome, final, ends, ends', Except.ok.injEq, reduceCtorEq] at sameOutcome ⊢
  · exact alike
  · exact alike
  · have sameRow : row' = row := by
      obtain ⟨id, surveyId, userId⟩ := row
      obtain ⟨id', surveyId', userId'⟩ := row'
      simp only [SurveyResponse.mk.injEq]
      exact ⟨new'.trans (alike.nextResponse.trans new.symm), inSurvey'.trans inSurvey.symm, submitter'.trans submitter.symm⟩
    subst sameRow
    exact alike.submitted row' prepared prepared'

end Submissions

/-! ## Hidden work -/

/-- The action names no published survey and publishes none. -/
structure Concealed (py : Interpreter) (w : World) (action : ApiCall) : Prop where
  elsewhere : ∀ id, surveyNamed action = some id → ¬ Published id w.db
  publishesNone : ∀ id, Published id (serve py w action).db → Published id w.db

/-- Keys lead to rows, and the rules of published surveys stay in them. -/
structure Regular (w : World) : Prop where
  intact : Intact w.db
  placed : RowsPlaced w.db
  targets : ∀ id, Published id w.db → TargetsPlacedIn w.db id

section Hidden

variable {py : Interpreter} {w : World} {action : ApiCall}

theorem Concealed.elsewhere_of_published (concealed : Concealed py w action) {id : Nat} (published : Published id w.db) :
    Elsewhere id action := by
  rintro call rfl named
  exact concealed.elsewhere id named published

theorem Concealed.isolated (concealed : Concealed py w action) (regular : Regular w) {id : Nat}
    (published : Published id w.db) : SameSurvey w.db (serve py w action).db id := by
  obtain ⟨survey, stored, _⟩ := published
  exact serve_isolated regular.placed (regular.targets id ⟨survey, stored, ‹_›⟩) (lt_next stored)
    (concealed.elsewhere_of_published ⟨survey, stored, ‹_›⟩)

/-- Only a submission takes a number for a response. -/
theorem Served.nextResponse {call : Call} {ends : Option PyExn × World} (served : Served py w call ends)
    (notSubmitted : ∀ surveyPk answers, call.request = .submit surveyPk answers → ¬ Published surveyPk w.db) :
    ends.2.db.responses.next = w.db.responses.next := by
  cases served with
  | submitted customer request isPublished => exact absurd isPublished (notSubmitted _ _ request)
  | _ => rfl

/-- A request clears no entry of another survey. -/
theorem Served.entries {call : Call} {ends : Option PyExn × World} (served : Served py w call ends) {pk : String} {id : Nat}
    (named : lookupKey pk = some id) (elsewhere : surveyInUrl call.request ≠ some id) :
    ends.2.cache (structureKey pk) = w.cache (structureKey pk) := by
  have cleared : ∀ (surveyId : Nat) (db : Database), surveyId ≠ id →
      (refreshed surveyId w db).cache (structureKey pk) = w.cache (structureKey pk) := by
    intro surveyId db other
    refine if_neg fun same => other ?_
    rw [structureKey_injective same, lookupKey_toString, Option.some.injEq] at named
    exact named
  cases served with
  | refused | invalid | surveyCreated | statusWritten | submitted => rfl
  | surveyDeleted admin request stored =>
    refine if_neg fun same => ?_
    rw [structureKey_injective same] at named
    cases named
  | surveyUpdated admin request | sectionCreated admin request | sectionUpdated admin request
  | sectionDeleted admin request | fieldCreated admin request | fieldUpdated admin request | fieldDeleted admin request
  | ruleUpdated admin request | ruleDeleted admin request | dependencyCreated admin request
  | dependencyUpdated admin request | dependencyDeleted admin request =>
    rw [request] at elsewhere
    exact cleared _ _ fun same => elsewhere (congrArg some same)

/-- Work on other surveys changes nothing that customers see. -/
theorem Concealed.alike (concealed : Concealed py w action) (regular : Regular w) :
    AlikeToCustomers w (serve py w action) := by
  refine ⟨?_, fun id published => (concealed.isolated regular published).detail,
    fun id published => (concealed.isolated regular published).responses, ?_, ?_⟩
  · intro id
    by_cases published : Published id w.db
    · rw [(concealed.isolated regular published).detail.survey]
    · have hidden : ∀ db : Database, ¬ Published id db → (db.surveys.get id).filter (·.status = .published) = none := by
        intro db notPublished
        rw [published_iff_filter, not_exists] at notPublished
        exact Option.eq_none_iff_forall_ne_some.mpr notPublished
      rw [hidden _ published, hidden _ fun after => published (concealed.publishesNone id after)]
  · cases action with
    | write call =>
      obtain ⟨_, served⟩ := handle_served py w call
      refine served.nextResponse fun surveyPk answers request => concealed.elsewhere surveyPk ?_
      rw [surveyNamed, request]
      rfl
    | retrieve user pk => rw [serve_retrieve_db]
  · intro pk id named published
    cases action with
    | write call =>
      obtain ⟨_, served⟩ := handle_served py w call
      exact served.entries named (concealed.elsewhere_of_published published call rfl)
    | retrieve user pk' =>
      obtain same | ⟨survey, found, _, stored⟩ := surveyRetrieve_cases user pk' w
      · exact congrFun (congrArg World.cache same) _
      · have otherKey : structureKey pk ≠ structureKey pk' := by
          intro same
          rw [structureKey_injective same] at named
          exact concealed.elsewhere id named published
        exact (congrFun (congrArg World.cache stored) _).trans (Function.update_of_ne otherKey _ _)

theorem TargetsPlacedIn.of_sameDetail {db db' : Database} {surveyId : Nat} (targets : TargetsPlacedIn db surveyId)
    (same : SameDetail db db' surveyId) : TargetsPlacedIn db' surveyId := by
  intro rule member inSurvey id names
  have stored : db.conditionalRules.get rule.id = some rule :=
    (eq_some_iff_of_filter (same.conditionalRules rule.id) (decide_eq_true inSurvey)).mp (mem_rows.mp member)
  obtain ⟨row, found, isIn⟩ := targets rule (mem_rows.mpr stored) inSurvey id names
  exact ⟨row, (same.section_iff isIn).mpr found, isIn⟩

theorem Concealed.regular (concealed : Concealed py w action) (regular : Regular w) : Regular (serve py w action) where
  intact := serve_intact action regular.intact
  placed := serve_placed action regular.intact regular.placed
  targets id after := by
    have published := concealed.publishesNone id after
    exact (regular.targets id published).of_sameDetail (concealed.isolated regular published).detail

end Hidden

/-! ## Both sites -/

section Sites

variable {py : Interpreter} {w w' : World}

/-- A reader's request changes the responses and the cache, as the API's does. -/
theorem regular_serve (call : ReaderCall) (regular : Regular w) : Regular (final (call.procedure py) w) := by
  obtain ⟨user, reading⟩ := call
  cases reading with
  | list asked =>
    have unchanged : final ((⟨user, .list asked⟩ : ReaderCall).procedure py) w = w :=
      final_query_bind_same fun _ => rfl
    rw [unchanged]
    exact regular
  | retrieve pk =>
    have sameWorld : final ((⟨user, .retrieve pk⟩ : ReaderCall).procedure py) w = serve py w (.retrieve user pk) :=
      final_bind_same fun _ _ => rfl
    have sameDb : (final ((⟨user, .retrieve pk⟩ : ReaderCall).procedure py) w).db = w.db := by
      rw [sameWorld, serve_retrieve_db]
    refine ⟨?_, ?_, ?_⟩ <;> rw [sameDb]
    · exact regular.intact
    · exact regular.placed
    · exact regular.targets
  | submit order encryptValue surveyPk answers =>
    have sameWorld : final ((⟨user, .submit order encryptValue surveyPk answers⟩ : ReaderCall).procedure py) w =
        serve py w (.write ⟨user, order, encryptValue, .submit surveyPk answers⟩) :=
      (final_bind_same fun _ _ => rfl).trans (final_bind_same fun _ _ => rfl).symm
    have sameStructure : ∀ id, SameDetail w.db (final (submit py order encryptValue user surveyPk answers) w).db id := by
      intro id
      obtain ⟨exn, ends⟩ | ⟨errors, ends⟩ | ⟨row, _, prepared, _, _, _, _, _, _, _, _, ends⟩ :=
        submit_cases py order encryptValue user surveyPk answers w
      · rw [final_of_error ends]
        exact .refl w.db id
      · rw [final_of_ok ends]
        exact .refl w.db id
      · rw [final_of_ok ends]
        exact sameDetail_submitted w.db row prepared id
    have submitted : serve py w (.write ⟨user, order, encryptValue, .submit surveyPk answers⟩) =
        final (submit py order encryptValue user surveyPk answers) w := final_bind_same fun _ _ => rfl
    rw [sameWorld]
    refine ⟨serve_intact _ regular.intact, serve_placed _ regular.intact regular.placed, fun id after => ?_⟩
    rw [submitted] at after ⊢
    have published : Published id w.db := by
      rwa [Published, (sameStructure id).survey] at after
    exact (regular.targets id published).of_sameDetail (sameStructure id)

theorem readerCall_alike (call : ReaderCall) (alike : AlikeToCustomers w w') (observable : Observable w w' call) :
    outcome (call.procedure py) w' = outcome (call.procedure py) w ∧
      AlikeToCustomers (final (call.procedure py) w) (final (call.procedure py) w') := by
  obtain ⟨user, reading⟩ := call
  cases reading with
  | list asked =>
    have sameRows := visibleSurveys_alike alike observable
    have unchanged : ∀ world, final ((⟨user, .list asked⟩ : ReaderCall).procedure py) world = world :=
      fun world => final_query_bind_same fun _ => rfl
    rw [unchanged, unchanged]
    refine ⟨outcome_bind_pure_congr _ ?_, alike⟩
    rw [surveyList, outcome_query, outcome_query, sameRows]
  | retrieve pk =>
    obtain ⟨answered, after⟩ := surveyRetrieve_alike alike observable
    have dropped : ∀ world, final ((⟨user, .retrieve pk⟩ : ReaderCall).procedure py) world =
        final (surveyRetrieve user pk) world := fun world => final_bind_same fun _ _ => rfl
    rw [dropped, dropped]
    exact ⟨outcome_bind_pure_congr _ answered, after⟩
  | submit order encryptValue surveyPk answers =>
    have dropped : ∀ world, final ((⟨user, .submit order encryptValue surveyPk answers⟩ : ReaderCall).procedure py) world =
        final (submit py order encryptValue user surveyPk answers) world := fun world => final_bind_same fun _ _ => rfl
    rw [dropped, dropped]
    exact ⟨outcome_bind_pure_congr _ (submit_alike alike observable), submit_consistent alike observable⟩

theorem site_unwinds (py : Interpreter) : Unwinds (site py) AlikeToCustomers Regular Observable (Concealed py) where
  symm := AlikeToCustomers.symm
  trans := AlikeToCustomers.trans
  answers alike observable := (readerCall_alike _ alike observable).1
  consistent alike observable := (readerCall_alike _ alike observable).2
  hides regular concealed := concealed.alike regular
  serveRegular call regular := regular_serve call regular
  actRegular regular concealed := concealed.regular regular

end Sites

/-- Two sites that look alike to customers answer them alike, whatever is done on either to
surveys that are not published, as long as none of these is published. -/
theorem customers_answered_alike (py : Interpreter) {w w' : World} (alike : AlikeToCustomers w w') (regular : Regular w)
    (regular' : Regular w') {events : List (TwinEvent ReaderCall ApiCall)}
    (admissible : Along (site py).twin (Admissible Observable (Concealed py)) (w, w') events) :
    Along (site py).twin (AnsweredAlike (site py)) (w, w') events :=
  unwinding (site_unwinds py) alike regular regular' admissible

/-! ## A draft on one of them -/

theorem published_iff_rows {db : Database} {id : Nat} :
    Published id db ↔ id ∈ (db.surveys.rows.filter (·.status = .published)).map Survey.id := by
  simp only [Published, List.mem_map, List.mem_filter, mem_rows, decide_eq_true_eq]
  constructor
  · rintro ⟨survey, stored, published⟩
    have sameKey : survey.id = id := db.surveys.keyed id survey stored
    subst sameKey
    exact ⟨survey, ⟨stored, published⟩, rfl⟩
  · rintro ⟨survey, ⟨stored, published⟩, rfl⟩
    exact ⟨survey, stored, published⟩

theorem regular_publishedWorld : Regular publishedWorld where
  intact := @run_intact bareInterpreter World.empty intact_empty (buildAndPublish.map .write)
  placed := ⟨fun row member => absurd (show row ∈ [] from member) List.not_mem_nil,
    fun row member => absurd (show row ∈ [] from member) List.not_mem_nil,
    fun row member => absurd (show row ∈ [] from member) List.not_mem_nil⟩
  targets _ _ row member := absurd (show row ∈ [] from member) List.not_mem_nil

/-- The administrator of the second site drafts a survey; then a customer of both looks around and submits. -/
def draftedBeside : List (TwinEvent ReaderCall ApiCall) :=
  [.right (.write (adminCall (.createSurvey ⟨.given "Draft", .missing, .missing⟩))),
    .right (.write (adminCall (.createSection 2 ⟨.given "Page", .missing, .missing⟩))),
    .right (.write (adminCall (.createField 2 2 ⟨.given "Name", .given .text, .missing, .missing, .missing, .missing, .missing⟩))),
    .observed ⟨⟨2, .customer⟩, .list ⟨.missing, fun _ _ => true, fun _ _ => true, 1⟩⟩,
    .observed ⟨⟨2, .customer⟩, .retrieve "1"⟩,
    .observed ⟨⟨2, .customer⟩, .submit .ascending prefixToken 1 (.given thrice)⟩]

theorem customers_answered_alike_drafted : Along (site bareInterpreter).twin (AnsweredAlike (site bareInterpreter))
    (publishedWorld, publishedWorld) draftedBeside := by
  apply customers_answered_alike bareInterpreter (.refl publishedWorld) regular_publishedWorld regular_publishedWorld
  refine ⟨⟨?_, ?_⟩, ⟨?_, ?_⟩, ⟨?_, ?_⟩, rfl, Or.inl rfl, ?_, trivial⟩
  · intro id named
    cases named
  · intro id published
    rw [published_iff_rows] at published ⊢
    exact published
  · rintro id ⟨⟩
    rw [published_iff_rows]
    decide +kernel
  · intro id published
    rw [published_iff_rows] at published ⊢
    exact published
  · rintro id ⟨⟩
    rw [published_iff_rows]
    decide +kernel
  · intro id published
    rw [published_iff_rows] at published ⊢
    exact published
  · rintro _ _ ⟨⟩ _
    decide +kernel

end SurveyPlatform.Verified

import SurveyPlatform.Library.Histories
import SurveyPlatform.Verified.Placement

/-! # Requests keep to the survey of their URL

`SameSurvey` is agreement on everything that belongs to one survey: its row, its
structure and rules, its responses and their answers.  Where every row is in its
place, a request leaves all of it alone unless it names that survey
(`Served.isolated`): the cascade of a delete ends at the border of its survey.
`run_isolated` is the same for a whole run.
-/

namespace SurveyPlatform.Verified

open SurveyPlatform.Library SurveyPlatform.Library.Program SurveyPlatform.Library.Table SurveyPlatform.Python
open SurveyPlatform.Surveys SurveyPlatform.Responses

/-- The survey in the URL. -/
def surveyInUrl : Request → Option Nat
  | .createSurvey _ => none
  | .updateSurvey pk _ _ | .destroySurvey pk => some pk
  | .createSection surveyPk _ | .updateSection surveyPk _ _ _ | .destroySection surveyPk _ => some surveyPk
  | .createField surveyPk _ _ | .updateField surveyPk _ _ _ _ | .destroyField surveyPk _ _ => some surveyPk
  | .createConditionalRule surveyPk _ | .updateConditionalRule surveyPk _ _ _
  | .destroyConditionalRule surveyPk _ => some surveyPk
  | .createFieldDependency surveyPk _ | .updateFieldDependency surveyPk _ _ _
  | .destroyFieldDependency surveyPk _ => some surveyPk
  | .submit surveyPk _ => some surveyPk

/-! ## Everything of a survey -/

/-- The two databases agree on the survey, its structure, its responses and their answers. -/
structure SameSurvey (db db' : Database) (surveyId : Nat) : Prop where
  detail : SameDetail db db' surveyId
  responses : ∀ id, (db'.responses.get id).filter (·.surveyId = surveyId) =
    (db.responses.get id).filter (·.surveyId = surveyId)
  answers : ∀ response, db.responses.get response.id = some response → response.surveyId = surveyId → ∀ id,
    (db'.fieldResponses.get id).filter (·.surveyResponseId = response.id) =
      (db.fieldResponses.get id).filter (·.surveyResponseId = response.id)

section Survey

variable {db db' : Database} {surveyId : Nat}

theorem SameSurvey.of_detail (detail : SameDetail db db' surveyId) (responses : db'.responses = db.responses)
    (answers : db'.fieldResponses = db.fieldResponses) : SameSurvey db db' surveyId :=
  ⟨detail, fun _ => by rw [responses], fun _ _ _ _ => by rw [answers]⟩

theorem SameSurvey.refl (db : Database) (surveyId : Nat) : SameSurvey db db surveyId :=
  .of_detail (.refl db surveyId) rfl rfl

theorem SameSurvey.trans {db'' : Database} (first : SameSurvey db db' surveyId) (second : SameSurvey db' db'' surveyId) :
    SameSurvey db db'' surveyId := by
  refine ⟨first.detail.trans second.detail, fun id => (second.responses id).trans (first.responses id), ?_⟩
  intro response stored inSurvey id
  have stored' : db'.responses.get response.id = some response :=
    (eq_some_iff_of_filter (first.responses response.id) (decide_eq_true inSurvey)).mpr stored
  exact (second.answers response stored' inSurvey id).trans (first.answers response stored inSurvey id)

/-! ## Deletes elsewhere -/

/-- The rules of the survey target sections of the survey. -/
def TargetsPlacedIn (db : Database) (surveyId : Nat) : Prop :=
  ∀ rule ∈ db.conditionalRules.rows, rule.surveyId = surveyId → ∀ id, rule.targetSectionId = some id →
    SectionIn db surveyId id

theorem TargetsPlaced.inSurvey (targets : TargetsPlaced db) (surveyId : Nat) : TargetsPlacedIn db surveyId :=
  fun rule member inSurvey id names => inSurvey ▸ targets rule member id names

/-- A delete that takes no section and no field of the survey takes none of its rules. -/
theorem unreferenced_of_placed (placed : RowsPlaced db) (targets : TargetsPlacedIn db surveyId) {goneSection goneField : Nat → Bool}
    (sections : ∀ id, SectionIn db surveyId id → goneSection id = false)
    (fields : ∀ id, FieldIn db surveyId id → goneField id = false) :
    Unreferenced db goneSection goneField surveyId := by
  constructor
  · rintro id rule stored rfl
    have member : rule ∈ db.conditionalRules.rows := mem_rows.mpr (db.conditionalRules.keyed id rule stored ▸ stored)
    have inPlace := placed.rules rule member
    simp only [Bool.or_eq_false_iff, Option.any_eq_false]
    exact ⟨fun target names => by simp [sections target (targets rule member rfl target names)],
      fun target names => by simp [fields target (inPlace.targetField target names)],
      fields _ inPlace.dependsOnField⟩
  · rintro id dep stored rfl
    have member : dep ∈ db.fieldDependencies.rows := mem_rows.mpr (db.fieldDependencies.keyed id dep stored ▸ stored)
    have inPlace := placed.dependencies dep member
    rw [fields _ inPlace.dependentField, fields _ inPlace.dependsOnField, Bool.or_false]

/-- The answers of a response are for fields of its survey. -/
theorem answers_kept (placed : RowsPlaced db) {goneField : Nat → Bool}
    (fields : ∀ id, FieldIn db surveyId id → goneField id = false) {response : SurveyResponse}
    (stored : db.responses.get response.id = some response) (inSurvey : response.surveyId = surveyId) (id : Nat) :
    ((db.fieldResponses.deleteWhere fun row => goneField row.fieldId).get id).filter (·.surveyResponseId = response.id) =
      (db.fieldResponses.get id).filter (·.surveyResponseId = response.id) := by
  apply filter_get_deleteWhere
  intro i row found isAnswer
  have member : row ∈ db.fieldResponses.rows := mem_rows.mpr (db.fieldResponses.keyed i row found ▸ found)
  obtain ⟨other, found', isIn⟩ := placed.answers row member
  rw [of_decide_eq_true isAnswer, stored, Option.some.injEq] at found'
  subst found'
  exact fields _ (inSurvey ▸ isIn)

theorem sameSurvey_deleteFields (placed : RowsPlaced db) (targets : TargetsPlacedIn db surveyId) {gone : Nat → Bool}
    (fields : ∀ id, FieldIn db surveyId id → gone id = false) : SameSurvey db (db.deleteFields gone) surveyId := by
  refine ⟨sameDetail_deleteFields (unreferenced_of_placed placed targets (fun _ _ => rfl) fields) ?_, fun _ => rfl,
    fun response stored inSurvey id => answers_kept placed fields stored inSurvey id⟩
  intro id field stored isGone row found inSurvey
  have sameId : field.id = id := db.fields.keyed id field stored
  have isIn : FieldIn db surveyId field.id :=
    fieldIn_of_fieldRows ⟨sameId ▸ stored, row, found, inSurvey⟩
  rw [fields _ isIn] at isGone
  cases isGone

/-- A field of the survey is in one of its sections. -/
theorem fieldsIn_eq_false {gone : Nat → Bool} (sections : ∀ id, SectionIn db surveyId id → gone id = false) {id : Nat}
    (isIn : FieldIn db surveyId id) : fieldsIn db gone id = false := by
  obtain ⟨field, found, inSurvey⟩ := isIn
  obtain ⟨stored, parent⟩ := Database.placedField_eq_some.mp found
  rw [fieldsIn, stored]
  exact sections _ ⟨_, parent, inSurvey⟩

theorem sameSurvey_deleteSections (placed : RowsPlaced db) (targets : TargetsPlacedIn db surveyId) {gone : Nat → Bool}
    (sections : ∀ id, SectionIn db surveyId id → gone id = false) : SameSurvey db (db.deleteSections gone) surveyId := by
  have fields : ∀ id, FieldIn db surveyId id → fieldsIn db gone id = false := fun _ => fieldsIn_eq_false sections
  refine ⟨sameDetail_deleteSections (unreferenced_of_placed placed targets sections fields) ?_, fun _ => rfl,
    fun response stored inSurvey id => answers_kept placed fields stored inSurvey id⟩
  intro row stored isGone inSurvey
  rw [sections _ ⟨row, stored, inSurvey⟩] at isGone
  cases isGone

theorem sameSurvey_deleteSurvey (placed : RowsPlaced db) (targets : TargetsPlacedIn db surveyId) {gone : Nat} (other : surveyId ≠ gone) :
    SameSurvey db (db.deleteSurvey gone) surveyId := by
  have sections : ∀ id, SectionIn db surveyId id → sectionsIn db gone id = false := by
    intro id isIn
    obtain ⟨row, stored, inSurvey⟩ := isIn
    rw [sectionsIn, stored, Option.any_some, decide_eq_false_iff_not, inSurvey]
    exact other
  have fields : ∀ id, FieldIn db surveyId id → fieldsIn db (sectionsIn db gone) id = false :=
    fun _ => fieldsIn_eq_false sections
  refine ⟨sameDetail_deleteSurvey other (unreferenced_of_placed placed targets sections fields), ?_, ?_⟩
  · apply filter_get_deleteWhere
    intro id row stored inSurvey
    replace stored : db.responses.get id = some row := stored
    have sameKey : row.id = id := db.responses.keyed id row stored
    show (db.responses.get row.id).any (fun row => decide (row.surveyId = gone)) = false
    rw [sameKey, stored, Option.any_some, decide_eq_false_iff_not, of_decide_eq_true inSurvey]
    exact other
  · intro response stored inSurvey id
    -- first the answers to deleted fields go, then those of deleted responses
    refine Eq.trans (filter_get_deleteWhere ?_ id) (answers_kept placed fields stored inSurvey id)
    intro i row _ isAnswer
    show (db.responses.get row.surveyResponseId).any (fun row => decide (row.surveyId = gone)) = false
    rw [of_decide_eq_true isAnswer, stored, Option.any_some, decide_eq_false_iff_not, inSurvey]
    exact other

end Survey

/-! ## Requests elsewhere -/

section Requests

variable {py : Interpreter} {w : World} {call : Call} {surveyId : Nat}

/-- A row saved over one of another survey. -/
theorem filter_get_save_elsewhere {α : Type} [Keyed α] {t : Table α} {new old : α} {column : α → Nat}
    (stored : t.get (key new) = some old) (elsewhere : column old ≠ surveyId) (elsewhere' : column new ≠ surveyId) (id : Nat) :
    ((t.save new).get id).filter (fun row => decide (column row = surveyId)) =
      (t.get id).filter (fun row => decide (column row = surveyId)) := by
  refine @filter_get_save _ _ t (fun row => decide (column row = surveyId)) new (decide_eq_false elsewhere') ?_ id
  intro other found
  rw [eq_of_get stored found]
  exact decide_eq_false elsewhere

/-- A submission leaves the answers of stored responses alone. -/
theorem filter_answers_bulkCreate {db : Database} {row response : SurveyResponse} {prepared : List (Nat × String)}
    (fresh : db.responses.get row.id = none) (stored : db.responses.get response.id = some response) (id : Nat) :
    ((bulkCreate row.id prepared { db with responses := db.responses.save row }).fieldResponses.get id).filter
      (·.surveyResponseId = response.id) = (db.fieldResponses.get id).filter (·.surveyResponseId = response.id) := by
  rw [bulkCreate_eq]
  apply filter_get_saveAll
  -- the new answers are those of the new response
  · intro answer new
    rw [(mem_numberRows new).1, decide_eq_false_iff_not]
    intro same
    rw [same, stored] at fresh
    cases fresh
  -- and under new numbers
  · intro answer new old found
    have above := (mem_numberRows new).2.1
    rw [key_fieldResponse, db.fieldResponses.fresh _ above] at found
    cases found

theorem ne_of_elsewhere {request : Request} {pk : Nat} (elsewhere : surveyInUrl call.request ≠ some surveyId)
    (isRequest : call.request = request) (named : surveyInUrl request = some pk) : pk ≠ surveyId := by
  rintro rfl
  exact elsewhere (isRequest ▸ named)

section Kinds

variable {db : Database}

theorem sameSurvey_deleteSection (placed : RowsPlaced db) (targets : TargetsPlacedIn db surveyId) {row : Section}
    (stored : db.sections.get row.id = some row) (other : row.surveyId ≠ surveyId) :
    SameSurvey db (db.deleteSections (· == row.id)) surveyId := by
  apply sameSurvey_deleteSections placed targets
  rintro id ⟨found, isFound, inSurvey⟩
  rw [beq_eq_false_iff_ne]
  rintro rfl
  rw [eq_of_get stored isFound] at inSurvey
  exact other inSurvey

theorem sameSurvey_fieldSave {row : PlacedField} (data : FieldData) (stored : db.placedField row.id = some row)
    (other : row.surveyId ≠ surveyId) :
    SameSurvey db { db with fields := db.fields.save (data.assign row.toField) } surveyId := by
  obtain ⟨storedField, parent⟩ := Database.placedField_eq_some.mp stored
  refine .of_detail (.of_fields fun found isFound inSurvey id => ?_) rfl rfl
  -- an update leaves the field in its section
  have notHere : row.sectionId ≠ found.id := by
    intro same
    rw [← same] at isFound
    rw [eq_of_get parent isFound] at inSurvey
    exact other inSurvey
  exact @filter_get_save_elsewhere _ _ _ _ (data.assign row.toField) _ _ storedField notHere notHere id

theorem sameSurvey_deleteField (placed : RowsPlaced db) (targets : TargetsPlacedIn db surveyId) {row : PlacedField}
    (stored : db.placedField row.id = some row) (other : row.surveyId ≠ surveyId) :
    SameSurvey db (db.deleteFields (· == row.id)) surveyId := by
  apply sameSurvey_deleteFields placed targets
  rintro id ⟨found, isFound, inSurvey⟩
  rw [beq_eq_false_iff_ne]
  rintro rfl
  cases stored.symm.trans isFound
  exact other inSurvey

theorem sameSurvey_submitted {row : SurveyResponse} {prepared : List (Nat × String)} (new : row.id = db.responses.next)
    (other : row.surveyId ≠ surveyId) :
    SameSurvey db (bulkCreate row.id prepared { db with responses := db.responses.save row }) surveyId := by
  have fresh : db.responses.get row.id = none := new ▸ get_next db.responses
  refine ⟨⟨rfl, fun _ => rfl, fun _ _ _ _ => rfl, fun _ => rfl, fun _ => rfl⟩, ?_, ?_⟩
  · refine @filter_get_save _ _ db.responses (fun row => decide (row.surveyId = surveyId)) row (decide_eq_false other) ?_
    intro old stored
    cases fresh.symm.trans stored
  · exact fun response stored _ => filter_answers_bulkCreate fresh stored

end Kinds

/-- A request leaves every survey but the one it names as it was. -/
theorem Served.isolated {ends : Option PyExn × World} (served : Served py w call ends) (placed : RowsPlaced w.db)
    (targets : TargetsPlacedIn w.db surveyId) (known : surveyId < w.db.surveys.next)
    (elsewhere : surveyInUrl call.request ≠ some surveyId) : SameSurvey w.db ends.2.db surveyId := by
  cases served with
  | refused => exact .refl w.db surveyId
  | invalid => exact .refl w.db surveyId
  | surveyCreated =>
    refine .of_detail (.of_surveys ?_) rfl rfl
    rw [get_insert, if_neg (Nat.ne_of_lt known)]
  | statusWritten exn admin request refused stored writes =>
    have other := ne_of_elsewhere elsewhere request rfl
    refine .of_detail (.of_surveys ?_) rfl rfl
    rw [get_modify, if_neg other.symm]
  | surveyUpdated admin request valid stored accepted =>
    have other := ne_of_elsewhere elsewhere request rfl
    refine .of_detail (.of_surveys ?_) rfl rfl
    rw [get_save]
    exact if_neg other.symm
  | surveyDeleted admin request stored =>
    exact sameSurvey_deleteSurvey placed targets (ne_of_elsewhere elsewhere request rfl).symm
  | sectionCreated admin request draft numbered checked =>
    exact .of_detail (sameDetail_sectionInsert (ne_of_elsewhere elsewhere request rfl)) rfl rfl
  | sectionUpdated admin request validated stored draft checked revalidated =>
    have other := ne_of_elsewhere elsewhere request rfl
    exact .of_detail (.of_sections (filter_get_save_elsewhere stored other other)) rfl rfl
  | sectionDeleted admin request stored draft =>
    exact sameSurvey_deleteSection placed targets stored (ne_of_elsewhere elsewhere request rfl)
  | fieldCreated admin request inSection stored draft numbered checked =>
    rw [← inSection] at stored
    exact .of_detail (sameDetail_fieldInsert (forall_of_get stored (ne_of_elsewhere elsewhere request rfl))) rfl rfl
  | fieldUpdated admin request validated stored draft checked revalidated =>
    exact sameSurvey_fieldSave _ stored (ne_of_elsewhere elsewhere request rfl)
  | fieldDeleted admin request stored draft =>
    exact sameSurvey_deleteField placed targets stored (ne_of_elsewhere elsewhere request rfl)
  | ruleUpdated admin request fields accepted checkable stored draft checked =>
    have other := ne_of_elsewhere elsewhere request rfl
    exact .of_detail (.of_conditionalRules (filter_get_save_elsewhere stored other other)) rfl rfl
  | ruleDeleted admin request stored draft =>
    exact .of_detail (sameDetail_ruleDelete (forall_of_get stored (ne_of_elsewhere elsewhere request rfl))) rfl rfl
  | dependencyCreated admin request fields accepted checkable draft made checked =>
    refine .of_detail (sameDetail_dependencyInsert ?_) rfl rfl
    rw [made]
    exact ne_of_elsewhere elsewhere request rfl
  | dependencyUpdated admin request fields accepted checkable stored draft checked =>
    have other := ne_of_elsewhere elsewhere request rfl
    exact .of_detail (.of_fieldDependencies (filter_get_save_elsewhere stored other other)) rfl rfl
  | dependencyDeleted admin request stored draft =>
    exact .of_detail (sameDetail_dependencyDelete (forall_of_get stored (ne_of_elsewhere elsewhere request rfl))) rfl rfl
  | submitted customer request isPublished new submitter checked accepted ready =>
    exact sameSurvey_submitted new (ne_of_elsewhere elsewhere request rfl)

/-- The call does not name the survey in its URL. -/
def Elsewhere (surveyId : Nat) (action : ApiCall) : Prop :=
  ∀ call, action = .write call → surveyInUrl call.request ≠ some surveyId

theorem serve_isolated {action : ApiCall} (placed : RowsPlaced w.db) (targets : TargetsPlacedIn w.db surveyId)
    (known : surveyId < w.db.surveys.next) (elsewhere : Elsewhere surveyId action) :
    SameSurvey w.db (serve py w action).db surveyId := by
  cases action with
  | write call =>
    obtain ⟨_, ends⟩ := handle_served py w call
    exact ends.isolated placed targets known (elsewhere call rfl)
  | retrieve user pk =>
    rw [serve_retrieve_db]
    exact .refl w.db surveyId

/-- A part of a run that never names a survey leaves all of it as it is, provided that
no rule of another survey was given one of its sections as target. -/
theorem run_isolated (py : Interpreter) (start : InPlace w.db) (earlier later : List ApiCall) (surveyId : Nat)
    (named : Along (serve py) (NamesOwnSection py) w (earlier ++ later))
    (known : surveyId < (run (serve py) w earlier).db.surveys.next)
    (elsewhere : ∀ action ∈ later, Elsewhere surveyId action) :
    SameSurvey (run (serve py) w earlier).db (run (serve py) w (earlier ++ later)).db surveyId := by
  rw [along_append] at named
  obtain ⟨named, namedLater⟩ := named
  have kept : ∀ (state : World) (action : ApiCall), NamesOwnSection py state action → InPlace state.db →
      InPlace (serve py state action).db := fun _ _ => serve_inPlace
  have inPlace : InPlace (run (serve py) w earlier).db := named.trace_invariant kept start _ (run_mem_trace _ _)
  rw [run_append]
  clear start named
  generalize run (serve py) w earlier = w at known namedLater inPlace ⊢
  induction later generalizing w with
  | nil => exact .refl w.db surveyId
  | cons action rest inductionHypothesis =>
    obtain ⟨now, after⟩ := List.forall_mem_cons.mp elsewhere
    have first : SameSurvey w.db (serve py w action).db surveyId :=
      serve_isolated inPlace.placed (inPlace.targets.inSurvey surveyId) known now
    exact first.trans (inductionHypothesis after _ (Nat.lt_of_lt_of_le known (serve_surveys_next action))
      namedLater.2 (serve_inPlace namedLater.1 inPlace))

/-- A second survey is built and deleted next to a draft, whose rule has got its second section as target. -/
theorem run_isolated_second : SameSurvey
    (run (serve bareInterpreter) draftWorld [targetSectionCall 2]).db
    (run (serve bareInterpreter) draftWorld ([targetSectionCall 2] ++
      [.write (adminCall (.createSurvey ⟨.given "Fitness", .missing, .missing⟩)),
        .write (adminCall (.createSection 2 ⟨.given "Sports", .missing, .missing⟩)),
        .write (adminCall (.destroySurvey 2))])).db 1 := by
  have noUpdate : ∀ request : Request, (∀ surveyPk pk isPartial body,
      request ≠ .updateConditionalRule surveyPk pk isPartial body) → ∀ w, NamesOwnSection bareInterpreter w
        (.write (adminCall request)) := by
    intro request other w call surveyPk pk isPartial body id isCall isUpdate
    cases isCall
    exact absurd isUpdate (other surveyPk pk isPartial body)
  have own : NamesOwnSection bareInterpreter draftWorld (targetSectionCall 2) := by
    intro call surveyPk pk isPartial body id isCall isUpdate _ names _
    cases isCall
    cases isUpdate
    cases names
    exact ⟨_, rfl, rfl⟩
  apply run_isolated bareInterpreter inPlace_draftDatabase
  · refine ⟨own, noUpdate _ ?_ _, noUpdate _ ?_ _, noUpdate _ ?_ _, trivial⟩ <;>
      intro _ _ _ _ same <;> cases same
  · decide
  · intro action member call isCall
    simp only [List.mem_cons, List.not_mem_nil, or_false] at member
    obtain rfl | rfl | rfl := member <;> cases isCall <;> simp [adminCall, surveyInUrl]

end Requests

end SurveyPlatform.Verified

import SurveyPlatform.Library.Histories
import SurveyPlatform.Library.Sorting
import SurveyPlatform.Responses.Listings
import SurveyPlatform.Verified.AnswerDurability
import SurveyPlatform.Verified.Integrity

/-! # The list of responses is the record of accepted submissions

`acceptedBy` is what a request adds to the record: a submission that is answered
201 its response, any other request nothing.  After every run of the API the
responses of a stored survey are those, in order (`responsesOf_run`), and the
pages of the list view show each of them once, newest first (`pages_show_accepted`).
Pages that are read while submissions come in may repeat a response, but miss
none (`readThrough_complete`).
-/

namespace SurveyPlatform.Verified

open SurveyPlatform.Library SurveyPlatform.Library.Program SurveyPlatform.Library.Table SurveyPlatform.Python
open SurveyPlatform.Surveys SurveyPlatform.Responses

/-! ## The record -/

/-- The response of a submission that is answered 201. -/
def acceptedBy (py : Interpreter) (w : World) : ApiCall → List SurveyResponse
  | .write ⟨user, order, encryptValue, .submit surveyPk answers⟩ =>
    match outcome (submit py order encryptValue user surveyPk answers) w with
    | .ok (.created id) => [⟨id, surveyPk, user.id⟩]
    | _ => []
  | _ => []

section Record

variable {py : Interpreter} {w : World} {call : Call} {surveyId : Nat}

/-- Only the delete of its survey takes a response away. -/
theorem Served.responsesOf {ends : Option PyExn × World} (served : Served py w call ends)
    (noSubmission : ∀ surveyPk answers, call.request ≠ .submit surveyPk answers)
    (stored : (ends.2.db.surveys.get surveyId).isSome = true) : responsesOf ends.2.db surveyId = responsesOf w.db surveyId := by
  cases served with
  | surveyDeleted admin request found =>
    rename_i survey
    have other : survey.id ≠ surveyId := by
      intro same
      obtain ⟨row, stored⟩ := Option.isSome_iff_exists.mp stored
      replace stored : (w.db.surveys.deleteWhere fun row => decide (row.id = survey.id)).get surveyId = some row := stored
      have sameKey : row.id = surveyId := Table.keyed _ surveyId row stored
      have isGone : decide (row.id = survey.id) = true := decide_eq_true (sameKey.trans same.symm)
      exact @not_get_deleteWhere _ _ _ (fun row : Survey => decide (row.id = survey.id)) _ _ isGone stored
    apply filter_rows_congr
    apply filter_get_deleteWhere
    intro i row stored inSurvey
    replace stored : w.db.responses.get i = some row := stored
    have sameKey : row.id = i := w.db.responses.keyed i row stored
    show (w.db.responses.get row.id).any (fun row => decide (row.surveyId = survey.id)) = false
    rw [sameKey, stored, Option.any_some, decide_eq_false_iff_not, of_decide_eq_true inSurvey]
    exact other.symm
  | submitted customer request => exact absurd request (noSubmission _ _)
  | _ => rfl

/-- A request adds to the responses of a survey what it is said to have accepted. -/
theorem responsesOf_serve (action : ApiCall) (stored : ((serve py w action).db.surveys.get surveyId).isSome = true) :
    responsesOf (serve py w action).db surveyId =
      responsesOf w.db surveyId ++ (acceptedBy py w action).filter (·.surveyId = surveyId) := by
  cases action with
  | retrieve user pk =>
    rw [serve_retrieve_db]
    exact (List.append_nil _).symm
  | write call =>
    obtain ⟨user, order, encryptValue, request⟩ := call
    cases request with
    | submit surveyPk answers =>
      have left : ∀ {a t}, submit py order encryptValue user surveyPk answers w = .ok a t →
          serve py w (.write ⟨user, order, encryptValue, .submit surveyPk answers⟩) = t :=
        fun returned => final_of_ok (bind_eq_ok_iff.mpr ⟨_, _, returned, rfl⟩)
      obtain ⟨exn, ends⟩ | ⟨errors, ends⟩ | ⟨row, cleaned, prepared, rfl, _, _, new, submitter, _, _, _, ends⟩ :=
        submit_cases py order encryptValue user surveyPk answers w
      · have same : serve py w (.write ⟨user, order, encryptValue, .submit surveyPk answers⟩) = w :=
          final_of_error (bind_of_error ends)
        rw [same, acceptedBy, outcome_of_error ends]
        exact (List.append_nil _).symm
      · rw [left ends, acceptedBy, outcome_of_ok ends]
        exact (List.append_nil _).symm
      · rw [left ends, acceptedBy, outcome_of_ok ends]
        dsimp only
        have isRow : (⟨row.id, row.surveyId, user.id⟩ : SurveyResponse) = row := by rw [← submitter]
        rw [isRow]
        show (w.db.responses.save row).rows.filter _ = _
        rw [rows_save_next new, List.filter_append]
        rfl
    | _ =>
      obtain ⟨_, ends⟩ := handle_served py w ⟨user, order, encryptValue, _⟩
      have unchanged := ends.responsesOf (fun _ _ isSubmit => by cases isSubmit) stored
      exact unchanged.trans (List.append_nil _).symm

/-- What is accepted is for a stored survey. -/
theorem survey_of_acceptedBy {action : ApiCall} {row : SurveyResponse} (member : row ∈ acceptedBy py w action) :
    (w.db.surveys.get row.surveyId).isSome = true := by
  cases action with
  | retrieve user pk => cases member
  | write call =>
    obtain ⟨user, order, encryptValue, request⟩ := call
    cases request with
    | submit surveyPk answers =>
      rw [acceptedBy, outcome] at member
      cases result : submit py order encryptValue user surveyPk answers w with
      | error exn t =>
        rw [result] at member
        cases member
      | ok response t =>
        rw [result] at member
        cases response with
        | errors messages => cases member
        | created id =>
          obtain ⟨_, survey, _, _, stored, _⟩ := submit_created result
          obtain rfl := List.mem_singleton.mp member
          exact Option.isSome_iff_exists.mpr ⟨survey, stored⟩
    | _ => cases member

theorem responsesOf_of_missing (intact : Intact w.db) (missing : w.db.surveys.get surveyId = none) :
    responsesOf w.db surveyId = [] := by
  rw [responsesOf, List.filter_eq_nil_iff]
  intro row member inSurvey
  have stored := intact.responseSurvey row member row.surveyId rfl
  rw [of_decide_eq_true inSurvey, missing] at stored
  cases stored

/-- A survey that is gone does not come back. -/
theorem run_gone {calls : List ApiCall} (known : surveyId < w.db.surveys.next) (gone : w.db.surveys.get surveyId = none) :
    (run (serve py) w calls).db.surveys.get surveyId = none := by
  have kept : ∀ (state : World) (action : ApiCall),
      surveyId < state.db.surveys.next ∧ state.db.surveys.get surveyId = none →
        surveyId < (serve py state action).db.surveys.next ∧ (serve py state action).db.surveys.get surveyId = none :=
    fun state action before => ⟨Nat.lt_of_lt_of_le before.1 (serve_surveys_next action), serve_gone action before.1 before.2⟩
  exact (run_invariant kept ⟨known, gone⟩ calls).2

/-- After a run the responses of a stored survey are those it had, and those accepted since. -/
theorem responsesOf_run (intact : Intact w.db) {calls : List ApiCall}
    (stored : ((run (serve py) w calls).db.surveys.get surveyId).isSome = true) :
    responsesOf (run (serve py) w calls).db surveyId =
      responsesOf w.db surveyId ++ (emitted (serve py) (acceptedBy py) w calls).filter (·.surveyId = surveyId) := by
  induction calls generalizing w with
  | nil => exact (List.append_nil _).symm
  | cons action rest inductionHypothesis =>
    have first : responsesOf (serve py w action).db surveyId =
        responsesOf w.db surveyId ++ (acceptedBy py w action).filter (·.surveyId = surveyId) := by
      by_cases present : ((serve py w action).db.surveys.get surveyId).isSome = true
      · exact responsesOf_serve action present
      · -- the survey is still to be created
        have missing : (serve py w action).db.surveys.get surveyId = none := by simpa using present
        have unknown : ¬ surveyId < (serve py w action).db.surveys.next := by
          intro known
          rw [run_cons, run_gone known missing] at stored
          cases stored
        have missing' : w.db.surveys.get surveyId = none :=
          w.db.surveys.fresh surveyId (Nat.le_trans (serve_surveys_next action) (Nat.le_of_not_lt unknown))
        rw [responsesOf_of_missing (serve_intact action intact) missing, responsesOf_of_missing intact missing']
        symm
        rw [List.nil_append, List.filter_eq_nil_iff]
        intro row member inSurvey
        have found := survey_of_acceptedBy member
        rw [of_decide_eq_true inSurvey, missing'] at found
        cases found
    rw [run_cons, inductionHypothesis (serve_intact action intact) stored, first, emitted, List.filter_append,
      List.append_assoc]

end Record

/-! ## The list view -/

section Listings

variable {py : Interpreter} {w : World} {submittedAt : SurveyResponse → Nat} {viewer : User} {surveyPk : Nat}

/-- The clock of `auto_now_add` has moved on between any two responses. -/
def ClockAdvances (submittedAt : SurveyResponse → Nat) : Prop := ∀ a b, a.id < b.id → submittedAt a < submittedAt b

/-- Newest first is the reverse of the order of creation. -/
theorem responsesNewestFirst_eq (advances : ClockAdvances submittedAt) (db : Database) (surveyPk : Nat) :
    responsesNewestFirst submittedAt db surveyPk = (responsesOf db surveyPk).reverse := by
  have created : (responsesOf db surveyPk).Pairwise fun a b => a.id < b.id := (pairwise_rows db.responses).filter _
  have same : (responsesNewestFirst submittedAt db surveyPk).Perm (responsesOf db surveyPk).reverse :=
    (List.mergeSort_perm _ _).trans (List.reverse_perm _).symm
  have ranked := ranking_key submittedAt
  have sorted : (responsesNewestFirst submittedAt db surveyPk).Pairwise fun a b => submittedAt b ≤ submittedAt a :=
    (List.pairwise_mergeSort (fun a b c first second => ranked.trans c b a second first) (fun a b => ranked.total b a)
      _).imp of_decide_eq_true
  have sorted' : (responsesOf db surveyPk).reverse.Pairwise fun a b => submittedAt b ≤ submittedAt a :=
    List.pairwise_reverse.mpr (created.imp fun before => Nat.le_of_lt (advances _ _ before))
  apply same.eq_of_pairwise _ sorted sorted'
  -- no two responses have the same time
  intro a b member member' notLater notEarlier
  have stored : a ∈ db.responses.rows := List.mem_of_mem_filter (List.mem_mergeSort.mp member)
  have stored' : b ∈ db.responses.rows := List.mem_of_mem_filter (List.mem_reverse.mp member')
  have sameId : a.id = b.id := by
    by_contra different
    cases Nat.lt_or_gt_of_ne different with
    | inl before => exact absurd (advances a b before) (by omega)
    | inr after => exact absurd (advances b a after) (by omega)
  rw [mem_rows, key_surveyResponse, sameId] at stored
  exact eq_of_get (mem_rows.mp stored') stored

/-- In every run, the pages of the list view hold the accepted submissions of a stored
survey, newest first and each of them once. -/
theorem pages_show_accepted (py : Interpreter) (calls : List ApiCall) (advances : ClockAdvances submittedAt)
    (mayView : viewer.role ≠ .customer)
    (stored : ((run (serve py) World.empty calls).db.surveys.get surveyPk).isSome = true) :
    ∃ pages : List ResponsePage,
      (∀ i answer, pages[i]? = some answer → surveyResponseList submittedAt viewer surveyPk (i + 1)
        (run (serve py) World.empty calls) = .ok answer (run (serve py) World.empty calls) ∧
          (answer.next = none ↔ i + 1 = pages.length)) ∧
      (pages.map Page.results).flatten =
        (((emitted (serve py) (acceptedBy py) World.empty calls).filter (·.surveyId = surveyPk)).map
          (summary submittedAt)).reverse := by
  let w := run (serve py) World.empty calls
  let rows := (responsesNewestFirst submittedAt w.db surveyPk).map (summary submittedAt)
  let pageAt : Nat → ResponsePage := fun i => ⟨rows.length, if i + 1 < numPages pageSize rows.length then some (i + 2) else none,
    if 1 < i + 1 then some i else none, page pageSize i rows⟩
  refine ⟨(List.range (numPages pageSize rows.length)).map pageAt, ?_, ?_⟩
  · intro i answer isPage
    rw [List.getElem?_map, Option.map_eq_some_iff] at isPage
    obtain ⟨_, inRange, rfl⟩ := isPage
    obtain ⟨below, rfl⟩ := List.getElem?_eq_some_iff.mp inRange
    rw [List.length_range] at below
    rw [List.getElem_range, List.length_map, List.length_range]
    refine ⟨surveyResponseList_eq_ok.mpr ⟨mayView, stored, paginate_eq_ok.mpr ⟨⟨by omega, below⟩, rfl⟩, rfl⟩, ?_⟩
    show (if i + 1 < numPages pageSize rows.length then some (i + 2) else none) = none ↔ _
    split
    · simp only [reduceCtorEq, false_iff]
      omega
    · simp only [true_iff]
      omega
  · rw [List.map_map]
    refine (@flatten_pages _ pageSize (by decide) rows).trans ?_
    show (responsesNewestFirst submittedAt w.db surveyPk).map _ = _
    rw [responsesNewestFirst_eq advances, responsesOf_run intact_empty stored, List.map_reverse]
    rfl

/-- The one submission of this run is the one row of the only page. -/
theorem pages_show_accepted_single :
    ∃ pages : List ResponsePage,
      (∀ i answer, pages[i]? = some answer → surveyResponseList SurveyResponse.id administrator 1 (i + 1)
        (run (serve bareInterpreter) World.empty ((buildAndPublish ++ [customerCall]).map .write)) =
          .ok answer (run (serve bareInterpreter) World.empty ((buildAndPublish ++ [customerCall]).map .write)) ∧
        (answer.next = none ↔ i + 1 = pages.length)) ∧
      (pages.map Page.results).flatten = [⟨1, 1, 2, 1⟩] := by
  obtain ⟨pages, shown, whole⟩ := @pages_show_accepted SurveyResponse.id administrator 1 bareInterpreter
    ((buildAndPublish ++ [customerCall]).map .write) (fun _ _ before => before) (by decide) (by decide +kernel)
  refine ⟨pages, shown, whole.trans ?_⟩
  decide +kernel

/-! ## Pages read while submissions come in -/

variable (py submittedAt viewer surveyPk) in
/-- One page after the other, with other requests before each. -/
def readThrough : World → Nat → List (List ApiCall) → List (Except PyExn ResponsePage)
  | _, _, [] => []
  | w, number, calls :: rest =>
    outcome (surveyResponseList submittedAt viewer surveyPk number) (run (serve py) w calls) ::
      readThrough (run (serve py) w calls) (number + 1) rest

/-- The list only grows at its front. -/
theorem summaries_suffix (advances : ClockAdvances submittedAt) (intact : Intact w.db) {calls : List ApiCall}
    (stored : ((run (serve py) w calls).db.surveys.get surveyPk).isSome = true) :
    (responsesNewestFirst submittedAt w.db surveyPk).map (summary submittedAt) <:+
      (responsesNewestFirst submittedAt (run (serve py) w calls).db surveyPk).map (summary submittedAt) := by
  apply List.IsSuffix.map
  rw [responsesNewestFirst_eq advances, responsesNewestFirst_eq advances, responsesOf_run intact stored,
    List.reverse_append]
  exact List.suffix_append _ _

/-- A response that is not on the pages read so far is on a later one. -/
theorem mem_readThrough (advances : ClockAdvances submittedAt) {index : Nat} {requests : List (List ApiCall)}
    {pages : List ResponsePage} (intact : Intact w.db)
    (answered : readThrough py submittedAt viewer surveyPk w (index + 1) requests = pages.map Except.ok)
    (some_ : pages ≠ []) (done : (pages.getLast some_).next = none) {row : SurveyResponseSummary}
    (behind : row ∈ ((responsesNewestFirst submittedAt w.db surveyPk).map (summary submittedAt)).drop (pageSize * index)) :
    ∃ page ∈ pages, row ∈ page.results := by
  induction requests generalizing w index pages with
  | nil => exact absurd (List.map_eq_nil_iff.mp answered.symm) some_
  | cons calls rest inductionHypothesis =>
    cases pages with
    | nil => exact absurd rfl some_
    | cons first later =>
      rw [readThrough, List.map_cons, List.cons.injEq] at answered
      obtain ⟨read, answered⟩ := answered
      obtain ⟨_, returned⟩ := outcome_eq_ok read
      obtain ⟨_, stored, paginated, _⟩ := surveyResponseList_eq_ok.mp returned
      obtain ⟨_, rfl⟩ := paginate_eq_ok.mp paginated
      have stillBehind := mem_drop_of_suffix (summaries_suffix advances intact stored) behind
      cases mem_page_or_mem_drop stillBehind with
      | inl onPage => exact ⟨_, List.mem_cons_self, onPage⟩
      | inr onLater =>
        cases later with
        | nil =>
          -- the page without a next one was the last
          have last : numPages pageSize ((responsesNewestFirst submittedAt (run (serve py) w calls).db surveyPk).map
              (summary submittedAt)).length ≤ index + 1 := by
            by_contra more
            have another : (if index + 1 < numPages pageSize _ then some (index + 2) else none) = none := done
            rw [if_pos (Nat.lt_of_not_le more)] at another
            cases another
          rw [List.drop_of_length_le (Nat.le_trans (count_le_pages (by decide) _) (Nat.mul_le_mul_left pageSize last))]
            at onLater
          cases onLater
        | cons second later =>
          obtain ⟨page, member, found⟩ := inductionHypothesis (run_intact intact calls) answered
            (List.cons_ne_nil _ _) (by rwa [List.getLast_cons_cons] at done) onLater
          exact ⟨page, List.mem_cons_of_mem _ member, found⟩

/-- Whoever reads the pages in turn until there is no next one has seen every response
that was stored at the start, whatever else was submitted or edited meanwhile. -/
theorem readThrough_complete (advances : ClockAdvances submittedAt) (intact : Intact w.db) {requests : List (List ApiCall)}
    {pages : List ResponsePage} (answered : readThrough py submittedAt viewer surveyPk w 1 requests = pages.map Except.ok)
    (some_ : pages ≠ []) (done : (pages.getLast some_).next = none) {response : SurveyResponse}
    (stored : response ∈ responsesOf w.db surveyPk) : ∃ page ∈ pages, summary submittedAt response ∈ page.results := by
  apply @mem_readThrough _ _ _ _ _ advances 0 _ _ intact answered some_ done
  rw [Nat.mul_zero, List.drop_zero, responsesNewestFirst_eq advances]
  exact List.mem_map_of_mem (List.mem_reverse.mpr stored)

/-- A second submission comes in before the first page is read. -/
theorem readThrough_complete_single :
    ∃ page ∈ [(⟨2, none, none, [⟨2, 1, 3, 2⟩, ⟨1, 1, 2, 1⟩]⟩ : ResponsePage)],
      summary SurveyResponse.id ⟨1, 1, 2⟩ ∈ page.results := by
  let before := run (serve bareInterpreter) World.empty ((buildAndPublish ++ [customerCall]).map .write)
  let another : List ApiCall := [.write { customerCall with user := ⟨3, .customer⟩ }]
  have newestFirst := responsesNewestFirst_eq (fun _ _ before => before : ClockAdvances SurveyResponse.id)
    (run (serve bareInterpreter) before another).db 1
  have stored : responsesOf (run (serve bareInterpreter) before another).db 1 = [⟨1, 1, 2⟩, ⟨2, 1, 3⟩] := by decide +kernel
  have read : surveyResponseList SurveyResponse.id administrator 1 1 (run (serve bareInterpreter) before another) =
      .ok ⟨2, none, none, [⟨2, 1, 3, 2⟩, ⟨1, 1, 2, 1⟩]⟩ (run (serve bareInterpreter) before another) := by
    refine surveyResponseList_eq_ok.mpr ⟨by decide, by decide +kernel, ?_, rfl⟩
    rw [newestFirst, stored]
    decide
  have answered : readThrough bareInterpreter SurveyResponse.id administrator 1 before 1 [another] =
      [(⟨2, none, none, [⟨2, 1, 3, 2⟩, ⟨1, 1, 2, 1⟩]⟩ : ResponsePage)].map Except.ok :=
    congrArg (· :: []) (outcome_of_ok read)
  exact readThrough_complete (fun _ _ before => before) (run_intact intact_empty _) answered (List.cons_ne_nil _ _) rfl
    (by decide +kernel)

end Listings

end SurveyPlatform.Verified

import SurveyPlatform.Verified.AdminPages
import SurveyPlatform.Verified.ResponseConformance

/-! # Deletions in the admin site

A delete page of the admin site leaves the rows that an administrator's `DELETE` to
the API leaves (`deletePage_follows`), so all that is kept by requests is kept by
these pages as well: in runs of both, rows stay in place, responses conform, and
what has left draft is frozen until its survey is deleted (`deletions_keep`).
-/

namespace SurveyPlatform.Verified

open SurveyPlatform.Library SurveyPlatform.Library.Program SurveyPlatform.Library.Table SurveyPlatform.Python
open SurveyPlatform.Surveys SurveyPlatform.Responses

/-- A request that only deletes. -/
def OnlyDeletes : Request → Prop
  | .destroySurvey _ | .destroySection _ _ | .destroyField _ _ _ | .destroyConditionalRule _ _
  | .destroyFieldDependency _ _ => True
  | _ => False

/-- The rows of `w'` are those that a request to delete leaves. -/
def FollowsDeletion (py : Interpreter) (w w' : World) : Prop :=
  ∃ call ends, OnlyDeletes call.request ∧ Served py w call ends ∧ Change w call ends.2 ∧ ends.2.db = w'.db

/-! ## Pages -/

section Pages

variable {α : Type} {py : Interpreter} {w : World} {surveyId : Nat} {delete : Database → Database} {obj : α}
  {find : Database → Option α} {permsNeeded : α → Database → Bool} {deleteModel : α → Procedure (Reply Unit)}

theorem deleteModelWith_of_draft (draft : IsDraft w.db surveyId) :
    deleteModelWith surveyId delete w = .ok (.saved ()) (invalidated (toString surveyId) (withDb w (delete w.db))) :=
  orRefuse_query_of_ok (checkDraft_of_draft draft)

theorem deleteModelWith_of_not (notDraft : ¬ IsDraft w.db surveyId) :
    Unsaved () w (deleteModelWith surveyId delete w) := by
  obtain ⟨exn, raised⟩ := checkDraft_of_not notDraft
  exact orRefuse_query_of_error raised

theorem deleteView_db_of_missing (missing : find w.db = none) :
    (final (deleteView find permsNeeded deleteModel) w).db = w.db := by
  have looked : query (fun db => Except.ok (find db)) w = .ok none w := query_eq_ok_iff.mpr ⟨congrArg _ missing, rfl⟩
  have returned : deleteView find permsNeeded deleteModel w = .ok () w := by
    rw [deleteView, atomicBlock, atomic_eq_ok_iff, bind_of_ok looked]
    rfl
  rw [final_of_ok returned]

/-- A page that finds its object, with the permission for all it takes along, runs the hook. -/
theorem deleteView_db_of_found (found : find w.db = some obj) (granted : permsNeeded obj w.db = false) :
    (final (deleteView find permsNeeded deleteModel) w).db = (final (atomicBlock (deleteModel obj)) w).db := by
  have looked : query (fun db => Except.ok (find db)) w = .ok (some obj) w :=
    query_eq_ok_iff.mpr ⟨congrArg _ found, rfl⟩
  have permitted : query (fun db => if permsNeeded obj db then .error .permissionDenied else .ok ()) w = .ok () w := by
    refine query_eq_ok_iff.mpr ⟨?_, rfl⟩
    rw [granted]
    rfl
  cases result : deleteModel obj w with
  | ok reply t =>
    have returned : deleteView find permsNeeded deleteModel w = .ok () t := by
      rw [deleteView, atomicBlock, atomic_eq_ok_iff, bind_of_ok looked, Option.elim_some, bind_of_ok permitted,
        bind_of_ok result]
      rfl
    rw [final_of_ok returned, atomicBlock, final_of_ok (atomic_eq_ok_iff.mpr result)]
  | error exn t =>
    rw [atomicBlock_db_of_error result]
    exact atomicBlock_db_of_error ((bind_of_ok looked).trans ((bind_of_ok permitted).trans (bind_of_error result)))

/-- Without that permission it answers 403. -/
theorem deleteView_db_of_needed (found : find w.db = some obj) (needed : permsNeeded obj w.db = true) :
    (final (deleteView find permsNeeded deleteModel) w).db = w.db := by
  have looked : query (fun db => Except.ok (find db)) w = .ok (some obj) w :=
    query_eq_ok_iff.mpr ⟨congrArg _ found, rfl⟩
  have refused : (if permsNeeded obj w.db then .error .permissionDenied else .ok () : Except PyExn Unit) =
      .error .permissionDenied := if_pos needed
  exact atomicBlock_db_of_error ((bind_of_ok looked).trans (query_bind_of_error refused))

theorem atomicBlock_db_of_unsaved {hook : Procedure (Reply Unit)} (unsaved : Unsaved () w (hook w)) :
    (final (atomicBlock hook) w).db = w.db := by
  cases result : hook w with
  | ok reply t =>
    rw [result] at unsaved
    rw [atomicBlock, final_of_ok (atomic_eq_ok_iff.mpr result)]
    cases unsaved <;> rfl
  | error exn t => exact atomicBlock_db_of_error result

/-- Without its object, or refused, a page leaves the rows of a refused request. -/
theorem followsDeletion_of_same {call : Call} (deletes : OnlyDeletes call.request) {w' : World} (same : w'.db = w.db) :
    FollowsDeletion py w w' :=
  ⟨call, (some .http404, w), deletes, .refused _, .quiet, same.symm⟩

/-- A page that asks for a draft deletes in a draft, -/
theorem deleteView_db_of_draft (found : find w.db = some obj)
    (guarded : deleteModel obj w = deleteModelWith surveyId delete w) (draft : IsDraft w.db surveyId) :
    (final (deleteView find noPermsNeeded deleteModel) w).db = delete w.db := by
  rw [deleteView_db_of_found found rfl, atomicBlock,
    final_of_ok (atomic_eq_ok_iff.mpr (guarded.trans (deleteModelWith_of_draft draft)))]
  rfl

/-- and nothing elsewhere. -/
theorem deleteView_db_of_not (found : find w.db = some obj)
    (guarded : deleteModel obj w = deleteModelWith surveyId delete w) (notDraft : ¬ IsDraft w.db surveyId) :
    (final (deleteView find noPermsNeeded deleteModel) w).db = w.db :=
  (deleteView_db_of_found found rfl).trans (atomicBlock_db_of_unsaved (guarded ▸ deleteModelWith_of_not notDraft))

theorem followsDeletion_of_guarded {call : Call} (deletes : OnlyDeletes call.request) (found : find w.db = some obj)
    (guarded : deleteModel obj w = deleteModelWith surveyId delete w)
    (allowed : IsDraft w.db surveyId → Served py w call (none, refreshed surveyId w (delete w.db)) ∧
      Change w call (refreshed surveyId w (delete w.db))) :
    FollowsDeletion py w (final (deleteView find noPermsNeeded deleteModel) w) := by
  by_cases draft : IsDraft w.db surveyId
  · obtain ⟨served, change⟩ := allowed draft
    exact ⟨call, _, deletes, served, change, (deleteView_db_of_draft found guarded draft).symm⟩
  · exact followsDeletion_of_same deletes (deleteView_db_of_not found guarded draft)

end Pages

/-- Every delete page leaves the rows that some request of an administrator leaves. -/
theorem deletePage_follows (py : Interpreter) (w : World) (page : DeletePage) :
    FollowsDeletion py w (final page.submit w) := by
  cases page with
  | survey pk =>
    have deletes : OnlyDeletes (adminCall (.destroySurvey pk)).request := trivial
    cases found : w.db.surveys.get pk with
    | none => exact followsDeletion_of_same deletes (deleteView_db_of_missing found)
    | some survey =>
      have sameKey : survey.id = pk := w.db.surveys.keyed pk survey found
      subst sameKey
      cases needed : SurveyAdmin.permsNeeded survey w.db with
      | true => exact followsDeletion_of_same deletes (deleteView_db_of_needed found needed)
      | false =>
        refine ⟨_, _, deletes, .surveyDeleted rfl rfl found, .surveyDeleted rfl rfl found, ?_⟩
        exact (@deleteView_db_of_found _ _ _ _ _ SurveyAdmin.deleteModel found needed).symm
  | «section» pk =>
    cases found : w.db.sections.get pk with
    | none =>
      have deletes : OnlyDeletes (adminCall (.destroySection 0 pk)).request := trivial
      exact followsDeletion_of_same deletes (deleteView_db_of_missing found)
    | some row =>
      have sameKey : row.id = pk := w.db.sections.keyed pk row found
      subst sameKey
      have deletes : OnlyDeletes (adminCall (.destroySection row.surveyId row.id)).request := trivial
      exact followsDeletion_of_guarded deletes found rfl fun draft =>
        ⟨.sectionDeleted rfl rfl found draft, .sectionDeleted rfl rfl found draft⟩
  | field pk =>
    cases found : w.db.fields.get pk with
    | none =>
      have deletes : OnlyDeletes (adminCall (.destroyField 0 0 pk)).request := trivial
      exact followsDeletion_of_same deletes (deleteView_db_of_missing found)
    | some row =>
      have sameKey : row.id = pk := w.db.fields.keyed pk row found
      subst sameKey
      cases parentFound : w.db.sections.get row.sectionId with
      | none =>
        -- `obj.section` raises
        have deletes : OnlyDeletes (adminCall (.destroyField 0 0 row.id)).request := trivial
        refine followsDeletion_of_same deletes ((deleteView_db_of_found found rfl).trans ?_)
        refine @atomicBlock_db_of_error _ _ _ .attributeError w (query_bind_of_error ?_)
        simp only [getRelated, parentFound]
      | some parent =>
        have inSection : parent.id = row.sectionId := w.db.sections.keyed row.sectionId parent parentFound
        let placed : PlacedField := ⟨row, parent, inSection⟩
        have stored : w.db.placedField placed.id = some placed := Database.placedField_eq_some.mpr ⟨found, parentFound⟩
        have deletes : OnlyDeletes (adminCall (.destroyField placed.surveyId placed.sectionId placed.id)).request :=
          trivial
        have looked : getRelated w.db.sections.get row.sectionId = .ok parent := by simp only [getRelated, parentFound]
        exact followsDeletion_of_guarded deletes found (query_bind_of_ok looked) fun draft =>
          ⟨@Served.fieldDeleted _ _ _ placed rfl rfl stored draft, @Change.fieldDeleted _ _ placed rfl rfl stored draft⟩
  | conditionalRule pk =>
    cases found : w.db.conditionalRules.get pk with
    | none =>
      have deletes : OnlyDeletes (adminCall (.destroyConditionalRule 0 pk)).request := trivial
      exact followsDeletion_of_same deletes (deleteView_db_of_missing found)
    | some row =>
      have sameKey : row.id = pk := w.db.conditionalRules.keyed pk row found
      subst sameKey
      have deletes : OnlyDeletes (adminCall (.destroyConditionalRule row.surveyId row.id)).request := trivial
      exact followsDeletion_of_guarded deletes found rfl fun draft =>
        ⟨.ruleDeleted rfl rfl found draft, .ruleDeleted found draft⟩
  | fieldDependency pk =>
    cases found : w.db.fieldDependencies.get pk with
    | none =>
      have deletes : OnlyDeletes (adminCall (.destroyFieldDependency 0 pk)).request := trivial
      exact followsDeletion_of_same deletes (deleteView_db_of_missing found)
    | some row =>
      have sameKey : row.id = pk := w.db.fieldDependencies.keyed pk row found
      subst sameKey
      have deletes : OnlyDeletes (adminCall (.destroyFieldDependency row.surveyId row.id)).request := trivial
      exact followsDeletion_of_guarded deletes found rfl fun draft =>
        ⟨.dependencyDeleted rfl rfl found draft, .dependencyDeleted found draft⟩

/-! ## What is deleted -/

/-- The object of the page is there. -/
def ObjectStored (db : Database) : DeletePage → Prop
  | .survey pk => (db.surveys.get pk).isSome = true
  | .section pk => (db.sections.get pk).isSome = true
  | .field pk => (db.fields.get pk).isSome = true
  | .conditionalRule pk => (db.conditionalRules.get pk).isSome = true
  | .fieldDependency pk => (db.fieldDependencies.get pk).isSome = true

/-- The survey is stored as a draft. -/
def BelongsToDraft (db : Database) (surveyId : Option Nat) : Prop :=
  ∃ i ∈ surveyId, IsDraft db i

/-- A survey is deleted in any status but never with responses, everything else in a draft. -/
def DeletionAllowed (db : Database) : DeletePage → Prop
  | .survey pk => ∀ response ∈ db.responses.rows, response.surveyId ≠ pk
  | .section pk => BelongsToDraft db ((db.sections.get pk).map Section.surveyId)
  | .field pk => BelongsToDraft db ((db.placedField pk).map PlacedField.surveyId)
  | .conditionalRule pk => BelongsToDraft db ((db.conditionalRules.get pk).map ConditionalRule.surveyId)
  | .fieldDependency pk => BelongsToDraft db ((db.fieldDependencies.get pk).map FieldDependency.surveyId)

section Deleted

variable {α : Type} [Keyed α] {w : World} {surveyId pk : Nat} {delete : Database → Database} {obj : α}
  {deleteModel : α → Procedure (Reply Unit)} {table : Database → Table α}

/-- A page that asks for a draft leaves its object exactly where it finds none. -/
theorem stays_iff_of_guarded (found : (table w.db).get pk = some obj)
    (guarded : deleteModel obj w = deleteModelWith surveyId delete w)
    (deletes : ((table (delete w.db)).get pk).isSome = false) :
    ((table (final (deleteView (fun db => (table db).get pk) noPermsNeeded deleteModel) w).db).get pk).isSome = true ↔
      ¬ IsDraft w.db surveyId := by
  by_cases draft : IsDraft w.db surveyId
  · rw [deleteView_db_of_draft found guarded draft, deletes]
    simp only [Bool.false_eq_true, draft, not_true_eq_false]
  · rw [deleteView_db_of_not found guarded draft, found]
    simp only [Option.isSome_some, draft, not_false_eq_true]

end Deleted

theorem belongsToDraft_iff {db : Database} {surveyId? : Option Nat} {surveyId : Nat} (checked : surveyId? = some surveyId) :
    BelongsToDraft db surveyId? ↔ IsDraft db surveyId := by
  subst checked
  constructor
  · rintro ⟨_, is, draft⟩
    exact Option.some.inj is ▸ draft
  · exact fun draft => ⟨surveyId, rfl, draft⟩

theorem SurveyAdmin.permsNeeded_eq_false {obj : Survey} {db : Database} :
    SurveyAdmin.permsNeeded obj db = false ↔ DeletionAllowed db (.survey obj.id) := by
  simp only [SurveyAdmin.permsNeeded, DeletionAllowed, List.any_eq_false, decide_eq_true_eq]

/-- A page leaves its object exactly where it may not delete it. -/
theorem deletePage_stays_iff {w : World} (intact : Intact w.db) (page : DeletePage) (stored : ObjectStored w.db page) :
    ObjectStored (final page.submit w).db page ↔ ¬ DeletionAllowed w.db page := by
  cases page with
  | survey pk =>
    obtain ⟨survey, found⟩ := Option.isSome_iff_exists.mp stored
    have sameKey : survey.id = pk := w.db.surveys.keyed pk survey found
    subst sameKey
    cases needed : SurveyAdmin.permsNeeded survey w.db with
    | true =>
      have notAllowed : ¬ DeletionAllowed w.db (.survey survey.id) := by
        rw [← SurveyAdmin.permsNeeded_eq_false, needed]
        exact Bool.noConfusion
      have rows : (final (DeletePage.survey survey.id).submit w).db = w.db :=
        deleteView_db_of_needed found needed
      rw [ObjectStored, rows, found]
      simp only [Option.isSome_some, notAllowed, not_false_eq_true]
    | false =>
      -- in any status
      have allowed := SurveyAdmin.permsNeeded_eq_false.mp needed
      have gone : ((w.db.deleteSurvey survey.id).surveys.get survey.id).isSome = false :=
        isSome_get_deleteWhere fun row kept => decide_eq_true (w.db.surveys.keyed survey.id row kept)
      have after := @deleteView_db_of_found _ w _ (·.surveys.get survey.id) _ SurveyAdmin.deleteModel found needed
      have rows : (final (DeletePage.survey survey.id).submit w).db = w.db.deleteSurvey survey.id := after
      rw [ObjectStored, rows, gone]
      simp only [Bool.false_eq_true, allowed, not_true_eq_false]
  | «section» pk =>
    obtain ⟨row, found⟩ := Option.isSome_iff_exists.mp stored
    have sameKey : row.id = pk := w.db.sections.keyed pk row found
    rw [DeletionAllowed, belongsToDraft_iff (congrArg (Option.map Section.surveyId) found)]
    refine @stays_iff_of_guarded _ _ w _ pk _ row SectionAdmin.deleteModel (·.sections) found rfl ?_
    exact isSome_get_deleteWhere fun other kept => beq_iff_eq.mpr ((w.db.sections.keyed pk other kept).trans sameKey.symm)
  | field pk =>
    obtain ⟨row, found⟩ := Option.isSome_iff_exists.mp stored
    have sameKey : row.id = pk := w.db.fields.keyed pk row found
    obtain ⟨parent, parentFound⟩ := Option.isSome_iff_exists.mp
      (intact.fieldSection row (mem_rows.mpr ((congrArg _ sameKey).trans found)) _ rfl)
    have inSection : parent.id = row.sectionId := w.db.sections.keyed row.sectionId parent parentFound
    have placed : w.db.placedField pk = some ⟨row, parent, inSection⟩ :=
      Database.placedField_eq_some.mpr ⟨found, parentFound⟩
    have looked : getRelated w.db.sections.get row.sectionId = .ok parent := by simp only [getRelated, parentFound]
    rw [DeletionAllowed, belongsToDraft_iff (congrArg (Option.map PlacedField.surveyId) placed)]
    refine @stays_iff_of_guarded _ _ w _ pk _ row FieldAdmin.deleteModel (·.fields) found (query_bind_of_ok looked) ?_
    exact isSome_get_deleteWhere fun other kept => beq_iff_eq.mpr ((w.db.fields.keyed pk other kept).trans sameKey.symm)
  | conditionalRule pk =>
    obtain ⟨row, found⟩ := Option.isSome_iff_exists.mp stored
    have sameKey : row.id = pk := w.db.conditionalRules.keyed pk row found
    rw [DeletionAllowed, belongsToDraft_iff (congrArg (Option.map ConditionalRule.surveyId) found)]
    refine @stays_iff_of_guarded _ _ w _ pk _ row ConditionalRuleAdmin.deleteModel (·.conditionalRules) found rfl ?_
    exact isSome_get_deleteWhere fun other kept =>
      beq_iff_eq.mpr ((w.db.conditionalRules.keyed pk other kept).trans sameKey.symm)
  | fieldDependency pk =>
    obtain ⟨row, found⟩ := Option.isSome_iff_exists.mp stored
    have sameKey : row.id = pk := w.db.fieldDependencies.keyed pk row found
    rw [DeletionAllowed, belongsToDraft_iff (congrArg (Option.map FieldDependency.surveyId) found)]
    refine @stays_iff_of_guarded _ _ w _ pk _ row FieldDependencyAdmin.deleteModel (·.fieldDependencies) found rfl ?_
    exact isSome_get_deleteWhere fun other kept =>
      beq_iff_eq.mpr ((w.db.fieldDependencies.keyed pk other kept).trans sameKey.symm)

/-! ## Runs -/

section Runs

variable {py : Interpreter} {decryptValue : Decryption} {w w' : World}

structure WellKept (py : Interpreter) (decryptValue : Decryption) (db : Database) : Prop where
  inPlace : InPlace db
  conform : ∀ response ∈ db.responses.rows, Conforms py decryptValue db response

theorem FollowsDeletion.later (follows : FollowsDeletion py w w') : Later w.db w'.db := by
  obtain ⟨_, _, _, _, change, same⟩ := follows
  exact same ▸ (effects_later change.effects).1

theorem FollowsDeletion.inPlace (follows : FollowsDeletion py w w') (inPlace : InPlace w.db) : InPlace w'.db := by
  obtain ⟨call, ends, deletes, served, _, same⟩ := follows
  rw [← same]
  have intact' := served.intact inPlace.intact
  refine ⟨intact', served.placed inPlace.intact inPlace.placed, fun row member id names => ?_⟩
  obtain old | ⟨_, _, _, _, _, _, isUpdate, _⟩ := served.rule_cases member
  · exact (inPlace.targets row old id names).keep served.sameParents (intact'.ruleTargetSection row member id names)
  · rw [isUpdate] at deletes
    exact deletes.elim

theorem FollowsDeletion.wellKept (follows : FollowsDeletion py w w') (kept : WellKept py decryptValue w.db) :
    WellKept py decryptValue w'.db := by
  have inPlace' := follows.inPlace kept.inPlace
  have later := follows.later
  obtain ⟨call, ends, deletes, served, _, same⟩ := follows
  rw [← same] at inPlace' later ⊢
  refine ⟨inPlace', served.conforms (fun surveyPk answers isSubmit => ?_) later kept.inPlace inPlace' kept.conform⟩
  rw [isSubmit] at deletes
  exact deletes.elim

theorem serve_later (py : Interpreter) (w : World) (action : ApiCall) : Later w.db (serve py w action).db := by
  cases action with
  | write call => exact (effects_later (handle_effects py w call)).1
  | retrieve user pk =>
    rw [serve_retrieve_db]
    exact .refl _

/-- A call of the API, or a delete page of the admin site. -/
inductive PlatformAction where
  | api (action : ApiCall)
  | delete (page : DeletePage)

def platformServe (py : Interpreter) (w : World) : PlatformAction → World
  | .api action => serve py w action
  | .delete page => final page.submit w

/-- An accepted rule update names its own survey, and what is encrypted can be decrypted. -/
def RegularAction (py : Interpreter) (decryptValue : Decryption) (w : World) : PlatformAction → Prop
  | .api action => NamesOwnSection py w action ∧ ∀ call, action = .write call → Inverts decryptValue call.encryptValue
  | .delete _ => True

theorem platformServe_later (py : Interpreter) (w : World) (action : PlatformAction) :
    Later w.db (platformServe py w action).db := by
  cases action with
  | api action => exact serve_later py w action
  | delete page => exact (deletePage_follows py w page).later

theorem platformServe_wellKept {action : PlatformAction} (regular : RegularAction py decryptValue w action)
    (kept : WellKept py decryptValue w.db) : WellKept py decryptValue (platformServe py w action).db := by
  cases action with
  | api action =>
    obtain ⟨named, fernet⟩ := regular
    have inPlace' : InPlace (serve py w action).db := serve_inPlace named kept.inPlace
    exact ⟨inPlace', serve_conforms fernet kept.inPlace inPlace' kept.conform⟩
  | delete page => exact (deletePage_follows py w page).wellKept kept

/-- In every run of API calls and delete pages rows stay in place and responses conform,
a page deletes a survey exactly if nobody has answered it and anything else exactly in a
draft, and what has left draft is frozen until its survey is deleted. -/
theorem deletions_keep (py : Interpreter) (decryptValue : Decryption) (start : WellKept py decryptValue w.db)
    {actions : List PlatformAction} (regular : Along (platformServe py) (RegularAction py decryptValue) w actions) :
    (∀ state ∈ trace (platformServe py) w actions, WellKept py decryptValue state.db ∧
      ∀ page, ObjectStored state.db page →
        (ObjectStored (final page.submit state).db page ↔ ¬ DeletionAllowed state.db page)) ∧
      (trace (platformServe py) w actions).Pairwise Frozen := by
  have step : ∀ (state : World) (action : PlatformAction), RegularAction py decryptValue state action →
      WellKept py decryptValue state.db → WellKept py decryptValue (platformServe py state action).db :=
    fun _ _ => platformServe_wellKept
  constructor
  · intro state member
    have kept := regular.trace_invariant step start state member
    exact ⟨kept, fun page => deletePage_stays_iff kept.inPlace.intact page⟩
  · have transitive : ∀ a b c : World, Later a.db b.db → Later b.db c.db → Later a.db c.db :=
      fun a b c => Later.trans a.db b.db c.db
    have later := (pairwise_trace_iff transitive w actions).mpr (along_of_forall (platformServe_later py) w actions)
    apply later.imp
    intro _ _ between s left stored
    obtain ⟨survey, found⟩ := Option.isSome_iff_exists.mp stored
    exact (between.frozen s left survey found).2

end Runs

/-- The answered survey, whose section the admin site does not delete, nor itself. -/
def keptRun : List PlatformAction :=
  archivedRun.map .api ++ [.delete (.section 1)]

theorem deletions_keep_section :
    Conforms bareInterpreter dropPrefix (run (platformServe bareInterpreter) World.empty keptRun).db ⟨1, 1, 2⟩ ∧
      ObjectStored (final (DeletePage.section 1).submit (run (platformServe bareInterpreter) World.empty keptRun)).db
        (.section 1) ∧
      ObjectStored (final (DeletePage.survey 1).submit (run (platformServe bareInterpreter) World.empty keptRun)).db
        (.survey 1) := by
  have response : (run (platformServe bareInterpreter) World.empty keptRun).db.responses.get 1 = some ⟨1, 1, 2⟩ := by
    decide +kernel
  have parent : (run (platformServe bareInterpreter) World.empty keptRun).db.sections.get 1 =
      some ⟨1, 1, "You", "", 1⟩ := by decide +kernel
  have survey : (run (platformServe bareInterpreter) World.empty keptRun).db.surveys.get 1 =
      some ⟨1, "Health", "", 1, .archived⟩ := by decide +kernel
  have regular : Along (platformServe bareInterpreter) (RegularAction bareInterpreter dropPrefix) World.empty keptRun := by
    refine along_of_forall_mem (fun _ action member => ?_) _
    obtain isApi | isDelete := List.mem_append.mp member
    · obtain ⟨api, listed, rfl⟩ := List.mem_map.mp isApi
      obtain ⟨call, rfl, isPrefix, noUpdate⟩ := mem_archivedRun listed
      constructor
      · intro other surveyPk pk isPartial body _ isCall isUpdate
        cases isCall
        exact absurd isUpdate (noUpdate surveyPk pk isPartial body)
      · intro other isCall
        cases isCall
        exact isPrefix ▸ inverts_dropPrefix
    · rw [List.mem_singleton.mp isDelete]
      trivial
  have start : WellKept bareInterpreter dropPrefix World.empty.db :=
    ⟨inPlace_empty, fun response member => absurd member (rows_empty response)⟩
  obtain ⟨kept, _⟩ := deletions_keep bareInterpreter dropPrefix start regular
  obtain ⟨wellKept, stays⟩ := kept _ (run_mem_trace _ _)
  refine ⟨wellKept.conform _ (mem_rows.mpr response), (stays (.section 1) ?_).mpr fun allowed => ?_,
    (stays (.survey 1) ?_).mpr fun allowed => allowed ⟨1, 1, 2⟩ (mem_rows.mpr response) rfl⟩
  · rw [ObjectStored, parent]
    rfl
  · rw [DeletionAllowed, belongsToDraft_iff (congrArg (Option.map Section.surveyId) parent)] at allowed
    obtain ⟨row, stored, draft⟩ := allowed
    rw [survey, Option.some.injEq] at stored
    rw [← stored] at draft
    cases draft
  · rw [ObjectStored, survey]
    rfl

end SurveyPlatform.Verified

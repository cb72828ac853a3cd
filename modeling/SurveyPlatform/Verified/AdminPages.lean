import SurveyPlatform.Verified.AdminHooks

/-! # What a submitted admin page leaves

`save_model`, then `save_formset`, in one transaction: the database after a page
is what the inlines make of the saved row, or the one before the page when the
request is rolled back.
-/

namespace SurveyPlatform.Verified

open SurveyPlatform.Library SurveyPlatform.Library.Program SurveyPlatform.Python SurveyPlatform.Surveys

/-- What the inlines make of the database; nothing when they end the transaction. -/
def inlineResult {α : Type} [Keyed α] (inline : Inline α) (draft : Database → Except PyExn Unit)
    (check : α → Except PyExn Unit) (parentId : Nat) (formset : Formset α) (db : Database) : Option Database :=
  match checkForms (draft db) check false formset.forms with
  | .ok _ => (inline.saveFormset parentId formset db).toOption
  | .error _ => none

theorem inlineResult_eq_some {α : Type} [Keyed α] {inline : Inline α} {draft : Database → Except PyExn Unit}
    {check : α → Except PyExn Unit} {parentId : Nat} {formset : Formset α} {db db' : Database} :
    inlineResult inline draft check parentId formset db = some db' ↔
      checkForms (draft db) check false formset.forms = .ok () ∧ inline.saveFormset parentId formset db = .ok db' := by
  unfold inlineResult
  cases checkForms (draft db) check false formset.forms with
  | error exn => simp
  | ok u => cases inline.saveFormset parentId formset db <;> simp [Except.toOption]

section Pages

variable {α β : Type} [Keyed α] {inline : Inline α} {draft : Database → Except PyExn Unit}
  {check : α → Except PyExn Unit} {parentId surveyId : Nat} {formset : Formset α} {w : World}

/-! ## The inlines -/

theorem rewriting_of_ok {change : Database → Except PyExn Database} {db : Database} (result : change w.db = .ok db) :
    rewriting change w = .ok () { w with db } := by
  rw [rewriting, result]

theorem rewriting_of_error {change : Database → Except PyExn Database} {exn : PyExn}
    (result : change w.db = .error exn) : rewriting change w = .error exn w := by
  rw [rewriting, result]

theorem saveFormsetWith_of_some {db : Database}
    (result : inlineResult inline draft check parentId formset w.db = some db) : ∃ w',
    saveFormsetWith inline draft check parentId surveyId formset w = .ok (.saved ()) w' ∧ w'.db = db := by
  obtain ⟨checked, saved⟩ := inlineResult_eq_some.mp result
  unfold saveFormsetWith
  rw [orRefuse_query_of_ok checked, orBroken_of_ok (rewriting_of_ok saved)]
  exact ⟨_, rfl, rfl⟩

theorem saveFormsetWith_of_none (result : inlineResult inline draft check parentId formset w.db = none) :
    Unsaved () w (saveFormsetWith inline draft check parentId surveyId formset w) := by
  unfold inlineResult at result
  unfold saveFormsetWith
  cases checked : checkForms (draft w.db) check false formset.forms with
  | ok u =>
    rw [checked] at result
    rw [orRefuse_query_of_ok checked]
    cases saved : inline.saveFormset parentId formset w.db with
    | ok db' =>
      rw [saved] at result
      cases result
    | error exn => exact (orBroken_of_error (rewriting_of_error saved)).unsaved ()
  | error exn => exact orRefuse_query_of_error checked

/-! ## The change view -/

variable {saveModel : Procedure (Reply β)} {saveRelated : β → Procedure (Reply Unit)}

theorem atomicBlock_db_of_error {γ : Type} {body : Procedure γ} {exn : PyExn} {t : World}
    (raised : body w = .error exn t) : (final (atomicBlock body) w).db = w.db := by
  rw [atomicBlock, final_of_error (atomic_of_error raised)]

theorem changeformView_db_of_aborted (aborted : Aborted w (saveModel w)) :
    (final (changeformView saveModel saveRelated) w).db = w.db := by
  cases result : saveModel w with
  | ok reply t =>
    rw [result] at aborted
    cases aborted with
    | broken message =>
      refine @atomicBlock_db_of_error _ _ _ .databaseError w ?_
      rw [bind_of_ok result]
      rfl
  | error exn t => exact atomicBlock_db_of_error (bind_of_error result)

/-- A page whose inlines are not saved. -/
theorem changeformView_db_of_related_unsaved {reply : Reply β} {obj : β} {t : World} (result : saveModel w = .ok reply t)
    (goesOn : reply.goOn = .ok obj) (unsaved : Unsaved () t (saveRelated obj t)) :
    (final (changeformView saveModel saveRelated) w).db = w.db := by
  cases related : saveRelated obj t with
  | ok relatedReply u =>
    rw [related] at unsaved
    have raised : ∃ exn, relatedReply.changeMessage = .error exn := by
      cases unsaved with
      | refused messages => exact ⟨_, rfl⟩
      | broken message => exact ⟨_, rfl⟩
    obtain ⟨exn, raised⟩ := raised
    refine @atomicBlock_db_of_error _ _ _ exn u ?_
    rw [bind_of_ok result, query_bind_of_ok goesOn, bind_of_ok related, query, reading, raised]
  | error exn u =>
    refine @atomicBlock_db_of_error _ _ _ exn u ?_
    rw [bind_of_ok result, query_bind_of_ok goesOn, bind_of_error related]

theorem changeformView_db_of_ok {reply : Reply β} {obj : β} {t t' : World} (result : saveModel w = .ok reply t)
    (goesOn : reply.goOn = .ok obj) (saved : saveRelated obj t = .ok (.saved ()) t') :
    (final (changeformView saveModel saveRelated) w).db = t'.db := by
  have returned : changeformView saveModel saveRelated w = .ok () t' := by
    rw [changeformView, atomicBlock, atomic_eq_ok_iff, bind_of_ok result, query_bind_of_ok goesOn, bind_of_ok saved]
    rfl
  rw [final_of_ok returned]

/-- A page with inlines, once its own row is saved or refused. -/
theorem changeformView_db {draft : β → Database → Except PyExn Unit} {parentId surveyId : β → Nat} {reply : Reply β}
    {obj : β} {t : World} (result : saveModel w = .ok reply t) (goesOn : reply.goOn = .ok obj) :
    (final (changeformView saveModel fun obj =>
      saveFormsetWith inline (draft obj) check (parentId obj) (surveyId obj) formset) w).db =
      (inlineResult inline (draft obj) check (parentId obj) formset t.db).getD w.db := by
  cases outcome : inlineResult inline (draft obj) check (parentId obj) formset t.db with
  | none => exact changeformView_db_of_related_unsaved result goesOn (saveFormsetWith_of_none outcome)
  | some db =>
    obtain ⟨t', saved, rfl⟩ := @saveFormsetWith_of_some _ _ _ _ _ _ (surveyId obj) _ _ _ outcome
    exact changeformView_db_of_ok result goesOn saved

/-- A page without inlines. -/
theorem changeformView_db_of_saved {obj : β} {db : Database} (saved : SavedAs obj db (saveModel w)) :
    (final (changeformView saveModel fun _ => pure (.saved ())) w).db = db := by
  obtain ⟨t, result, rfl⟩ := saved
  exact changeformView_db_of_ok result rfl rfl

theorem changeformView_db_of_unsaved {obj : β} (unsaved : Unsaved obj w (saveModel w)) :
    (final (changeformView saveModel fun _ => pure (.saved ())) w).db = w.db := by
  cases result : saveModel w with
  | error exn t => exact atomicBlock_db_of_error (bind_of_error result)
  | ok reply t =>
    rw [result] at unsaved
    cases unsaved with
    | refused messages => exact changeformView_db_of_ok result rfl rfl
    | broken message =>
      apply changeformView_db_of_aborted
      rw [result]
      exact .broken message

theorem ifClean_db_of_ok {clean : Database → Except PyExn Unit} {save : Procedure Unit} (passed : clean w.db = .ok ()) :
    ifClean clean save w = save w := by
  rw [ifClean, passed]

theorem ifClean_db_of_error {clean : Database → Except PyExn Unit} {save : Procedure Unit} {exn : PyExn}
    (raised : clean w.db = .error exn) : final (ifClean clean save) w = w := by
  cases isMessage : (validationErrorToMessage exn).isSome with
  | true =>
    have shown : ifClean clean save w = .ok () w := by
      simp only [ifClean, raised, isMessage, if_true]
    rw [final_of_ok shown]
  | false =>
    have passedOn : ifClean clean save w = .error exn w := by
      simp only [ifClean, raised, isMessage, Bool.false_eq_true, if_false]
    rw [final_of_error passedOn]

end Pages

end SurveyPlatform.Verified

import SurveyPlatform.Verified.RequestEffects
import Mathlib.Data.Set.Basic

/-! # The structure of a survey is frozen after draft

Over any run of API calls from the empty database, a survey that is no draft has
a section, and a field in each section; and from the moment it leaves draft until
it is deleted, its sections and fields stay the same rows (`structure_frozen`).

Each effect is looked at once (`Effect.later`); the rest is transitivity.
-/

namespace SurveyPlatform.Verified

open SurveyPlatform.Library SurveyPlatform.Library.Program SurveyPlatform.Python
open SurveyPlatform.Surveys SurveyPlatform.Responses
open Relation (ReflTransGen)

/-! ## The rows of a survey -/

def SectionRows (db : Database) (surveyId : Nat) : Set Section :=
  { row | db.sections.get row.id = some row ∧ row.surveyId = surveyId }

def FieldRows (db : Database) (surveyId : Nat) : Set Field :=
  { row | db.fields.get row.id = some row ∧
    ∃ parent, db.sections.get row.sectionId = some parent ∧ parent.surveyId = surveyId }

def LeftDraft (db : Database) (surveyId : Nat) : Prop :=
  ∃ survey, db.surveys.get surveyId = some survey ∧ survey.status ≠ .draft

structure SameStructure (db db' : Database) (surveyId : Nat) : Prop where
  sections : SectionRows db' surveyId = SectionRows db surveyId
  fields : FieldRows db' surveyId = FieldRows db surveyId

section Rows

variable {db db' db'' : Database} {surveyId other : Nat}

theorem ne_nil_iff {α : Type} {rows : List α} : rows ≠ [] ↔ ∃ row, row ∈ rows := by
  rw [ne_eq, List.eq_nil_iff_forall_not_mem, not_forall_not]

theorem publishable_iff : Publishable db surveyId ↔ (SectionRows db surveyId).Nonempty ∧
    ∀ parent ∈ SectionRows db surveyId, ∃ row ∈ FieldRows db surveyId, row.sectionId = parent.id := by
  have sections : ∀ row, row ∈ db.sectionsOf surveyId ↔ row ∈ SectionRows db surveyId :=
    fun row => Database.mem_sectionsOf
  have fields : ∀ parent ∈ SectionRows db surveyId, ((∃ row, row ∈ db.fieldsOf parent.id) ↔
      ∃ row ∈ FieldRows db surveyId, row.sectionId = parent.id) := by
    intro parent holds
    obtain ⟨stored, inSurvey⟩ := holds
    constructor
    · intro holds
      obtain ⟨row, member⟩ := holds
      obtain ⟨found, inSection⟩ := Database.mem_fieldsOf.mp member
      exact ⟨row, ⟨found, parent, inSection ▸ stored, inSurvey⟩, inSection⟩
    · intro holds
      obtain ⟨row, ⟨found, _⟩, inSection⟩ := holds
      exact ⟨row, Database.mem_fieldsOf.mpr ⟨found, inSection⟩⟩
  simp only [Publishable, ne_nil_iff, sections]
  exact and_congr Iff.rfl (forall₂_congr fields)

theorem SameStructure.refl (db : Database) (surveyId : Nat) : SameStructure db db surveyId := ⟨rfl, rfl⟩

theorem SameStructure.trans (first : SameStructure db db' surveyId) (second : SameStructure db' db'' surveyId) :
    SameStructure db db'' surveyId :=
  ⟨second.sections.trans first.sections, second.fields.trans first.fields⟩

theorem SameStructure.publishable (same : SameStructure db db' surveyId) (ready : Publishable db surveyId) :
    Publishable db' surveyId := by
  rw [publishable_iff] at ready ⊢
  rw [same.sections, same.fields]
  exact ready

/-- Tables that agree on the rows of a survey. -/
theorem SameStructure.of_agree
    (sections : ∀ id row, row.surveyId = surveyId → (db'.sections.get id = some row ↔ db.sections.get id = some row))
    (fields : ∀ id row, (∃ parent, db.sections.get row.sectionId = some parent ∧ parent.surveyId = surveyId) →
      (db'.fields.get id = some row ↔ db.fields.get id = some row)) : SameStructure db db' surveyId := by
  have sameParent : ∀ id, (∃ parent, db'.sections.get id = some parent ∧ parent.surveyId = surveyId) ↔
      ∃ parent, db.sections.get id = some parent ∧ parent.surveyId = surveyId := by
    intro id
    constructor
    · intro holds
      obtain ⟨parent, found, inSurvey⟩ := holds
      exact ⟨parent, (sections id parent inSurvey).mp found, inSurvey⟩
    · intro holds
      obtain ⟨parent, found, inSurvey⟩ := holds
      exact ⟨parent, (sections id parent inSurvey).mpr found, inSurvey⟩
  constructor
  · ext row
    exact and_congr_left fun inSurvey => sections row.id row inSurvey
  · ext row
    show _ ∧ _ ↔ _ ∧ _
    rw [sameParent]
    exact and_congr_left fun parent => fields row.id row parent

theorem LeftDraft.ne (left : LeftDraft db surveyId) (draft : IsDraft db other) : surveyId ≠ other := by
  intro same
  subst same
  obtain ⟨survey, found, notDraft⟩ := left
  obtain ⟨survey', found', isDraft⟩ := draft
  rw [found, Option.some.injEq] at found'
  exact notDraft (found' ▸ isDraft)

end Rows

/-! ## One effect -/

/-- What may have happened between two states of the database. -/
structure Later (db db' : Database) : Prop where
  /-- Primary keys are not handed out again. -/
  next : db.surveys.next ≤ db'.surveys.next
  gone : ∀ s, s < db.surveys.next → db.surveys.get s = none → db'.surveys.get s = none
  frozen : ∀ s, LeftDraft db s → ∀ survey, db'.surveys.get s = some survey →
    survey.status ≠ .draft ∧ SameStructure db db' s

/-- Every survey that is no draft may be published. -/
def Ready (db : Database) : Prop := ∀ s, LeftDraft db s → Publishable db s

theorem Later.refl (db : Database) : Later db db := by
  refine ⟨Nat.le_refl _, fun _ _ => id, fun s left survey found => ⟨?_, SameStructure.refl db s⟩⟩
  obtain ⟨other, found', notDraft⟩ := left
  rw [found, Option.some.injEq] at found'
  exact found' ▸ notDraft

theorem Later.trans (a b c : Database) (first : Later a b) (second : Later b c) : Later a c := by
  refine ⟨first.next.trans second.next, fun s below missing => ?_, fun s left survey found => ?_⟩
  · exact second.gone s (Nat.lt_of_lt_of_le below first.next) (first.gone s below missing)
  · -- a survey stored at the end was stored all the time: its key was not used again
    have below : s < a.surveys.next := by
      obtain ⟨_, stored, _⟩ := left
      exact Table.lt_next stored
    cases stored : b.surveys.get s with
    | none =>
      have missing := second.gone s (Nat.lt_of_lt_of_le below first.next) stored
      rw [found] at missing
      cases missing
    | some between =>
      obtain ⟨notDraft, same⟩ := first.frozen s left between stored
      obtain ⟨notDraft', same'⟩ := second.frozen s ⟨between, stored, notDraft⟩ survey found
      exact ⟨notDraft', same.trans same'⟩

/-- An effect on sections and fields that leaves alone what has left draft. -/
theorem later_of_edit {db db' : Database} (surveys : db'.surveys = db.surveys)
    (same : ∀ s, LeftDraft db s → SameStructure db db' s) : Later db db' ∧ (Ready db → Ready db') := by
  refine ⟨⟨by rw [surveys], fun s _ missing => by rw [surveys, missing], fun s left survey found => ?_⟩, ?_⟩
  · rw [surveys] at found
    exact ⟨((Later.refl db).frozen s left survey found).1, same s left⟩
  · intro ready s left
    rw [LeftDraft, surveys] at left
    exact (same s left).publishable (ready s left)

section Effects

variable {db db' : Database}

theorem later_createSection {row : Section} (draft : IsDraft db row.surveyId) {s : Nat} (left : LeftDraft db s) :
    SameStructure db { db with sections := db.sections.insert row.withId row.key_withId } s := by
  have different := left.ne draft
  refine SameStructure.of_agree (fun id found inSurvey => ?_) fun _ _ _ => Iff.rfl
  rw [Table.get_insert]
  split
  · rename_i new
    rw [new, Table.get_next]
    -- the new section is one of a draft, so of another survey
    refine iff_of_false (fun same => ?_) (by simp)
    cases same
    exact different inSurvey.symm
  · rfl

theorem later_updateSection {row : Section} (data : SectionData) (stored : db.sections.get row.id = some row)
    (draft : IsDraft db row.surveyId) {s : Nat} (left : LeftDraft db s) :
    SameStructure db { db with sections := db.sections.modify row.id data.assign data.key_assign } s := by
  have different := left.ne draft
  refine SameStructure.of_agree (fun id found inSurvey => ?_) fun _ _ _ => Iff.rfl
  rw [Table.get_modify]
  split
  · rename_i same
    rw [same, stored]
    refine iff_of_false (fun updated => ?_) fun same => ?_
    · cases updated
      exact different inSurvey.symm
    · cases same
      exact different inSurvey.symm
  · rfl

theorem later_createField {row : Field} {parent : Section} (stored : db.sections.get row.sectionId = some parent)
    (draft : IsDraft db parent.surveyId) {s : Nat} (left : LeftDraft db s) :
    SameStructure db { db with fields := db.fields.insert row.withId row.key_withId } s := by
  have different := left.ne draft
  refine SameStructure.of_agree (fun _ _ _ => Iff.rfl) fun id found inSurvey => ?_
  rw [Table.get_insert]
  split
  · rename_i new
    rw [new, Table.get_next]
    refine iff_of_false (fun same => ?_) (by simp)
    cases same
    obtain ⟨other, found, inSurvey⟩ := inSurvey
    rw [show (row.withId db.fields.next).sectionId = row.sectionId from rfl, stored, Option.some.injEq] at found
    exact different (found ▸ inSurvey.symm)
  · rfl

theorem later_updateField {row : PlacedField} (data : FieldData) (stored : db.placedField row.id = some row)
    (draft : IsDraft db row.surveyId) {s : Nat} (left : LeftDraft db s) :
    SameStructure db { db with fields := db.fields.modify row.id data.assign data.key_assign } s := by
  have different := left.ne draft
  obtain ⟨found, parent⟩ := Database.placedField_eq_some.mp stored
  refine SameStructure.of_agree (fun _ _ _ => Iff.rfl) fun id other inSurvey => ?_
  rw [Table.get_modify]
  split
  · rename_i same
    rw [same, found]
    obtain ⟨section_, foundSection, inSurvey⟩ := inSurvey
    refine iff_of_false (fun updated => ?_) fun same => ?_
    · cases updated
      rw [show (data.assign row.toField).sectionId = row.sectionId from rfl, parent, Option.some.injEq] at foundSection
      subst foundSection
      exact different inSurvey.symm
    · cases same
      rw [parent, Option.some.injEq] at foundSection
      subst foundSection
      exact different inSurvey.symm
  · rfl

theorem filter_eq_some_iff_of_kept {α : Type} {stored : Option α} {keep : α → Bool} {row : α}
    (kept : stored = some row → keep row = true) : stored.filter keep = some row ↔ stored = some row := by
  rw [Option.filter_eq_some_iff]
  exact and_iff_left_of_imp kept

theorem same_deleteFields {gone : Nat → Bool} {s : Nat} (kept : ∀ row ∈ FieldRows db s, gone row.id = false) :
    SameStructure db (db.deleteFields gone) s := by
  refine SameStructure.of_agree (fun _ _ _ => Iff.rfl) fun id row inSurvey => ?_
  apply filter_eq_some_iff_of_kept
  intro found
  have sameKey : row.id = id := db.fields.keyed id row found
  show (!gone row.id) = true
  rw [kept row ⟨sameKey ▸ found, inSurvey⟩]
  rfl

theorem same_deleteSections {gone : Nat → Bool} {s : Nat} (kept : ∀ row ∈ SectionRows db s, gone row.id = false) :
    SameStructure db (db.deleteSections gone) s := by
  refine SameStructure.of_agree (fun id row inSurvey => ?_) fun id row inSurvey => ?_
  · apply filter_eq_some_iff_of_kept
    intro found
    have sameKey : row.id = id := db.sections.keyed id row found
    show (!gone row.id) = true
    rw [kept row ⟨sameKey ▸ found, inSurvey⟩]
    rfl
  · -- the cascade takes the fields of deleted sections, and this one's section stays
    obtain ⟨parent, foundParent, inSurvey⟩ := inSurvey
    have sameParent : parent.id = row.sectionId := db.sections.keyed _ parent foundParent
    apply filter_eq_some_iff_of_kept
    intro found
    have sameKey : row.id = id := db.fields.keyed id row found
    have stays := kept parent ⟨sameParent ▸ foundParent, inSurvey⟩
    show (!(db.fields.get row.id).any fun row => gone row.sectionId) = true
    rw [sameKey, found, Option.any_some, ← sameParent, stays]
    rfl

/-- No section of a survey that has left draft is one of a draft. -/
theorem LeftDraft.section_ne {s : Nat} (left : LeftDraft db s) {row : Section}
    (stored : db.sections.get row.id = some row) (draft : IsDraft db row.surveyId) :
    ∀ other ∈ SectionRows db s, (other.id == row.id) = false := by
  intro other member
  obtain ⟨found, inSurvey⟩ := member
  rw [beq_eq_false_iff_ne]
  intro sameKey
  rw [sameKey, stored, Option.some.injEq] at found
  subst found
  exact left.ne draft inSurvey.symm

theorem LeftDraft.field_ne {s : Nat} (left : LeftDraft db s) {row : PlacedField}
    (stored : db.placedField row.id = some row) (draft : IsDraft db row.surveyId) :
    ∀ other ∈ FieldRows db s, (other.id == row.id) = false := by
  obtain ⟨foundRow, foundParent⟩ := Database.placedField_eq_some.mp stored
  intro other member
  obtain ⟨found, parent, isParent, inSurvey⟩ := member
  rw [beq_eq_false_iff_ne]
  intro sameKey
  rw [sameKey, foundRow, Option.some.injEq] at found
  subst found
  rw [foundParent, Option.some.injEq] at isParent
  subst isParent
  exact left.ne draft inSurvey.symm

theorem later_deleteSection {row : Section} (draft : IsDraft db row.surveyId)
    (stored : db.sections.get row.id = some row) {s : Nat} (left : LeftDraft db s) :
    SameStructure db (db.deleteSections (· == row.id)) s :=
  same_deleteSections (left.section_ne stored draft)

theorem later_deleteField {row : PlacedField} (stored : db.placedField row.id = some row)
    (draft : IsDraft db row.surveyId) {s : Nat} (left : LeftDraft db s) :
    SameStructure db (db.deleteFields (· == row.id)) s :=
  same_deleteFields (left.field_ne stored draft)

theorem same_deleteSurvey {t s : Nat} (different : s ≠ t) : SameStructure db (db.deleteSurvey t) s := by
  -- the cascade takes sections of another survey only
  have sections : SameStructure db
      (db.deleteSections fun id => (db.sections.get id).any (·.surveyId = t)) s := by
    apply same_deleteSections
    intro row member
    obtain ⟨found, inSurvey⟩ := member
    simp [found, inSurvey, different]
  exact ⟨sections.sections, sections.fields⟩

/-- A new survey is a draft under a key that was never used. -/
theorem later_createSurvey {row : Survey} (draft : row.status = .draft) :
    let db' := { db with surveys := db.surveys.insert row.withId row.key_withId }
    Later db db' ∧ (Ready db → Ready db') := by
  intro db'
  have found : ∀ s, db'.surveys.get s = if s = db.surveys.next then some (row.withId db.surveys.next)
      else db.surveys.get s := db.surveys.get_insert _ row.key_withId
  refine ⟨⟨Nat.le_succ _, fun s below missing => ?_, fun s left survey stored => ?_⟩, fun ready s left => ?_⟩
  · rw [found, if_neg (by omega), missing]
  · obtain ⟨_, before, _⟩ := id left
    rw [found, if_neg (Nat.ne_of_lt (Table.lt_next before))] at stored
    exact ⟨((Later.refl db).frozen s left survey stored).1, rfl, rfl⟩
  · obtain ⟨survey, stored, notDraft⟩ := left
    rw [found] at stored
    split at stored
    · cases stored
      exact absurd draft notDraft
    · exact ready s ⟨survey, stored, notDraft⟩

/-- A transition moves one step forward, to `published` only when the survey is ready. -/
theorem later_transition {survey : Survey} {status : SurveyStatus}
    (stored : db.surveys.get survey.id = some survey) (accepted : checkTransition db survey status = .ok ()) :
    Later db (db.setStatus survey.id status) ∧ (Ready db → Ready (db.setStatus survey.id status)) := by
  obtain ⟨forward, publishable⟩ := checkTransition_eq_ok.mp accepted
  have found : ∀ s, (db.setStatus survey.id status).surveys.get s =
      if s = survey.id then some (survey.withStatus status) else db.surveys.get s := by
    intro s
    rw [Database.setStatus, Table.get_modify]
    split
    · rename_i same
      rw [same, stored]
      rfl
    · rfl
  have notDraft : status ≠ .draft := by
    intro same
    subst same
    simp [SurveyStatus.rank] at forward
  refine ⟨⟨Nat.le_refl _, fun s _ missing => ?_, fun s left other stored' => ?_⟩, fun ready s left => ?_⟩
  · rw [found, if_neg, missing]
    intro same
    subst same
    rw [stored] at missing
    cases missing
  · refine ⟨?_, rfl, rfl⟩
    rw [found] at stored'
    split at stored'
    · cases stored'
      exact notDraft
    · exact ((Later.refl db).frozen s left other stored').1
  · obtain ⟨other, stored', left⟩ := left
    rw [found] at stored'
    split at stored'
    · rename_i same
      subst same
      -- published now, or archived after having been published
      cases status with
      | draft => exact absurd rfl notDraft
      | published => exact publishable rfl
      | archived =>
        refine ready survey.id ⟨survey, stored, fun draft => ?_⟩
        rw [draft] at forward
        cases forward
    · exact ready s ⟨other, stored', left⟩

theorem later_saveSurvey {row old : Survey} (stored : db.surveys.get row.id = some old)
    (sameStatus : row.status = old.status) :
    let db' := { db with surveys := db.surveys.save row }
    Later db db' ∧ (Ready db → Ready db') := by
  intro db'
  have sameNext : db'.surveys.next = db.surveys.next := Table.next_save_of_get stored
  have found : ∀ s, db'.surveys.get s = if s = row.id then some row else db.surveys.get s :=
    db.surveys.get_save row
  -- saving keeps every status, so what had left draft still has
  have before : ∀ s survey, db'.surveys.get s = some survey →
      ∃ other, db.surveys.get s = some other ∧ survey.status = other.status := by
    intro s survey stored'
    rw [found] at stored'
    split at stored'
    · rename_i same
      cases stored'
      exact ⟨old, same ▸ stored, sameStatus⟩
    · exact ⟨survey, stored', rfl⟩
  refine ⟨⟨Nat.le_of_eq sameNext.symm, fun s _ missing => ?_, fun s left survey stored' => ?_⟩, fun ready s left => ?_⟩
  · rw [found, if_neg, missing]
    intro same
    subst same
    rw [stored] at missing
    cases missing
  · obtain ⟨other, foundOther, same⟩ := before s survey stored'
    exact ⟨same ▸ ((Later.refl db).frozen s left other foundOther).1, rfl, rfl⟩
  · obtain ⟨survey, stored', notDraft⟩ := left
    obtain ⟨other, foundOther, same⟩ := before s survey stored'
    exact ready s ⟨other, foundOther, same ▸ notDraft⟩

theorem later_deleteSurvey (t : Nat) : Later db (db.deleteSurvey t) ∧ (Ready db → Ready (db.deleteSurvey t)) := by
  have before : ∀ s survey, (db.deleteSurvey t).surveys.get s = some survey →
      db.surveys.get s = some survey ∧ s ≠ t := by
    intro s survey stored
    obtain ⟨stored, kept⟩ := Option.filter_eq_some_iff.mp stored
    have sameKey : survey.id = s := db.surveys.keyed s survey stored
    exact ⟨stored, by simpa [sameKey] using kept⟩
  refine ⟨⟨Nat.le_refl _, fun s _ missing => ?_, fun s left survey stored => ?_⟩, fun ready s left => ?_⟩
  · show (db.surveys.get s).filter _ = none
    rw [missing, Option.filter_none]
  · obtain ⟨stored', different⟩ := before s survey stored
    exact ⟨((Later.refl db).frozen s left survey stored').1, same_deleteSurvey different⟩
  · obtain ⟨survey, stored, notDraft⟩ := left
    obtain ⟨stored', different⟩ := before s survey stored
    exact (same_deleteSurvey different).publishable (ready s ⟨survey, stored', notDraft⟩)

theorem Effect.later (effect : Effect db db') : Later db db' ∧ (Ready db → Ready db') := by
  cases effect with
  | createSurvey draft => exact later_createSurvey draft
  | transition stored accepted => exact later_transition stored accepted
  | saveSurvey stored sameStatus => exact later_saveSurvey stored sameStatus
  | deleteSurvey surveyId => exact later_deleteSurvey surveyId
  | createSection draft => exact later_of_edit rfl fun s left => later_createSection draft left
  | updateSection data stored draft => exact later_of_edit rfl fun s left => later_updateSection data stored draft left
  | deleteSection stored draft => exact later_of_edit rfl fun s left => later_deleteSection draft stored left
  | createField stored draft => exact later_of_edit rfl fun s left => later_createField stored draft left
  | updateField data stored draft => exact later_of_edit rfl fun s left => later_updateField data stored draft left
  | deleteField stored draft => exact later_of_edit rfl fun s left => later_deleteField stored draft left
  -- sections and fields are the same tables
  | elsewhere surveys sections fields =>
    refine later_of_edit surveys fun s _ => SameStructure.of_agree (fun _ _ _ => ?_) fun _ _ _ => ?_
    · rw [sections]
    · rw [fields]

end Effects

/-! ## Runs -/

/-- Any number of effects. -/
theorem effects_later {db db' : Database} (effects : ReflTransGen Effect db db') :
    Later db db' ∧ (Ready db → Ready db') := by
  induction effects with
  | refl => exact ⟨Later.refl _, id⟩
  | tail _ effect inductionHypothesis =>
    obtain ⟨later, ready⟩ := inductionHypothesis
    exact ⟨Later.trans _ _ _ later effect.later.1, effect.later.2 ∘ ready⟩

theorem ready_empty : Ready World.empty.db := by
  intro s holds
  obtain ⟨survey, stored, _⟩ := holds
  cases stored

/-- As long as a survey that left draft is stored, its sections and fields are the same rows. -/
def Frozen (earlier later : World) : Prop :=
  ∀ s, LeftDraft earlier.db s → (later.db.surveys.get s).isSome = true → SameStructure earlier.db later.db s

/-- In every run of API calls from the empty database, at every moment each survey
that left draft has a section and a field in each section, and between any two
moments its structure is frozen. -/
theorem structure_frozen (py : Interpreter) (calls : List Call) :
    (∀ w ∈ trace (handle py) World.empty calls, ∀ s, LeftDraft w.db s → Publishable w.db s) ∧
      (trace (handle py) World.empty calls).Pairwise Frozen := by
  constructor
  · exact trace_invariant (fun w call ready => (effects_later (handle_effects py w call)).2 ready) ready_empty calls
  · have transitive : ∀ a b c : World, Later a.db b.db → Later b.db c.db → Later a.db c.db :=
      fun a b c => Later.trans a.db b.db c.db
    have later := (pairwise_trace_iff transitive World.empty calls).mpr
      (along_of_forall (fun w call => (effects_later (handle_effects py w call)).1) _ _)
    apply later.imp
    intro _ _ step s left stored
    obtain ⟨survey, found⟩ := Option.isSome_iff_exists.mp stored
    exact (step.frozen s left survey found).2

end SurveyPlatform.Verified

import SurveyPlatform.Surveys.Admin
import SurveyPlatform.Verified.StructureFreeze
import SurveyPlatform.Verified.SurveyDetails

/-! # What an inline formset does to other surveys

`formset.save()` writes rows of its parent and deletes others, with all that
names them.  Turn by turn, the rows of another survey stay the same exactly when
no rule and no dependency of it names a deleted row.
-/

namespace SurveyPlatform.Verified

open SurveyPlatform.Library SurveyPlatform.Library.Program SurveyPlatform.Python SurveyPlatform.Surveys

/-! ## The rows of a survey -/

/-- The survey has the same sections, fields, rules and dependencies, whatever became of its own row. -/
def SameRows (db db' : Database) (surveyId : Nat) : Prop := SameDetail db { db' with surveys := db.surveys } surveyId

/-- So has every survey that is stored and no draft. -/
def KeepsFrozen (db db' : Database) : Prop := ∀ s, LeftDraft db s → SameRows db db' s

section Rows

variable {db db' db'' : Database} {s : Nat}

theorem SameRows.refl (db : Database) (s : Nat) : SameRows db db s := SameDetail.refl db s

theorem SameDetail.sameRows (same : SameDetail db db' s) : SameRows db db' s :=
  ⟨rfl, same.sections, same.fields, same.conditionalRules, same.fieldDependencies⟩

theorem SameRows.trans (first : SameRows db db' s) (second : SameRows db' db'' s) : SameRows db db'' s := by
  have later : SameDetail { db' with surveys := db.surveys } { db'' with surveys := db.surveys } s :=
    ⟨rfl, second.sections, second.fields, second.conditionalRules, second.fieldDependencies⟩
  exact SameDetail.trans first later

theorem keepsFrozen_refl (db : Database) : KeepsFrozen db db := fun s _ => SameRows.refl db s

theorem SameRows.section_iff (same : SameRows db db' s) {id : Nat} {row : Section} (inSurvey : row.surveyId = s) :
    db'.sections.get id = some row ↔ db.sections.get id = some row :=
  eq_some_iff_of_filter (same.sections id) (decide_eq_true inSurvey)

theorem SameRows.field_iff (same : SameRows db db' s) {id : Nat} {row : Field} {parent : Section}
    (stored : db.sections.get row.sectionId = some parent) (inSurvey : parent.surveyId = s) :
    db'.fields.get id = some row ↔ db.fields.get id = some row := by
  have sameKey : parent.id = row.sectionId := db.sections.keyed _ parent stored
  exact eq_some_iff_of_filter (same.fields parent (sameKey ▸ stored) inSurvey id) (decide_eq_true sameKey.symm)

theorem SameRows.rule_iff (same : SameRows db db' s) {id : Nat} {row : ConditionalRule} (inSurvey : row.surveyId = s) :
    db'.conditionalRules.get id = some row ↔ db.conditionalRules.get id = some row :=
  eq_some_iff_of_filter (same.conditionalRules id) (decide_eq_true inSurvey)

theorem SameRows.dependency_iff (same : SameRows db db' s) {id : Nat} {row : FieldDependency} (inSurvey : row.surveyId = s) :
    db'.fieldDependencies.get id = some row ↔ db.fieldDependencies.get id = some row :=
  eq_some_iff_of_filter (same.fieldDependencies id) (decide_eq_true inSurvey)

/-! ## One row written -/

theorem sameRows_sectionSave {row : Section} (elsewhere : row.surveyId ≠ s)
    (other : ∀ old, db.sections.get row.id = some old → old.surveyId ≠ s) :
    SameRows db { db with sections := db.sections.save row } s :=
  (SameDetail.of_sections (Table.filter_get_save (decide_eq_false elsewhere)
    fun old stored => decide_eq_false (other old stored))).sameRows

theorem sameRows_fieldSave {row : Field}
    (elsewhere : ∀ parent, db.sections.get row.sectionId = some parent → parent.surveyId ≠ s)
    (other : ∀ old, db.fields.get row.id = some old → ∀ parent, db.sections.get old.sectionId = some parent →
      parent.surveyId ≠ s) : SameRows db { db with fields := db.fields.save row } s := by
  refine (SameDetail.of_fields fun parent stored inSurvey => ?_).sameRows
  apply Table.filter_get_save
  · exact decide_eq_false fun inSection =>
      elsewhere parent ((show row.sectionId = parent.id from inSection) ▸ stored) inSurvey
  · exact fun old found => decide_eq_false fun inSection =>
      other old found parent ((show old.sectionId = parent.id from inSection) ▸ stored) inSurvey

theorem sameRows_ruleSave {row : ConditionalRule} (elsewhere : row.surveyId ≠ s)
    (other : ∀ old, db.conditionalRules.get row.id = some old → old.surveyId ≠ s) :
    SameRows db { db with conditionalRules := db.conditionalRules.save row } s :=
  (SameDetail.of_conditionalRules (Table.filter_get_save (decide_eq_false elsewhere)
    fun old stored => decide_eq_false (other old stored))).sameRows

theorem sameRows_dependencySave {row : FieldDependency} (elsewhere : row.surveyId ≠ s)
    (other : ∀ old, db.fieldDependencies.get row.id = some old → old.surveyId ≠ s) :
    SameRows db { db with fieldDependencies := db.fieldDependencies.save row } s :=
  (SameDetail.of_fieldDependencies (Table.filter_get_save (decide_eq_false elsewhere)
    fun old stored => decide_eq_false (other old stored))).sameRows

/-- A survey that left draft is another one than a draft. -/
theorem LeftDraft.ne_of_draft {t : Nat} (left : LeftDraft db s) (draft : IsDraft db t) : t ≠ s :=
  (left.ne draft).symm

end Rows

/-! ## Inlines -/

/-- The form saves, adds or deletes a row. -/
def TakesEffect {α : Type} [Keyed α] (form : InlineForm α) : Prop :=
  form.hasChanged = true ∧ (form.initial = none → form.delete = false)

/-- The row that the form deletes. -/
def Deletes {α : Type} [Keyed α] (form : InlineForm α) (row : α) : Prop := form.initial = some row ∧ form.delete = true

section Turns

variable {α : Type} [Keyed α] {inline : Inline α} {parentId : Nat} {db db' : Database} {form : InlineForm α}

/-- What a turn of `save_existing_objects` does. -/
theorem saveExisting_cases (result : inline.saveExisting parentId db form = .ok db') :
    db' = db ∧ (form.initial = none ∨ form.hasChanged = false) ∨
    (∃ row, Deletes form row ∧ db' = inline.delete (key row) db) ∨
    ∃ row, form.initial = some row ∧ form.delete = false ∧ form.hasChanged = true ∧
      db' = inline.model.store db ((inline.model.table db).save (inline.withParent form.obj parentId)) := by
  unfold Inline.saveExisting at result
  cases opened : form.initial with
  | none =>
    simp only [opened, Option.isNone_none, if_true, Except.ok.injEq] at result
    exact Or.inl ⟨result.symm, Or.inl rfl⟩
  | some row =>
    rw [opened, form.sameKey row opened] at result
    simp only [Option.isNone_some, Bool.false_eq_true, if_false] at result
    cases deletes : form.delete with
    | true =>
      rw [deletes, if_pos rfl, Except.ok.injEq] at result
      exact Or.inr (Or.inl ⟨row, ⟨opened, deletes⟩, result.symm⟩)
    | false =>
      rw [deletes, if_neg Bool.false_ne_true] at result
      cases changed : form.hasChanged with
      | true =>
        rw [changed, if_pos rfl, Inline.write, bind_eq_ok] at result
        obtain ⟨_, _, written⟩ := result
        cases written
        exact Or.inr (Or.inr ⟨row, rfl, rfl, rfl, rfl⟩)
      | false =>
        rw [changed, if_neg Bool.false_ne_true, Except.ok.injEq] at result
        exact Or.inl ⟨result.symm, Or.inr rfl⟩

/-- What a turn of `save_new_objects` does. -/
theorem saveNew_cases (result : inline.saveNew parentId db form = .ok db') :
    db' = db ∧ (form.initial = none → form.hasChanged = true → form.delete = true) ∨
    TakesEffect form ∧ db' = inline.model.store db ((inline.model.table db).save
      (inline.withId (inline.withParent form.obj parentId) (inline.model.table db).next)) := by
  unfold Inline.saveNew at result
  split at result
  · rename_i skipped
    cases result
    refine Or.inl ⟨rfl, fun new changed => ?_⟩
    simpa [new, changed] using skipped
  · rename_i notSkipped
    simp only [Bool.or_eq_true, not_or, Bool.not_eq_true', Bool.not_eq_true] at notSkipped
    obtain ⟨⟨_, changed⟩, kept⟩ := notSkipped
    rw [Inline.write, bind_eq_ok] at result
    obtain ⟨_, _, written⟩ := result
    cases written
    exact Or.inr ⟨⟨by simpa using changed, fun _ => kept⟩, rfl⟩

theorem saveFormset_ok_iff {formset : Formset α} : inline.saveFormset parentId formset db = .ok db' ↔
    ∃ between, formset.forms.foldlM (inline.saveExisting parentId) db = .ok between ∧
      formset.forms.foldlM (inline.saveNew parentId) between = .ok db' :=
  bind_eq_ok

/-- A formset none of whose forms takes effect changes nothing. -/
theorem eq_of_noEffect {formset : Formset α} (result : inline.saveFormset parentId formset db = .ok db')
    (noEffect : ∀ form ∈ formset.forms, ¬ TakesEffect form) : db' = db := by
  obtain ⟨between, existing, new⟩ := saveFormset_ok_iff.mp result
  have sameBetween : between = db := by
    refine @foldlM_invariant _ _ _ _ (fun cur => cur = db) _ (fun form member cur next same turn => ?_) _ _ rfl existing
    have isNone := noEffect form member
    obtain ⟨rfl, _⟩ | ⟨row, deletes, _⟩ | ⟨row, opened, _, changed, _⟩ := saveExisting_cases turn
    · exact same
    · exact absurd ⟨form.changed_of_delete deletes.2, fun isNew => absurd (deletes.1.symm.trans isNew) nofun⟩ isNone
    · exact absurd ⟨changed, fun isNew => absurd (opened.symm.trans isNew) nofun⟩ isNone
  subst sameBetween
  refine @foldlM_invariant _ _ _ _ (fun cur => cur = between) _ (fun form member cur next same turn => ?_) _ _ rfl new
  obtain ⟨rfl, _⟩ | ⟨effect, _⟩ := saveNew_cases turn
  · exact same
  · exact absurd effect (noEffect form member)

/-- Two forms of a formset never write the same row. -/
theorem distinct_of_split {formset : Formset α} {before after : List (InlineForm α)} {row : α}
    (split : formset.forms = before ++ form :: after) (opened : form.initial = some row) :
    ∀ other, other ∈ before ∨ other ∈ after → ∀ otherRow, other.initial = some otherRow → key otherRow ≠ key row := by
  have distinct := formset.distinct
  rw [split, List.filterMap_append, List.filterMap_cons, opened, List.map_append, List.map_cons, List.nodup_append,
    List.nodup_cons] at distinct
  obtain ⟨_, ⟨notAfter, _⟩, apart⟩ := distinct
  intro other member otherRow otherOpened sameKey
  have listed : ∀ forms : List (InlineForm α), other ∈ forms →
      key otherRow ∈ (forms.filterMap fun form => form.initial).map key := by
    intro forms isForm
    exact List.mem_map_of_mem (List.mem_filterMap.mpr ⟨other, isForm, otherOpened⟩)
  obtain isBefore | isAfter := member
  · exact apart _ (listed before isBefore) _ List.mem_cons_self sameKey
  · exact notAfter (sameKey ▸ listed after isAfter)

end Turns

/-- A formset only takes rules and dependencies away. -/
structure RulesShrink (db db' : Database) : Prop where
  rules : ∀ id rule, db'.conditionalRules.get id = some rule → db.conditionalRules.get id = some rule
  dependencies : ∀ id dep, db'.fieldDependencies.get id = some dep → db.fieldDependencies.get id = some dep

section Shrink

variable {α : Type} [Keyed α] {inline : Inline α} {parentId : Nat} {db db' : Database} {formset : Formset α}

theorem RulesShrink.refl (db : Database) : RulesShrink db db := ⟨fun _ _ => id, fun _ _ => id⟩

theorem RulesShrink.trans {between : Database} (first : RulesShrink db between) (second : RulesShrink between db') :
    RulesShrink db db' :=
  ⟨fun id rule found => first.rules id rule (second.rules id rule found),
    fun id dep found => first.dependencies id dep (second.dependencies id dep found)⟩

theorem rulesShrink_deleteFields (db : Database) (gone : Nat → Bool) : RulesShrink db (db.deleteFields gone) :=
  ⟨fun _ _ found => (Option.filter_eq_some_iff.mp found).1, fun _ _ found => (Option.filter_eq_some_iff.mp found).1⟩

theorem rulesShrink_deleteSections (db : Database) (gone : Nat → Bool) : RulesShrink db (db.deleteSections gone) := by
  refine (rulesShrink_deleteFields db (fieldsIn db gone)).trans ⟨fun id rule found => ?_, fun _ _ found => found⟩
  exact (Option.filter_eq_some_iff.mp found).1

theorem rulesShrink_fold {step : Database → InlineForm α → Except PyExn Database}
    (turns : ∀ form cur next, step cur form = .ok next → RulesShrink cur next) {forms : List (InlineForm α)}
    (result : forms.foldlM step db = .ok db') : RulesShrink db db' :=
  @foldlM_invariant _ _ _ _ (fun cur => RulesShrink db cur) _
    (fun form _ cur next kept turn => kept.trans (turns form cur next turn)) _ _ (RulesShrink.refl db) result

/-- The deletion of a form, among the other turns of the loops. -/
theorem saveFormset_deletes (stores : ∀ cur rows, RulesShrink cur (inline.model.store cur rows))
    (deletes : ∀ cur id, RulesShrink cur (inline.delete id cur))
    (result : inline.saveFormset parentId formset db = .ok db') {form : InlineForm α} (member : form ∈ formset.forms)
    {row : α} (isDeleted : Deletes form row) : ∃ before after u, formset.forms = before ++ form :: after ∧
      before.foldlM (inline.saveExisting parentId) db = .ok u ∧ RulesShrink (inline.delete (key row) u) db' := by
  obtain ⟨between, existing, new⟩ := saveFormset_ok_iff.mp result
  obtain ⟨before, after, u, v, split, first, turn, rest⟩ := foldlM_turn member existing
  have deleted : v = inline.delete (key row) u := by
    obtain ⟨_, isNew | unchanged⟩ | ⟨other, isOther, rfl⟩ | ⟨_, _, kept, _⟩ := saveExisting_cases turn
    · rw [isDeleted.1] at isNew
      cases isNew
    · rw [form.changed_of_delete isDeleted.2] at unchanged
      cases unchanged
    · have sameRow := isDeleted.1.symm.trans isOther.1
      cases sameRow
      rfl
    · rw [isDeleted.2] at kept
      cases kept
  refine ⟨before, after, u, split, first, deleted ▸ (rulesShrink_fold (fun form cur next turn => ?_) rest).trans
    (rulesShrink_fold (fun form cur next turn => ?_) new)⟩
  · obtain ⟨rfl, _⟩ | ⟨_, _, rfl⟩ | ⟨_, _, _, _, rfl⟩ := saveExisting_cases turn
    · exact RulesShrink.refl _
    · exact deletes cur _
    · exact stores cur _
  · obtain ⟨rfl, _⟩ | ⟨_, rfl⟩ := saveNew_cases turn
    · exact RulesShrink.refl _
    · exact stores cur _

end Shrink

/-! ## Sections of a survey -/

section SectionInlines

variable {db db' : Database} {formset : Formset Section} {pk s : Nat}

/-- The forms are opened on stored sections of the survey. -/
def SectionsOpened (db : Database) (pk : Nat) (formset : Formset Section) : Prop :=
  ∀ form ∈ formset.forms, ∀ row, form.initial = some row →
    db.sections.get row.id = some row ∧ row.surveyId = pk ∧ form.obj.surveyId = pk

/-- The rows of another survey are kept, and no field is written. -/
structure KeptBySections (db cur : Database) (s : Nat) : Prop where
  same : SameRows db cur s
  fields : ∀ id field, cur.fields.get id = some field → db.fields.get id = some field

/-- What a deletion would take, seen from the database before the loop. -/
theorem Unreferenced.of_kept {cur : Database} {gone : Nat → Bool} (kept : KeptBySections db cur s)
    (unreferenced : Unreferenced db gone (fieldsIn db gone) s) : Unreferenced cur gone (fieldsIn cur gone) s := by
  have fewer : ∀ id, fieldsIn db gone id = false → fieldsIn cur gone id = false := by
    intro id notGone
    cases found : cur.fields.get id with
    | none => rw [fieldsIn, found, Option.any_none]
    | some field =>
      rw [fieldsIn, kept.fields id field found] at notGone
      rw [fieldsIn, found]
      exact notGone
  constructor
  · intro id rule stored inSurvey
    have before := unreferenced.rules id rule ((kept.same.rule_iff inSurvey).mp stored) inSurvey
    simp only [Bool.or_eq_false_iff] at before ⊢
    obtain ⟨notSection, notTarget, notSource⟩ := before
    refine ⟨notSection, ?_, fewer _ notSource⟩
    cases target : rule.targetFieldId with
    | none => rfl
    | some id =>
      rw [target] at notTarget
      exact fewer id notTarget
  · intro id dep stored inSurvey
    have before := unreferenced.dependencies id dep ((kept.same.dependency_iff inSurvey).mp stored) inSurvey
    rw [Bool.or_eq_false_iff] at before ⊢
    exact ⟨fewer _ before.1, fewer _ before.2⟩

theorem kept_saveSection {cur : Database} {row : Section} (kept : KeptBySections db cur s) (elsewhere : row.surveyId ≠ s)
    (other : ∀ old, cur.sections.get row.id = some old → old.surveyId ≠ s) :
    KeptBySections db { cur with sections := cur.sections.save row } s :=
  ⟨kept.same.trans (sameRows_sectionSave elsewhere other), kept.fields⟩

/-- The formset of another survey keeps the rows of this one, if it names none of those that go. -/
theorem sameRows_saveSections (different : pk ≠ s) (opened : SectionsOpened db pk formset)
    (unnamed : ∀ form ∈ formset.forms, ∀ row, Deletes form row →
      Unreferenced db (· == row.id) (fieldsIn db (· == row.id)) s)
    (result : sectionInline.saveFormset pk formset db = .ok db') : SameRows db db' s := by
  obtain ⟨between, existing, new⟩ := saveFormset_ok_iff.mp result
  have start : KeptBySections db db s := ⟨SameRows.refl db s, fun _ _ => id⟩
  -- a section opened by the formset belongs to its survey, so what is stored under its key is none of this one
  have other : ∀ form ∈ formset.forms, ∀ row, form.initial = some row → ∀ cur, KeptBySections db cur s →
      ∀ old, cur.sections.get row.id = some old → old.surveyId ≠ s := by
    intro form member row isOpened cur kept old found inSurvey
    obtain ⟨stored, inParent, _⟩ := opened form member row isOpened
    have before := (kept.same.section_iff inSurvey).mp found
    rw [stored, Option.some.injEq] at before
    exact different (inParent ▸ before ▸ inSurvey)
  have keptBetween : KeptBySections db between s := by
    refine @foldlM_invariant _ _ _ _ (fun cur => KeptBySections db cur s) _
      (fun form member cur next kept turn => ?_) _ _ start existing
    obtain ⟨rfl, _⟩ | ⟨row, deletes, rfl⟩ | ⟨row, isOpened, _, _, rfl⟩ := saveExisting_cases turn
    · exact kept
    · refine ⟨kept.same.trans (SameDetail.sameRows ?_), fun id field found => ?_⟩
      · exact sameDetail_deleteSection (Unreferenced.of_kept kept (unnamed form member row deletes))
          (other form member row deletes.1 cur kept)
      · exact kept.fields id field (Option.filter_eq_some_iff.mp found).1
    · have sameKey : form.obj.id = row.id := form.sameKey row isOpened
      refine kept_saveSection kept different fun old found => ?_
      exact other form member row isOpened cur kept old (sameKey ▸ found)
  refine (@foldlM_invariant _ _ _ _ (fun cur => KeptBySections db cur s) _
    (fun form _ cur next kept turn => ?_) _ _ keptBetween new).same
  obtain ⟨rfl, _⟩ | ⟨_, rfl⟩ := saveNew_cases turn
  · exact kept
  · refine kept_saveSection kept different fun old found => ?_
    -- nothing is stored under the next key
    exact absurd (found.symm.trans cur.sections.get_next) (Option.some_ne_none old)

/-- A survey that kept its rows named none of the sections that went. -/
theorem unreferenced_of_sameSections (result : sectionInline.saveFormset pk formset db = .ok db')
    (same : SameRows db db' s) {form : InlineForm Section} (member : form ∈ formset.forms) {row : Section}
    (deletes : Deletes form row) : Unreferenced db (· == row.id) (fieldsIn db (· == row.id)) s := by
  obtain ⟨before, after, u, split, first, shrinks⟩ :=
    saveFormset_deletes (fun _ _ => ⟨fun _ _ => id, fun _ _ => id⟩) (fun cur id => rulesShrink_deleteSections cur (· == id)) result member deletes
  -- the turns before are about other sections, so the fields of this one are all there
  have present : ∀ id field, db.fields.get id = some field → field.sectionId = row.id → u.fields.get id = some field := by
    intro id field found inSection
    refine @foldlM_invariant _ _ _ _ (fun cur => cur.fields.get id = some field) _
      (fun other isBefore cur next kept otherTurn => ?_) _ _ found first
    obtain ⟨rfl, _⟩ | ⟨otherRow, isOther, rfl⟩ | ⟨_, _, _, _, rfl⟩ := saveExisting_cases otherTurn
    · exact kept
    · have different : otherRow.id ≠ row.id :=
        distinct_of_split split deletes.1 other (Or.inl isBefore) otherRow isOther.1
      have sameKey : field.id = id := db.fields.keyed id field found
      refine Option.filter_eq_some_iff.mpr ⟨kept, ?_⟩
      beta_reduce
      rw [sameKey, kept, Option.any_some, inSection, Bool.not_eq_true', beq_eq_false_iff_ne]
      exact different.symm
    · exact kept
  have more : ∀ id, fieldsIn u (· == row.id) id = false → fieldsIn db (· == row.id) id = false := by
    intro id notGone
    cases found : db.fields.get id with
    | none => rw [fieldsIn, found, Option.any_none]
    | some field =>
      rw [fieldsIn, found, Option.any_some, beq_eq_false_iff_ne]
      intro inSection
      rw [fieldsIn, present id field found inSection, Option.any_some, inSection, beq_self_eq_true] at notGone
      cases notGone
  constructor
  · intro id rule stored inSurvey
    have left := shrinks.rules id rule ((same.rule_iff inSurvey).mpr stored)
    obtain ⟨byFields, notSection⟩ := Option.filter_eq_some_iff.mp left
    obtain ⟨_, notFields⟩ := Option.filter_eq_some_iff.mp byFields
    simp only [Bool.not_eq_true', Bool.or_eq_false_iff] at notSection notFields ⊢
    refine ⟨notSection, ?_, more _ notFields.2⟩
    cases target : rule.targetFieldId with
    | none => rfl
    | some id =>
      rw [target] at notFields
      exact more id notFields.1
  · intro id dep stored inSurvey
    have left := shrinks.dependencies id dep ((same.dependency_iff inSurvey).mpr stored)
    obtain ⟨_, notFields⟩ := Option.filter_eq_some_iff.mp left
    simp only [Bool.not_eq_true', Bool.or_eq_false_iff] at notFields ⊢
    exact ⟨more _ notFields.1, more _ notFields.2⟩

/-- What a turn does to the section under another key. -/
theorem saveExisting_keeps {form : InlineForm Section} {k : Nat} (turn : sectionInline.saveExisting pk db form = .ok db')
    (other : ∀ row, form.initial = some row → row.id ≠ k) :
    db'.sections.get k = db.sections.get k ∧ db.sections.next ≤ db'.sections.next := by
  obtain ⟨rfl, _⟩ | ⟨row, deletes, rfl⟩ | ⟨row, opened, _, _, rfl⟩ := saveExisting_cases turn
  · exact ⟨rfl, Nat.le_refl _⟩
  · refine ⟨?_, Nat.le_refl _⟩
    show (db.sections.get k).filter _ = _
    cases stored : db.sections.get k with
    | none => rfl
    | some old =>
      have sameKey : old.id = k := db.sections.keyed k old stored
      have different : old.id ≠ row.id := fun same => other row deletes.1 (same.symm.trans sameKey)
      exact Option.filter_some_pos (by simpa using different)
  · have sameKey : form.obj.id = row.id := form.sameKey row opened
    have different : k ≠ form.obj.id := fun same => other row opened (sameKey.symm.trans same.symm)
    exact ⟨(Table.get_save _ _ _).trans (if_neg different), Nat.le_max_left _ _⟩

theorem saveNew_keeps {form : InlineForm Section} {k : Nat} (turn : sectionInline.saveNew pk db form = .ok db')
    (used : k < db.sections.next) : db'.sections.get k = db.sections.get k ∧ db.sections.next ≤ db'.sections.next := by
  obtain ⟨rfl, _⟩ | ⟨_, rfl⟩ := saveNew_cases turn
  · exact ⟨rfl, Nat.le_refl _⟩
  · exact ⟨(Table.get_save _ _ _).trans (if_neg (Nat.ne_of_lt used)), Nat.le_max_left _ _⟩

theorem saveExisting_fold_keeps {forms : List (InlineForm Section)} {k : Nat}
    (result : forms.foldlM (sectionInline.saveExisting pk) db = .ok db')
    (other : ∀ form ∈ forms, ∀ row, form.initial = some row → row.id ≠ k) :
    db'.sections.get k = db.sections.get k ∧ db.sections.next ≤ db'.sections.next := by
  refine @foldlM_invariant _ _ _ _
    (fun cur => cur.sections.get k = db.sections.get k ∧ db.sections.next ≤ cur.sections.next) _
    (fun form member cur next kept turn => ?_) _ _ ⟨rfl, Nat.le_refl _⟩ result
  have later := saveExisting_keeps turn (other form member)
  exact ⟨later.1.trans kept.1, kept.2.trans later.2⟩

theorem saveNew_fold_keeps {forms : List (InlineForm Section)} {k : Nat}
    (result : forms.foldlM (sectionInline.saveNew pk) db = .ok db') (used : k < db.sections.next) :
    db'.sections.get k = db.sections.get k ∧ db.sections.next ≤ db'.sections.next := by
  refine @foldlM_invariant _ _ _ _
    (fun cur => cur.sections.get k = db.sections.get k ∧ db.sections.next ≤ cur.sections.next) _
    (fun form _ cur next kept turn => ?_) _ _ ⟨rfl, Nat.le_refl _⟩ result
  have later := saveNew_keeps turn (Nat.lt_of_lt_of_le used kept.2)
  exact ⟨later.1.trans kept.1, kept.2.trans later.2⟩

/-- A changed section is replaced or deleted, for good. -/
theorem replaced_of_changed (opened : SectionsOpened db pk formset)
    (result : sectionInline.saveFormset pk formset db = .ok db') {form : InlineForm Section}
    (member : form ∈ formset.forms) (changed : form.hasChanged = true) {row : Section} (isOpened : form.initial = some row) :
    db'.sections.get row.id ≠ some row := by
  obtain ⟨between, existing, new⟩ := saveFormset_ok_iff.mp result
  obtain ⟨stored, inSurvey, inSurvey'⟩ := opened form member row isOpened
  obtain ⟨before, after, u, v, split, first, turn, rest⟩ := foldlM_turn member existing
  have apart := distinct_of_split split isOpened
  have firstKeeps := saveExisting_fold_keeps first fun other isBefore => apart other (Or.inl isBefore)
  have restKeeps : between.sections.get row.id = v.sections.get row.id ∧ v.sections.next ≤ between.sections.next :=
    saveExisting_fold_keeps rest fun other isAfter => apart other (Or.inr isAfter)
  have replaced : v.sections.get row.id ≠ some row ∧ u.sections.next ≤ v.sections.next := by
    obtain ⟨_, isNew | unchanged⟩ | ⟨other, deletes, rfl⟩ | ⟨_, _, kept, _, rfl⟩ := saveExisting_cases turn
    · rw [isOpened] at isNew
      cases isNew
    · rw [changed] at unchanged
      cases unchanged
    · have sameRow := isOpened.symm.trans deletes.1
      cases sameRow
      refine ⟨fun found => ?_, Nat.le_refl _⟩
      have stays := (Option.filter_eq_some_iff.mp found).2
      simp at stays
    · have sameKey : form.obj.id = row.id := form.sameKey row isOpened
      have different : form.obj ≠ row := (form.changed_iff row isOpened kept).mp changed
      refine ⟨fun found => ?_, Nat.le_max_left _ _⟩
      have written := ((Table.get_save _ _ _).trans (if_pos sameKey.symm)).symm.trans found
      have sameObj : ({ form.obj with surveyId := pk } : Section) = form.obj := by
        rw [← inSurvey']
      exact different (sameObj.symm.trans (Option.some.inj written))
  have used : row.id < between.sections.next := by
    have below := Table.lt_next stored
    omega
  rw [(saveNew_fold_keeps new used).1, restKeeps.1]
  exact replaced.1

/-- A new section of the survey is stored under a key that was never used. -/
theorem added_of_new (result : sectionInline.saveFormset pk formset db = .ok db') {form : InlineForm Section}
    (member : form ∈ formset.forms) (changed : form.hasChanged = true) (isNew : form.initial = none)
    (kept : form.delete = false) :
    ∃ row, row.surveyId = pk ∧ db'.sections.get row.id = some row ∧ db.sections.get row.id = none := by
  obtain ⟨between, existing, new⟩ := saveFormset_ok_iff.mp result
  obtain ⟨before, after, u, v, _, first, turn, rest⟩ := foldlM_turn member new
  have existingGrows : db.sections.next ≤ between.sections.next := by
    refine @foldlM_invariant _ _ _ _ (fun cur => db.sections.next ≤ cur.sections.next) _
      (fun form _ cur next below turn => ?_) _ _ (Nat.le_refl _) existing
    obtain ⟨rfl, _⟩ | ⟨_, _, rfl⟩ | ⟨_, _, _, _, rfl⟩ := saveExisting_cases turn
    · exact below
    · exact below
    · exact below.trans (Nat.le_max_left _ _)
  have newGrows : between.sections.next ≤ u.sections.next := by
    refine @foldlM_invariant _ _ _ _ (fun cur => between.sections.next ≤ cur.sections.next) _
      (fun form _ cur next below turn => ?_) _ _ (Nat.le_refl _) first
    obtain ⟨rfl, _⟩ | ⟨_, rfl⟩ := saveNew_cases turn
    · exact below
    · exact below.trans (Nat.le_max_left _ _)
  obtain ⟨_, skipped⟩ | ⟨_, rfl⟩ := saveNew_cases turn
  · rw [skipped isNew changed] at kept
    cases kept
  · refine ⟨Section.withId { form.obj with surveyId := pk } u.sections.next, rfl, ?_, ?_⟩
    · have stays := saveNew_fold_keeps rest ((Nat.lt_succ_self u.sections.next).trans_le (Nat.le_max_right _ _))
      exact stays.1.trans ((Table.get_save _ _ _).trans (if_pos rfl))
    · exact db.sections.fresh u.sections.next (existingGrows.trans newGrows)

/-- The sections of a survey stay the same only when no form of its formset takes effect. -/
theorem noEffect_of_sameSections (opened : SectionsOpened db pk formset)
    (result : sectionInline.saveFormset pk formset db = .ok db') (same : SameRows db db' pk) {form : InlineForm Section}
    (member : form ∈ formset.forms) : ¬ TakesEffect form := by
  intro effect
  obtain ⟨changed, isKept⟩ := effect
  cases isOpened : form.initial with
  | some row =>
    obtain ⟨stored, inSurvey, _⟩ := opened form member row isOpened
    exact replaced_of_changed opened result member changed isOpened ((same.section_iff inSurvey).mpr stored)
  | none =>
    obtain ⟨row, inSurvey, added, missing⟩ := added_of_new result member changed isOpened (isKept isOpened)
    rw [(same.section_iff inSurvey).mp added] at missing
    cases missing

end SectionInlines

/-! ## Fields of a section -/

section FieldInlines

variable {db db' : Database} {formset : Formset Field} {pk s : Nat}

/-- The forms are opened on stored fields of the section. -/
def FieldsOpened (db : Database) (pk : Nat) (formset : Formset Field) : Prop :=
  ∀ form ∈ formset.forms, ∀ row, form.initial = some row → db.fields.get row.id = some row ∧ row.sectionId = pk

/-- The rows of another survey are kept, and no section is written. -/
structure KeptByFields (db cur : Database) (s : Nat) : Prop where
  same : SameRows db cur s
  sections : cur.sections = db.sections

theorem kept_saveField {cur : Database} {row : Field} (kept : KeptByFields db cur s)
    (elsewhere : ∀ parent, db.sections.get row.sectionId = some parent → parent.surveyId ≠ s)
    (other : ∀ old, cur.fields.get row.id = some old → ∀ parent, db.sections.get old.sectionId = some parent →
      parent.surveyId ≠ s) : KeptByFields db { cur with fields := cur.fields.save row } s := by
  refine ⟨kept.same.trans (sameRows_fieldSave ?_ ?_), kept.sections⟩
  · rw [kept.sections]
    exact elsewhere
  · rw [kept.sections]
    exact other

/-- The formset of a section of another survey keeps the rows of this one, if it names none of the fields that go. -/
theorem keptByFields_saveFields (elsewhere : ∀ parent, db.sections.get pk = some parent → parent.surveyId ≠ s)
    (opened : FieldsOpened db pk formset)
    (unnamed : ∀ form ∈ formset.forms, ∀ row, Deletes form row → Unreferenced db (fun _ => false) (· == row.id) s)
    (result : fieldInline.saveFormset pk formset db = .ok db') : KeptByFields db db' s := by
  obtain ⟨between, existing, new⟩ := saveFormset_ok_iff.mp result
  -- a field opened by the formset is in its section, so what is stored under its key is in none of this survey
  have other : ∀ form ∈ formset.forms, ∀ row, form.initial = some row → ∀ cur, KeptByFields db cur s →
      ∀ old, cur.fields.get row.id = some old → ∀ parent, db.sections.get old.sectionId = some parent →
        parent.surveyId ≠ s := by
    intro form member row isOpened cur kept old found parent foundParent inSurvey
    obtain ⟨stored, inSection⟩ := opened form member row isOpened
    have before := (kept.same.field_iff foundParent inSurvey).mp found
    rw [stored, Option.some.injEq] at before
    subst before
    exact elsewhere parent (inSection ▸ foundParent) inSurvey
  have keptBetween : KeptByFields db between s := by
    refine @foldlM_invariant _ _ _ _ (fun cur => KeptByFields db cur s) _
      (fun form member cur next kept turn => ?_) _ _ ⟨SameRows.refl db s, rfl⟩ existing
    obtain ⟨rfl, _⟩ | ⟨row, deletes, rfl⟩ | ⟨row, isOpened, _, _, rfl⟩ := saveExisting_cases turn
    · exact kept
    · have unreferenced := unnamed form member row deletes
      refine ⟨kept.same.trans (SameDetail.sameRows (sameDetail_deleteField ⟨?_, ?_⟩ ?_)), kept.sections⟩
      · intro id rule stored inSurvey
        exact unreferenced.rules id rule ((kept.same.rule_iff inSurvey).mp stored) inSurvey
      · intro id dep stored inSurvey
        exact unreferenced.dependencies id dep ((kept.same.dependency_iff inSurvey).mp stored) inSurvey
      · rw [kept.sections]
        exact other form member row deletes.1 cur kept
    · have sameKey : form.obj.id = row.id := form.sameKey row isOpened
      refine kept_saveField kept elsewhere fun old found => ?_
      exact other form member row isOpened cur kept old (sameKey ▸ found)
  refine @foldlM_invariant _ _ _ _ (fun cur => KeptByFields db cur s) _
    (fun form _ cur next kept turn => ?_) _ _ keptBetween new
  obtain ⟨rfl, _⟩ | ⟨_, rfl⟩ := saveNew_cases turn
  · exact kept
  · refine kept_saveField kept elsewhere fun old found => ?_
    exact absurd (found.symm.trans cur.fields.get_next) (Option.some_ne_none old)

theorem sections_saveFields (result : fieldInline.saveFormset pk formset db = .ok db') : db'.sections = db.sections := by
  obtain ⟨between, existing, new⟩ := saveFormset_ok_iff.mp result
  have sameBetween : between.sections = db.sections := by
    refine @foldlM_invariant _ _ _ _ (fun cur => cur.sections = db.sections) _ (fun form _ cur next same turn => ?_) _ _
      rfl existing
    obtain ⟨rfl, _⟩ | ⟨_, _, rfl⟩ | ⟨_, _, _, _, rfl⟩ := saveExisting_cases turn
    · exact same
    · exact same
    · exact same
  refine @foldlM_invariant _ _ _ _ (fun cur => cur.sections = db.sections) _ (fun form _ cur next same turn => ?_) _ _
    sameBetween new
  obtain ⟨rfl, _⟩ | ⟨_, rfl⟩ := saveNew_cases turn
  · exact same
  · exact same

/-- A survey that kept its rules named none of the fields that went. -/
theorem unreferenced_of_sameFields (result : fieldInline.saveFormset pk formset db = .ok db')
    (rules : ∀ id rule, rule.surveyId = s → db.conditionalRules.get id = some rule → db'.conditionalRules.get id = some rule)
    (dependencies : ∀ id dep, dep.surveyId = s → db.fieldDependencies.get id = some dep →
      db'.fieldDependencies.get id = some dep) {form : InlineForm Field} (member : form ∈ formset.forms) {row : Field}
    (deletes : Deletes form row) : Unreferenced db (fun _ => false) (· == row.id) s := by
  obtain ⟨_, _, _, _, _, shrinks⟩ := saveFormset_deletes (fun _ _ => ⟨fun _ _ => id, fun _ _ => id⟩)
    (fun cur id => rulesShrink_deleteFields cur (· == id)) result member deletes
  constructor
  · intro id rule stored inSurvey
    have left := shrinks.rules id rule (rules id rule inSurvey stored)
    have kept := (Option.filter_eq_some_iff.mp left).2
    simp only [Bool.not_eq_true'] at kept
    rw [show rule.targetSectionId.any (fun _ => false) = false by cases rule.targetSectionId <;> rfl, Bool.false_or]
    exact kept
  · intro id dep stored inSurvey
    have left := shrinks.dependencies id dep (dependencies id dep inSurvey stored)
    have kept := (Option.filter_eq_some_iff.mp left).2
    simp only [Bool.not_eq_true'] at kept
    exact kept

end FieldInlines

end SurveyPlatform.Verified

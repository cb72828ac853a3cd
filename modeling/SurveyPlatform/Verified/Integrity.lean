import SurveyPlatform.Library.References
import SurveyPlatform.Responses.Transactions
import SurveyPlatform.Verified.RequestOutcomes
import SurveyPlatform.Verified.SurveyDetails

/-! # Referential integrity

`Intact` holds of a database that satisfies the constraints between the tables of
surveys and responses: the foreign keys, the unique orders, one response for each
user and survey, and the checks on the columns of sections and fields.  Only the row
that is written is ever checked; the rest is kept by the cascades.  `trace_intact`
says that every state of every run of the API is intact, whatever the requests
return or raise.
-/

namespace SurveyPlatform.Verified

open SurveyPlatform.Library SurveyPlatform.Library.Program SurveyPlatform.Library.Table SurveyPlatform.Python
open SurveyPlatform.Surveys SurveyPlatform.Responses

/-- The constraints of `models.py` among surveys and responses; the foreign keys to users,
the lengths of texts and the JSON columns of rules and dependencies are left out. -/
structure Intact (db : Database) : Prop where
  sectionSurvey : Refers db.sections (fun row => some row.surveyId) db.surveys
  fieldSection : Refers db.fields (fun row => some row.sectionId) db.sections
  ruleSurvey : Refers db.conditionalRules (fun row => some row.surveyId) db.surveys
  ruleTargetSection : Refers db.conditionalRules ConditionalRule.targetSectionId db.sections
  ruleTargetField : Refers db.conditionalRules ConditionalRule.targetFieldId db.fields
  ruleDependsOnField : Refers db.conditionalRules (fun row => some row.dependsOnFieldId) db.fields
  dependencySurvey : Refers db.fieldDependencies (fun row => some row.surveyId) db.surveys
  dependencyDependentField : Refers db.fieldDependencies (fun row => some row.dependentFieldId) db.fields
  dependencyDependsOnField : Refers db.fieldDependencies (fun row => some row.dependsOnFieldId) db.fields
  responseSurvey : Refers db.responses (fun row => some row.surveyId) db.surveys
  answerResponse : Refers db.fieldResponses (fun row => some row.surveyResponseId) db.responses
  answerField : Refers db.fieldResponses (fun row => some row.fieldId) db.fields
  sectionOrders : DistinctIn db.sections fun row => (row.surveyId, row.order)
  fieldOrders : DistinctIn db.fields fun row => (row.sectionId, row.order)
  onePerUser : DistinctIn db.responses fun row => (row.surveyId, row.userId)
  sectionChecks : ∀ row ∈ db.sections.rows, row.order ≤ Database.maxInteger
  fieldChecks : ∀ row ∈ db.fields.rows,
    row.order ≤ Database.maxInteger ∧ row.options.isNone = false ∧ row.validationRules.isNone = false

theorem rows_empty {α : Type} [Keyed α] (row : α) : row ∉ (Table.empty : Table α).rows := by
  rw [mem_rows]
  exact Option.some_ne_none row ∘ Eq.symm

theorem intact_empty : Intact Database.empty where
  sectionSurvey row member := absurd member (rows_empty row)
  fieldSection row member := absurd member (rows_empty row)
  ruleSurvey row member := absurd member (rows_empty row)
  ruleTargetSection row member := absurd member (rows_empty row)
  ruleTargetField row member := absurd member (rows_empty row)
  ruleDependsOnField row member := absurd member (rows_empty row)
  dependencySurvey row member := absurd member (rows_empty row)
  dependencyDependentField row member := absurd member (rows_empty row)
  dependencyDependsOnField row member := absurd member (rows_empty row)
  responseSurvey row member := absurd member (rows_empty row)
  answerResponse row member := absurd member (rows_empty row)
  answerField row member := absurd member (rows_empty row)
  sectionOrders row member := absurd member (rows_empty row)
  fieldOrders row member := absurd member (rows_empty row)
  onePerUser row member := absurd member (rows_empty row)
  sectionChecks row member := absurd member (rows_empty row)
  fieldChecks row member := absurd member (rows_empty row)

/-! ## Writes -/

section Writes

variable {db : Database}

theorem Intact.withSurveys (intact : Intact db) {surveys : Table Survey} (kept : db.surveys.KeysKept surveys) :
    Intact { db with surveys } :=
  { intact with
    sectionSurvey := intact.sectionSurvey.keysKept kept
    ruleSurvey := intact.ruleSurvey.keysKept kept
    dependencySurvey := intact.dependencySurvey.keysKept kept
    responseSurvey := intact.responseSurvey.keysKept kept }

theorem Intact.saveSection (intact : Intact db) {row : Section} (checked : db.sectionConstraints row = .ok ()) :
    Intact { db with sections := db.sections.save row } := by
  obtain ⟨small, survey, siblings⟩ := sectionConstraints_eq_ok.mp checked
  have kept : db.sections.KeysKept (db.sections.save row) := keysKept_save row
  exact { intact with
    sectionSurvey := intact.sectionSurvey.save fun _ names => Option.some.inj names ▸ survey
    fieldSection := intact.fieldSection.keysKept kept
    ruleTargetSection := intact.ruleTargetSection.keysKept kept
    sectionOrders := intact.sectionOrders.save fun other member same =>
      siblings other (mem_rows.mp member) (congrArg Prod.fst same) (congrArg Prod.snd same)
    sectionChecks := forall_rows_save intact.sectionChecks small }

theorem Intact.saveField (intact : Intact db) {row : Field} (checked : db.fieldConstraints row = .ok ()) :
    Intact { db with fields := db.fields.save row } := by
  obtain ⟨small, notNull, parent, siblings⟩ := fieldConstraints_eq_ok.mp checked
  have kept : db.fields.KeysKept (db.fields.save row) := keysKept_save row
  exact { intact with
    fieldSection := intact.fieldSection.save fun _ names => Option.some.inj names ▸ parent
    ruleTargetField := intact.ruleTargetField.keysKept kept
    ruleDependsOnField := intact.ruleDependsOnField.keysKept kept
    dependencyDependentField := intact.dependencyDependentField.keysKept kept
    dependencyDependsOnField := intact.dependencyDependsOnField.keysKept kept
    answerField := intact.answerField.keysKept kept
    fieldOrders := intact.fieldOrders.save fun other member same =>
      siblings other (mem_rows.mp member) (congrArg Prod.fst same) (congrArg Prod.snd same)
    fieldChecks := forall_rows_save intact.fieldChecks ⟨small, notNull⟩ }

theorem conditionalRuleConstraints_eq_ok {row : ConditionalRule} : db.conditionalRuleConstraints row = .ok () ↔
    (db.surveys.get row.surveyId).isSome = true ∧
      (∀ id, row.targetSectionId = some id → (db.sections.get id).isSome = true) ∧
      (∀ id, row.targetFieldId = some id → (db.fields.get id).isSome = true) ∧
      (db.fields.get row.dependsOnFieldId).isSome = true := by
  simp only [Database.conditionalRuleConstraints, seq_eq_ok, whenSome_eq_ok, requireRow_eq_ok]

theorem fieldDependencyConstraints_eq_ok {row : FieldDependency} : db.fieldDependencyConstraints row = .ok () ↔
    (db.surveys.get row.surveyId).isSome = true ∧ (db.fields.get row.dependentFieldId).isSome = true ∧
      (db.fields.get row.dependsOnFieldId).isSome = true := by
  simp only [Database.fieldDependencyConstraints, seq_eq_ok, requireRow_eq_ok]

theorem Intact.saveRule (intact : Intact db) {row : ConditionalRule}
    (checked : db.conditionalRuleConstraints row = .ok ()) :
    Intact { db with conditionalRules := db.conditionalRules.save row } := by
  obtain ⟨survey, targetSection, targetField, dependsOn⟩ := conditionalRuleConstraints_eq_ok.mp checked
  exact { intact with
    ruleSurvey := intact.ruleSurvey.save fun _ names => Option.some.inj names ▸ survey
    ruleTargetSection := intact.ruleTargetSection.save targetSection
    ruleTargetField := intact.ruleTargetField.save targetField
    ruleDependsOnField := intact.ruleDependsOnField.save fun _ names => Option.some.inj names ▸ dependsOn }

theorem Intact.saveDependency (intact : Intact db) {row : FieldDependency}
    (checked : db.fieldDependencyConstraints row = .ok ()) :
    Intact { db with fieldDependencies := db.fieldDependencies.save row } := by
  obtain ⟨survey, dependent, dependsOn⟩ := fieldDependencyConstraints_eq_ok.mp checked
  exact { intact with
    dependencySurvey := intact.dependencySurvey.save fun _ names => Option.some.inj names ▸ survey
    dependencyDependentField := intact.dependencyDependentField.save fun _ names => Option.some.inj names ▸ dependent
    dependencyDependsOnField := intact.dependencyDependsOnField.save fun _ names => Option.some.inj names ▸ dependsOn }

theorem Intact.saveResponse (intact : Intact db) {row : SurveyResponse}
    (checked : surveyResponseConstraints db row = .ok ()) : Intact { db with responses := db.responses.save row } := by
  obtain ⟨survey, single⟩ := surveyResponseConstraints_eq_ok.mp checked
  exact { intact with
    responseSurvey := intact.responseSurvey.save fun _ names => Option.some.inj names ▸ survey
    answerResponse := intact.answerResponse.keysKept (keysKept_save row)
    onePerUser := intact.onePerUser.save fun other member same => by
      by_contra different
      exact single other member different ⟨congrArg Prod.fst same, congrArg Prod.snd same⟩ }

/-- The rows of a `bulk_create` name what was prepared. -/
theorem prepared_of_mem_numberRows {surveyResponseId first : Nat} {prepared : List (Nat × String)} {row : FieldResponse}
    (member : row ∈ numberRows surveyResponseId first prepared) : (row.fieldId, row.value) ∈ prepared := by
  induction prepared generalizing first with
  | nil => cases member
  | cons head rest inductionHypothesis =>
    rw [numberRows, List.mem_cons] at member
    cases member with
    | inl same => exact same ▸ List.mem_cons_self
    | inr later => exact List.mem_cons_of_mem _ (inductionHypothesis later)

theorem Intact.bulkCreate (intact : Intact db) {surveyResponseId : Nat} {prepared : List (Nat × String)}
    (response : (db.responses.get surveyResponseId).isSome = true)
    (fields : ∀ entry ∈ prepared, (db.fields.get entry.1).isSome = true) :
    Intact (bulkCreate surveyResponseId prepared db) := by
  rw [bulkCreate_eq]
  refine { intact with answerResponse := ?_, answerField := ?_ }
  · apply Refers.saveAll intact.answerResponse
    intro row member id names
    rw [← Option.some.inj names, (mem_numberRows member).1]
    exact response
  · apply Refers.saveAll intact.answerField
    intro row member id names
    rw [← Option.some.inj names]
    exact fields _ (prepared_of_mem_numberRows member)

end Writes

/-! ## Deletes -/

section Deletes

variable {db : Database}

theorem fewer_rows {α : Type} [Keyed α] {t : Table α} {gone : α → Bool} : ∀ row ∈ (t.deleteWhere gone).rows, row ∈ t.rows :=
  fun _ member => (mem_rows_deleteWhere.mp member).1

theorem Intact.deleteRules (intact : Intact db) (gone : ConditionalRule → Bool) :
    Intact { db with conditionalRules := db.conditionalRules.deleteWhere gone } :=
  { intact with
    ruleSurvey := intact.ruleSurvey.of_rows fewer_rows
    ruleTargetSection := intact.ruleTargetSection.of_rows fewer_rows
    ruleTargetField := intact.ruleTargetField.of_rows fewer_rows
    ruleDependsOnField := intact.ruleDependsOnField.of_rows fewer_rows }

theorem Intact.deleteDependencies (intact : Intact db) (gone : FieldDependency → Bool) :
    Intact { db with fieldDependencies := db.fieldDependencies.deleteWhere gone } :=
  { intact with
    dependencySurvey := intact.dependencySurvey.of_rows fewer_rows
    dependencyDependentField := intact.dependencyDependentField.of_rows fewer_rows
    dependencyDependsOnField := intact.dependencyDependsOnField.of_rows fewer_rows }

theorem Intact.deleteFields (intact : Intact db) (gone : Nat → Bool) : Intact (db.deleteFields gone) where
  sectionSurvey := intact.sectionSurvey
  fieldSection := intact.fieldSection.of_rows fewer_rows
  ruleSurvey := intact.ruleSurvey.of_rows fewer_rows
  ruleTargetSection := intact.ruleTargetSection.of_rows fewer_rows
  ruleTargetField := intact.ruleTargetField.deleteKeys fun row id names isGone => by simp [names, isGone]
  ruleDependsOnField := intact.ruleDependsOnField.deleteKeys fun row id names isGone => by
    rw [Option.some.inj names, isGone, Bool.or_true]
  dependencySurvey := intact.dependencySurvey.of_rows fewer_rows
  dependencyDependentField := intact.dependencyDependentField.deleteKeys fun row id names isGone => by
    rw [Option.some.inj names, isGone, Bool.true_or]
  dependencyDependsOnField := intact.dependencyDependsOnField.deleteKeys fun row id names isGone => by
    rw [Option.some.inj names, isGone, Bool.or_true]
  responseSurvey := intact.responseSurvey
  answerResponse := intact.answerResponse.of_rows fewer_rows
  answerField := intact.answerField.deleteKeys fun row id names isGone => by rw [Option.some.inj names, isGone]
  sectionOrders := intact.sectionOrders
  fieldOrders := intact.fieldOrders.of_rows fewer_rows
  onePerUser := intact.onePerUser
  sectionChecks := intact.sectionChecks
  fieldChecks := forall_rows_of_rows intact.fieldChecks fewer_rows

theorem Intact.deleteSections (intact : Intact db) (gone : Nat → Bool) : Intact (db.deleteSections gone) := by
  have fieldsGone : Intact (db.deleteFields (fieldsIn db gone)) := intact.deleteFields _
  refine { fieldsGone with
    sectionSurvey := intact.sectionSurvey.of_rows fewer_rows
    -- the fields of the deleted sections are gone already
    fieldSection := ?_
    ruleSurvey := fieldsGone.ruleSurvey.of_rows fewer_rows
    ruleTargetSection := fieldsGone.ruleTargetSection.deleteKeys fun row id names isGone => by simp [names, isGone]
    ruleTargetField := fieldsGone.ruleTargetField.of_rows fewer_rows
    ruleDependsOnField := fieldsGone.ruleDependsOnField.of_rows fewer_rows
    sectionOrders := intact.sectionOrders.of_rows fewer_rows
    sectionChecks := forall_rows_of_rows intact.sectionChecks fewer_rows }
  apply intact.fieldSection.deleteWhere
  intro row member id names parent found isGone
  have sameKey : parent.id = id := db.sections.keyed id parent found
  show (db.fields.get row.id).any (fun row => gone row.sectionId) = true
  rw [show db.fields.get row.id = some row from mem_rows.mp member, Option.any_some, Option.some.inj names, ← sameKey]
  exact isGone

theorem Intact.deleteResponses (intact : Intact db) (gone : Nat → Bool) : Intact (db.deleteResponses gone) :=
  { intact with
    responseSurvey := intact.responseSurvey.of_rows fewer_rows
    answerResponse := intact.answerResponse.deleteKeys fun row id names isGone => by rw [Option.some.inj names, isGone]
    answerField := intact.answerField.of_rows fewer_rows
    onePerUser := intact.onePerUser.of_rows fewer_rows }

/-- The rows with a parent in the survey are selected through their table. -/
theorem selected_of_names {α : Type} [Keyed α] {t : Table α} {surveyOf : α → Nat} {row : α} (member : row ∈ t.rows)
    {surveyId id : Nat} (names : some (surveyOf row) = some id) (isGone : id = surveyId) :
    (t.get (key row)).any (fun row => decide (surveyOf row = surveyId)) = true := by
  rw [mem_rows.mp member, Option.any_some, Option.some.inj names]
  exact decide_eq_true isGone

theorem Intact.deleteSurvey (intact : Intact db) (surveyId : Nat) : Intact (db.deleteSurvey surveyId) := by
  have sectionsGone : Intact (db.deleteSections (sectionsIn db surveyId)) := intact.deleteSections _
  have responsesGone := sectionsGone.deleteResponses fun id => (db.responses.get id).any (·.surveyId = surveyId)
  refine { responsesGone with
    sectionSurvey := ?_
    ruleSurvey := ?_
    ruleTargetSection := responsesGone.ruleTargetSection.of_rows fewer_rows
    ruleTargetField := responsesGone.ruleTargetField.of_rows fewer_rows
    ruleDependsOnField := responsesGone.ruleDependsOnField.of_rows fewer_rows
    dependencySurvey := ?_
    dependencyDependentField := responsesGone.dependencyDependentField.of_rows fewer_rows
    dependencyDependsOnField := responsesGone.dependencyDependsOnField.of_rows fewer_rows
    responseSurvey := ?_ }
  · apply intact.sectionSurvey.deleteWhere
    intro row member id names survey found isGone
    rw [decide_eq_true_eq, show survey.id = id from db.surveys.keyed id survey found] at isGone
    exact selected_of_names member names isGone
  · apply responsesGone.ruleSurvey.deleteWhere
    intro row member id names survey found isGone
    rw [decide_eq_true_eq, show survey.id = id from db.surveys.keyed id survey found] at isGone
    exact decide_eq_true ((Option.some.inj names).trans isGone)
  · apply responsesGone.dependencySurvey.deleteWhere
    intro row member id names survey found isGone
    rw [decide_eq_true_eq, show survey.id = id from db.surveys.keyed id survey found] at isGone
    exact decide_eq_true ((Option.some.inj names).trans isGone)
  · apply intact.responseSurvey.deleteWhere
    intro row member id names survey found isGone
    rw [decide_eq_true_eq, show survey.id = id from db.surveys.keyed id survey found] at isGone
    exact selected_of_names member names isGone

end Deletes

/-! ## Runs -/

section Runs

variable {py : Interpreter} {w : World} {call : Call}

/-- An update without columns leaves the stored row, which need not be checked. -/
theorem Intact.updated {α : Type} [Keyed α] (store : Table α → Database) {t : Table α} {row new : α} {isEmpty : Bool}
    {constraints : α → Except PyExn Unit} (intact : Intact (store t)) (stored : t.get (key row) = some row)
    (same : isEmpty = true → new = row) (saved : constraints new = .ok () → Intact (store (t.save new)))
    (checked : isEmpty = false → constraints new = .ok ()) : Intact (store (t.save new)) := by
  cases nothing : isEmpty with
  | true =>
    rw [same nothing, save_eq_self stored]
    exact intact
  | false => exact saved (checked nothing)

/-- What is prepared for a submission is for fields of its survey. -/
theorem field_of_prepared {encryptValue : Encryption} {fields : Nat → Option Field} {answers : List (String × Json)}
    {prepared : List (Nat × String)} (ready : List.Forall₂ (Prepared py encryptValue fields) answers prepared) :
    ∀ entry ∈ prepared, ∃ field, fields entry.1 = some field ∧ field.id = entry.1 := by
  induction ready with
  | nil => exact fun _ member => absurd member List.not_mem_nil
  | cons head _ inductionHypothesis =>
    intro entry member
    rw [List.mem_cons] at member
    cases member with
    | inl same =>
      obtain ⟨field, found, sameId, _⟩ := head.field
      exact same ▸ ⟨field, found, sameId⟩
    | inr later => exact inductionHypothesis entry later

/-- However a request ends, it leaves every constraint satisfied. -/
theorem Served.intact {ends : Option PyExn × World} (served : Served py w call ends) (intact : Intact w.db) :
    Intact ends.2.db := by
  cases served with
  | refused => exact intact
  | invalid => exact intact
  | surveyCreated => exact intact.withSurveys keysKept_insert
  | statusWritten => exact intact.withSurveys keysKept_modify
  | surveyUpdated => exact intact.withSurveys (keysKept_save _)
  | surveyDeleted admin request stored => exact intact.deleteSurvey _
  | sectionCreated admin request draft numbered checked =>
    show Intact { w.db with sections := _ }
    rw [insert_eq_save]
    exact intact.saveSection checked
  | sectionUpdated admin request validated stored draft checked revalidated =>
    rename_i row _ _ data
    exact Intact.updated (fun sections => { w.db with sections }) intact stored
      (fun nothing => SectionData.assign_of_isEmpty nothing row) intact.saveSection checked
  | sectionDeleted admin request stored draft =>
    rename_i row
    exact intact.deleteSections (· == row.id)
  | fieldCreated admin request inSection stored draft numbered checked =>
    show Intact { w.db with fields := _ }
    rw [insert_eq_save]
    exact intact.saveField checked
  | fieldUpdated admin request validated stored draft checked revalidated =>
    rename_i row _ _ data
    exact Intact.updated (fun fields => { w.db with fields }) intact (Database.placedField_eq_some.mp stored).1
      (fun nothing => FieldData.assign_of_isEmpty nothing row.toField) intact.saveField checked
  | fieldDeleted admin request stored draft =>
    rename_i row
    exact intact.deleteFields (· == row.id)
  | ruleUpdated admin request fields accepted checkable stored draft checked =>
    rename_i row _ _ data
    exact Intact.updated (fun conditionalRules => { w.db with conditionalRules }) intact stored
      (fun nothing => ConditionalRuleData.assign_of_isEmpty nothing row) intact.saveRule checked
  | ruleDeleted admin request stored draft => exact intact.deleteRules _
  | dependencyCreated admin request fields accepted checkable draft made checked =>
    show Intact { w.db with fieldDependencies := _ }
    rw [insert_eq_save]
    exact intact.saveDependency checked
  | dependencyUpdated admin request fields accepted checkable stored draft checked =>
    rename_i row _ _ data
    exact Intact.updated (fun fieldDependencies => { w.db with fieldDependencies }) intact stored
      (fun nothing => FieldDependencyData.assign_of_isEmpty nothing row) intact.saveDependency checked
  | dependencyDeleted admin request stored draft => exact intact.deleteDependencies _
  | submitted customer request isPublished new submitter checked accepted ready =>
    rename_i row _ _ _
    apply (intact.saveResponse checked).bulkCreate
    · rw [get_save, if_pos (key_surveyResponse row).symm]
      rfl
    · intro entry member
      obtain ⟨field, found, _⟩ := field_of_prepared ready entry member
      have stored := (fieldOfSurvey_eq_some found).1
      exact Option.isSome_iff_exists.mpr ⟨field, stored⟩

theorem serve_retrieve_db (user : User) (pk : String) : (serve py w (.retrieve user pk)).db = w.db := by
  show (final (surveyRetrieve user pk) w).db = w.db
  cases surveyRetrieve_cases user pk w with
  | inl same => rw [same]
  | inr stored =>
    obtain ⟨_, _, _, ends⟩ := stored
    rw [ends]
    rfl

/-- Primary keys of surveys are not handed out again. -/
theorem serve_surveys_next (action : ApiCall) : w.db.surveys.next ≤ (serve py w action).db.surveys.next := by
  cases action with
  | write call => exact (effects_later (handle_effects py w call)).1.next
  | retrieve user pk => rw [serve_retrieve_db]

theorem serve_gone (action : ApiCall) {surveyId : Nat} (known : surveyId < w.db.surveys.next)
    (gone : w.db.surveys.get surveyId = none) : (serve py w action).db.surveys.get surveyId = none := by
  cases action with
  | write call => exact (effects_later (handle_effects py w call)).1.gone surveyId known gone
  | retrieve user pk =>
    rw [serve_retrieve_db]
    exact gone

theorem serve_intact (action : ApiCall) (intact : Intact w.db) : Intact (serve py w action).db := by
  cases action with
  | write call =>
    obtain ⟨_, served⟩ := handle_served py w call
    exact served.intact intact
  | retrieve user pk =>
    rw [serve_retrieve_db]
    exact intact

theorem run_intact (intact : Intact w.db) (calls : List ApiCall) : Intact (run (serve py) w calls).db := by
  have preserved : ∀ (state : World) (action : ApiCall), Intact state.db → Intact (serve py state action).db :=
    fun _ action => serve_intact action
  exact run_invariant preserved intact calls

/-- No run of the API, whatever its requests and however they end, violates one of
these constraints at any moment. -/
theorem trace_intact (intact : Intact w.db) (calls : List ApiCall) :
    ∀ state ∈ trace (serve py) w calls, Intact state.db := by
  have preserved : ∀ (state : World) (action : ApiCall), Intact state.db → Intact (serve py state action).db :=
    fun _ action => serve_intact action
  exact trace_invariant preserved intact calls

/-- A survey is built and deleted again. -/
theorem trace_intact_deleted : Intact (run (serve bareInterpreter) World.empty
    [.write (adminCall (.createSurvey ⟨.given "Health", .missing, .missing⟩)),
      .write (adminCall (.createSection 1 ⟨.given "You", .missing, .missing⟩)), .write (adminCall (.destroySurvey 1))]).db :=
  trace_intact intact_empty _ _ (run_mem_trace _ _)

end Runs

/-! ## The small draft -/

theorem intact_draftDatabase : Intact draftDatabase := by
  have survey := intact_empty.withSurveys (@keysKept_insert _ _ Table.empty (Survey.withId ⟨0, "Health", "", 1, .draft⟩)
    (Survey.key_withId _))
  have first := @Intact.saveSection _ survey ⟨1, 1, "You", "", 1⟩ rfl
  have second := @Intact.saveSection _ first ⟨2, 1, "Habits", "", 2⟩ rfl
  have smoker := @Intact.saveField _ second
    ⟨1, 1, "Smoker", .dropdown, false, 1, .list [.str "a", .str "b"], false, .object []⟩ rfl
  have brand := @Intact.saveField _ smoker
    ⟨2, 2, "Brand", .dropdown, false, 1, .list [.str "c", .str "d"], false, .object []⟩ rfl
  have rules := @Intact.saveRule _ brand ⟨1, 1, none, some 2, 1, .equals, .str "a"⟩ rfl
  exact @Intact.saveDependency _ rules ⟨1, 1, 2, 1, .equals, .str "b", .hideOptions, .list [.str "c"]⟩ rfl

end SurveyPlatform.Verified

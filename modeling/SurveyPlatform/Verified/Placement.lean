import SurveyPlatform.Verified.Integrity
import SurveyPlatform.Verified.SectionEdits

/-! # Rows stay within their survey

A rule, a dependency and a stored answer name fields of their own survey, in
every state of every run of the API that starts so (`RowsPlaced`).  For the sections that rules
target this holds exactly in the runs in which no accepted update of a rule
names a section of another survey without naming `depends_on_field`, whose
survey is the one that is compared (`targets_placed_iff`).
-/

namespace SurveyPlatform.Verified

open SurveyPlatform.Library SurveyPlatform.Library.Program SurveyPlatform.Library.Table SurveyPlatform.Python
open SurveyPlatform.Surveys SurveyPlatform.Responses

/-! ## Rows in place -/

structure RuleInPlace (db : Database) (row : ConditionalRule) : Prop where
  dependsOnField : FieldIn db row.surveyId row.dependsOnFieldId
  targetField : ∀ id, row.targetFieldId = some id → FieldIn db row.surveyId id

structure DependencyInPlace (db : Database) (row : FieldDependency) : Prop where
  dependentField : FieldIn db row.surveyId row.dependentFieldId
  dependsOnField : FieldIn db row.surveyId row.dependsOnFieldId

def AnswerInPlace (db : Database) (row : FieldResponse) : Prop :=
  ∃ response, db.responses.get row.surveyResponseId = some response ∧ FieldIn db response.surveyId row.fieldId

/-- What rules, dependencies and answers name is in their own survey. -/
structure RowsPlaced (db : Database) : Prop where
  rules : ∀ row ∈ db.conditionalRules.rows, RuleInPlace db row
  dependencies : ∀ row ∈ db.fieldDependencies.rows, DependencyInPlace db row
  answers : ∀ row ∈ db.fieldResponses.rows, AnswerInPlace db row

/-- So are the sections that rules target. -/
def TargetsPlaced (db : Database) : Prop :=
  ∀ row ∈ db.conditionalRules.rows, ∀ id, row.targetSectionId = some id → SectionIn db row.surveyId id

/-! ## Rows that keep their parents -/

section Parents

variable {db db' : Database}

/-- A row that is in both databases has the same parent in both. -/
structure SameParents (db db' : Database) : Prop where
  sections : ∀ id row row', db.sections.get id = some row → db'.sections.get id = some row' → row'.surveyId = row.surveyId
  fields : ∀ id row row', db.fields.get id = some row → db'.fields.get id = some row' → row'.sectionId = row.sectionId
  responses : ∀ id row row', db.responses.get id = some row → db'.responses.get id = some row' →
    row'.surveyId = row.surveyId

theorem SameParents.of_tables (sections : db'.sections = db.sections) (fields : db'.fields = db.fields)
    (responses : db'.responses = db.responses) : SameParents db db' :=
  ⟨fun _ _ _ found found' => congrArg Section.surveyId (eq_of_get found (sections ▸ found')),
    fun _ _ _ found found' => congrArg Field.sectionId (eq_of_get found (fields ▸ found')),
    fun _ _ _ found found' => congrArg SurveyResponse.surveyId (eq_of_get found (responses ▸ found'))⟩

theorem SameParents.refl (db : Database) : SameParents db db := .of_tables rfl rfl rfl

/-- A saved row keeps a column that the stored one of its key has too. -/
theorem column_save {α β : Type} [Keyed α] {t : Table α} {new : α} (column : α → β)
    (same : ∀ old, t.get (key new) = some old → column new = column old) (id : Nat) (row row' : α)
    (found : t.get id = some row) (found' : (t.save new).get id = some row') : column row' = column row := by
  rw [get_save] at found'
  split at found'
  · rename_i isKey
    rw [← Option.some.inj found']
    exact same row (isKey ▸ found)
  · rw [eq_of_get found found']

theorem column_deleteWhere {α β : Type} [Keyed α] {t : Table α} {gone : α → Bool} (column : α → β) (id : Nat)
    (row row' : α) (found : t.get id = some row) (found' : (t.deleteWhere gone).get id = some row') :
    column row' = column row := by
  rw [eq_of_get found (Option.filter_eq_some_iff.mp found').1]

theorem SameParents.saveSection {new : Section}
    (same : ∀ old, db.sections.get new.id = some old → new.surveyId = old.surveyId) :
    SameParents db { db with sections := db.sections.save new } :=
  { SameParents.refl db with sections := column_save Section.surveyId same }

theorem SameParents.saveField {new : Field}
    (same : ∀ old, db.fields.get new.id = some old → new.sectionId = old.sectionId) :
    SameParents db { db with fields := db.fields.save new } :=
  { SameParents.refl db with fields := column_save Field.sectionId same }

theorem SameParents.deleteFields (gone : Nat → Bool) : SameParents db (db.deleteFields gone) :=
  { SameParents.refl db with fields := column_deleteWhere Field.sectionId }

theorem SameParents.deleteSections (gone : Nat → Bool) : SameParents db (db.deleteSections gone) :=
  { SameParents.refl db with
    sections := column_deleteWhere Section.surveyId
    fields := column_deleteWhere Field.sectionId }

theorem SameParents.deleteSurvey (surveyId : Nat) : SameParents db (db.deleteSurvey surveyId) :=
  { sections := column_deleteWhere Section.surveyId
    fields := column_deleteWhere Field.sectionId
    responses := column_deleteWhere SurveyResponse.surveyId }

theorem SectionIn.keep (same : SameParents db db') {surveyId id : Nat} (isIn : SectionIn db surveyId id)
    (stored : (db'.sections.get id).isSome = true) : SectionIn db' surveyId id := by
  obtain ⟨row, found, inSurvey⟩ := isIn
  obtain ⟨row', found'⟩ := Option.isSome_iff_exists.mp stored
  exact ⟨row', found', (same.sections id row row' found found').trans inSurvey⟩

/-- A field that is still there is still in its survey: its section is there too. -/
theorem FieldIn.keep (intact' : Intact db') (same : SameParents db db') {surveyId id : Nat} (isIn : FieldIn db surveyId id)
    (stored : (db'.fields.get id).isSome = true) : FieldIn db' surveyId id := by
  obtain ⟨field, found, inSurvey⟩ := isIn
  obtain ⟨found, parent⟩ := Database.placedField_eq_some.mp found
  obtain ⟨row', found'⟩ := Option.isSome_iff_exists.mp stored
  have member : row' ∈ db'.fields.rows := by
    rw [mem_rows, db'.fields.keyed id row' found']
    exact found'
  obtain ⟨parent', foundParent'⟩ := Option.isSome_iff_exists.mp (intact'.fieldSection row' member row'.sectionId rfl)
  have sameSection : row'.sectionId = field.sectionId := same.fields id field.toField row' found found'
  refine ⟨⟨row', parent', db'.sections.keyed _ parent' foundParent'⟩,
    Database.placedField_eq_some.mpr ⟨found', foundParent'⟩, ?_⟩
  rw [sameSection] at foundParent'
  exact (same.sections _ _ _ parent foundParent').trans inSurvey

theorem RuleInPlace.keep (intact' : Intact db') (same : SameParents db db') {row : ConditionalRule}
    (inPlace : RuleInPlace db row) (member : row ∈ db'.conditionalRules.rows) : RuleInPlace db' row :=
  ⟨inPlace.dependsOnField.keep intact' same (intact'.ruleDependsOnField row member _ rfl),
    fun id names => (inPlace.targetField id names).keep intact' same (intact'.ruleTargetField row member id names)⟩

theorem DependencyInPlace.keep (intact' : Intact db') (same : SameParents db db') {row : FieldDependency}
    (inPlace : DependencyInPlace db row) (member : row ∈ db'.fieldDependencies.rows) : DependencyInPlace db' row :=
  ⟨inPlace.dependentField.keep intact' same (intact'.dependencyDependentField row member _ rfl),
    inPlace.dependsOnField.keep intact' same (intact'.dependencyDependsOnField row member _ rfl)⟩

theorem AnswerInPlace.keep (intact' : Intact db') (same : SameParents db db') {row : FieldResponse}
    (inPlace : AnswerInPlace db row) (member : row ∈ db'.fieldResponses.rows) : AnswerInPlace db' row := by
  obtain ⟨response, found, isIn⟩ := inPlace
  obtain ⟨response', found'⟩ := Option.isSome_iff_exists.mp (intact'.answerResponse row member _ rfl)
  refine ⟨response', found', ?_⟩
  rw [same.responses _ _ _ found found']
  exact isIn.keep intact' same (intact'.answerField row member _ rfl)

end Parents

/-! ## Requests -/

section Requests

variable {py : Interpreter} {w : World} {call : Call}

theorem fieldIn_of_placedField {db : Database} {field : PlacedField} {surveyId : Nat}
    (stored : db.placedField field.id = some field) (inSurvey : field.surveyId = surveyId) :
    FieldIn db surveyId field.id := ⟨field, stored, inSurvey⟩

theorem fieldIn_of_fieldRows {db : Database} {field : Field} {surveyId : Nat} (member : field ∈ FieldRows db surveyId) :
    FieldIn db surveyId field.id := by
  obtain ⟨stored, parent, found, inSurvey⟩ := member
  exact ⟨⟨field, parent, db.sections.keyed _ parent found⟩, Database.placedField_eq_some.mpr ⟨stored, found⟩, inSurvey⟩

/-- The rule of an accepted update: what it names anew was compared with its survey. -/
theorem RuleInPlace.assign {db : Database} {row : ConditionalRule} {data : ConditionalRuleData} {isPartial : Bool}
    {body : ConditionalRuleBody} (inPlace : RuleInPlace db row)
    (fields : conditionalRuleFields db isPartial body = .ok data) (accepted : RuleAccepted py data row.surveyId)
    (checkable : data.targetField.join ≠ none → data.dependsOnField ≠ none) : RuleInPlace db (data.assign row) := by
  have resolved := conditionalRuleFields_resolved fields
  constructor
  · show FieldIn db row.surveyId ((data.dependsOnField.map key).getD row.dependsOnFieldId)
    cases given : data.dependsOnField with
    | none => exact inPlace.dependsOnField
    | some field =>
      exact fieldIn_of_placedField (resolved.dependsOnField field given) (accepted.dependsOnSurvey field given)
  · show ∀ id, assignKey data.targetField row.targetFieldId = some id → FieldIn db row.surveyId id
    cases given : data.targetField with
    | none => exact inPlace.targetField
    | some target? =>
      cases target? with
      | none => exact fun _ names => by cases names
      | some target =>
        rintro _ ⟨rfl⟩
        have isTarget : data.targetField.join = some target := by rw [given, Option.join_some]
        obtain ⟨dependsOn, given'⟩ := Option.ne_none_iff_exists'.mp (checkable (by rw [isTarget]; exact Option.some_ne_none _))
        exact fieldIn_of_placedField (resolved.targetField target isTarget)
          (accepted.fieldSurvey dependsOn given' target isTarget)

theorem dependencyInPlace_assign {db : Database} {row : FieldDependency} {data : FieldDependencyData} {isPartial : Bool}
    {body : FieldDependencyBody} {conditionalRules : List ConditionalRule}
    (fields : fieldDependencyFields db isPartial body = .ok data)
    (accepted : DependencyAccepted py conditionalRules data row.surveyId)
    (checkable : data.dependsOnField ≠ none ∧ data.dependentField ≠ none) : DependencyInPlace db (data.assign row) := by
  have resolved := fieldDependencyFields_resolved fields
  obtain ⟨dependsOn, given⟩ := Option.ne_none_iff_exists'.mp checkable.1
  obtain ⟨dependent, given'⟩ := Option.ne_none_iff_exists'.mp checkable.2
  constructor
  · show FieldIn db row.surveyId ((data.dependentField.map key).getD row.dependentFieldId)
    rw [given']
    exact fieldIn_of_placedField (resolved.dependentField dependent given') (accepted.dependentSurvey dependent given')
  · show FieldIn db row.surveyId ((data.dependsOnField.map key).getD row.dependsOnFieldId)
    rw [given]
    exact fieldIn_of_placedField (resolved.dependsOnField dependsOn given) (accepted.dependsOnSurvey dependsOn given)

/-- No request moves a row to another parent. -/
theorem Served.sameParents {ends : Option PyExn × World} (served : Served py w call ends) :
    SameParents w.db ends.2.db := by
  cases served with
  | refused => exact .refl w.db
  | invalid => exact .refl w.db
  | surveyCreated => exact .of_tables rfl rfl rfl
  | statusWritten => exact .of_tables rfl rfl rfl
  | surveyUpdated => exact .of_tables rfl rfl rfl
  | surveyDeleted => exact .deleteSurvey _
  | sectionCreated =>
    show SameParents w.db { w.db with sections := _ }
    rw [insert_eq_save]
    exact .saveSection fun old stored => by cases (get_next w.db.sections).symm.trans stored
  | sectionUpdated admin request validated stored draft checked revalidated =>
    exact .saveSection fun old found => (congrArg Section.surveyId (eq_of_get found stored) :)
  | sectionDeleted admin request stored draft =>
    rename_i row
    exact .deleteSections (· == row.id)
  | fieldCreated =>
    show SameParents w.db { w.db with fields := _ }
    rw [insert_eq_save]
    exact .saveField fun old stored => by cases (get_next w.db.fields).symm.trans stored
  | fieldUpdated admin request validated stored draft checked revalidated =>
    exact .saveField fun old found =>
      (congrArg Field.sectionId (eq_of_get found (Database.placedField_eq_some.mp stored).1) :)
  | fieldDeleted admin request stored draft =>
    rename_i row
    exact .deleteFields (· == row.id)
  | ruleUpdated => exact .of_tables rfl rfl rfl
  | ruleDeleted => exact .of_tables rfl rfl rfl
  | dependencyCreated => exact .of_tables rfl rfl rfl
  | dependencyUpdated => exact .of_tables rfl rfl rfl
  | dependencyDeleted => exact .of_tables rfl rfl rfl
  | submitted customer request isPublished new submitter checked accepted ready =>
    rename_i row _ _ _
    have fresh : w.db.responses.get row.id = none := new ▸ get_next w.db.responses
    refine ⟨(SameParents.refl w.db).sections, (SameParents.refl w.db).fields,
      column_save SurveyResponse.surveyId fun old stored => ?_⟩
    cases fresh.symm.trans stored

/-- A rule is as it was, or what an accepted update made of it. -/
theorem Served.rule_cases {ends : Option PyExn × World} (served : Served py w call ends) {row : ConditionalRule}
    (member : row ∈ ends.2.db.conditionalRules.rows) : row ∈ w.db.conditionalRules.rows ∨
      ∃ old isPartial body data, old ∈ w.db.conditionalRules.rows ∧ row = data.assign old ∧
        call.request = .updateConditionalRule old.surveyId old.id isPartial body ∧
        conditionalRuleFields w.db isPartial body = .ok data ∧ RuleAccepted py data old.surveyId ∧
        (data.targetField.join ≠ none → data.dependsOnField ≠ none) ∧
        ends = (none, refreshed old.surveyId w
          { w.db with conditionalRules := w.db.conditionalRules.save (data.assign old) }) := by
  cases served with
  | ruleUpdated admin request fields accepted checkable stored draft checked =>
    rename_i old isPartial body data
    cases mem_rows_save.mp member with
    | inl new => exact Or.inr ⟨old, isPartial, body, data, mem_rows.mpr stored, new, request, fields, accepted, checkable, rfl⟩
    | inr kept => exact Or.inl kept.2
  | surveyDeleted => exact Or.inl (fewer_rows row (fewer_rows row (fewer_rows row member)))
  | sectionDeleted => exact Or.inl (fewer_rows row (fewer_rows row member))
  | fieldDeleted => exact Or.inl (fewer_rows row member)
  | ruleDeleted => exact Or.inl (fewer_rows row member)
  | _ => exact Or.inl member

theorem Served.dependency_cases {ends : Option PyExn × World} (served : Served py w call ends) {row : FieldDependency}
    (member : row ∈ ends.2.db.fieldDependencies.rows) :
    row ∈ w.db.fieldDependencies.rows ∨ DependencyInPlace w.db row := by
  cases served with
  | dependencyCreated admin request fields accepted checkable draft made checked =>
    rename_i surveyPk body data new
    rw [made] at member
    cases (@mem_rows_insert _ _ _ _ (FieldDependency.key_withId _) _).mp member with
    | inl isNew =>
      have inPlace : DependencyInPlace w.db (data.assign (blankFieldDependency surveyPk)) :=
        dependencyInPlace_assign fields accepted checkable
      exact Or.inr (isNew ▸ ⟨inPlace.dependentField, inPlace.dependsOnField⟩)
    | inr kept => exact Or.inl kept
  | dependencyUpdated admin request fields accepted checkable stored draft checked =>
    cases mem_rows_save.mp member with
    | inl new => exact Or.inr (new ▸ dependencyInPlace_assign fields accepted checkable)
    | inr kept => exact Or.inl kept.2
  | surveyDeleted => exact Or.inl (fewer_rows row (fewer_rows row member))
  | sectionDeleted => exact Or.inl (fewer_rows row member)
  | fieldDeleted => exact Or.inl (fewer_rows row member)
  | dependencyDeleted => exact Or.inl (fewer_rows row member)
  | _ => exact Or.inl member

/-- An answer is as it was, or one of a submission to the survey of its field. -/
theorem Served.answer_cases {ends : Option PyExn × World} (served : Served py w call ends) {row : FieldResponse}
    (member : row ∈ ends.2.db.fieldResponses.rows) : row ∈ w.db.fieldResponses.rows ∨
      ∃ response, ends.2.db.responses.get row.surveyResponseId = some response ∧
        FieldIn w.db response.surveyId row.fieldId := by
  cases served with
  | submitted customer request isPublished new submitter checked accepted ready =>
    rename_i response _ _ prepared
    replace member : row ∈ (bulkCreate response.id prepared
        { w.db with responses := w.db.responses.save response }).fieldResponses.rows := member
    rw [bulkCreate_eq] at member
    cases (mem_rows_saveAll nodup_numberRows).mp member with
    | inl new =>
      refine Or.inr ⟨response, ?_, ?_⟩
      · show (w.db.responses.save response).get row.surveyResponseId = some response
        rw [(mem_numberRows new).1, get_save, if_pos (key_surveyResponse response).symm]
      · obtain ⟨field, found, sameId⟩ := field_of_prepared ready _ (prepared_of_mem_numberRows new)
        have isIn := fieldIn_of_fieldRows (fieldOfSurvey_eq_some found).2.2
        rw [sameId] at isIn
        exact isIn
    | inr kept => exact Or.inl kept.1
  | surveyDeleted => exact Or.inl (fewer_rows row (fewer_rows row member))
  | sectionDeleted => exact Or.inl (fewer_rows row member)
  | fieldDeleted => exact Or.inl (fewer_rows row member)
  | _ => exact Or.inl member

/-- Every request leaves the rows in place. -/
theorem Served.placed {ends : Option PyExn × World} (served : Served py w call ends) (intact : Intact w.db)
    (placed : RowsPlaced w.db) : RowsPlaced ends.2.db := by
  have intact' := served.intact intact
  have same := served.sameParents
  constructor
  · intro row member
    have before : RuleInPlace w.db row := by
      obtain old | ⟨old, _, _, data, stored, rfl, _, fields, accepted, checkable, _⟩ := served.rule_cases member
      · exact placed.rules row old
      · exact (placed.rules old stored).assign fields accepted checkable
    exact before.keep intact' same member
  · intro row member
    have before : DependencyInPlace w.db row := (served.dependency_cases member).elim (placed.dependencies row) id
    exact before.keep intact' same member
  · intro row member
    obtain old | ⟨response, stored, isIn⟩ := served.answer_cases member
    · exact (placed.answers row old).keep intact' same member
    · exact ⟨response, stored, isIn.keep intact' same (intact'.answerField row member _ rfl)⟩

end Requests

/-! ## Targets -/

section Targets

variable {py : Interpreter} {w : World} {call : Call}

/-- The request ends without an exception. -/
def Returns (py : Interpreter) (w : World) (call : Call) : Prop := ∃ w', call.procedure py w = .ok () w'

theorem returns_iff : Returns py w call ↔ (ending (call.procedure py) w).1 = none := by
  unfold Returns ending
  cases call.procedure py w <;> simp

/-- An accepted update of a rule that names a section, but not the field the rule
depends on, names one of the rule's survey. -/
def NamesOwnSection (py : Interpreter) (w : World) (action : ApiCall) : Prop :=
  ∀ call surveyPk pk isPartial body id, action = .write call →
    call.request = .updateConditionalRule surveyPk pk isPartial body → body.dependsOnField = .missing →
      body.targetSection = .given (some id) → Returns py w call → SectionIn w.db surveyPk id

/-- A key of the validated data that is not there was not in the body. -/
theorem dependsOnField_missing {db : Database} {isPartial : Bool} {body : ConditionalRuleBody} {data : ConditionalRuleData}
    (fields : conditionalRuleFields db isPartial body = .ok data) (omitted : data.dependsOnField = none) :
    body.dependsOnField = .missing := by
  simp only [conditionalRuleFields, bind_eq_ok, pure_eq_ok] at fields
  obtain ⟨_, noErrors, rfl⟩ := fields
  replace noErrors := raiseErrors_eq_ok.mp noErrors
  simp only [List.forall_mem_cons] at noErrors
  obtain ⟨_, _, noError, _⟩ := noErrors
  cases given : body.dependsOnField with
  | missing => rfl
  | refused message =>
    rw [given] at noError
    cases noError
  | given pk =>
    rw [given] at noError omitted
    cases found : related db.placedField pk with
    | ok field => simp [Submitted.convert, found, Submitted.value?] at omitted
    | error message => simp [Submitted.convert, found, Submitted.error?] at noError

/-- A section in the validated data is the one the body names. -/
theorem targetSection_given {db : Database} {isPartial : Bool} {body : ConditionalRuleBody} {data : ConditionalRuleData}
    (fields : conditionalRuleFields db isPartial body = .ok data) {id : Nat} :
    (∃ target, data.targetSection = some (some target) ∧ target.id = id) ↔ body.targetSection = .given (some id) := by
  simp only [conditionalRuleFields, bind_eq_ok, pure_eq_ok] at fields
  obtain ⟨_, noErrors, rfl⟩ := fields
  replace noErrors := raiseErrors_eq_ok.mp noErrors
  simp only [List.forall_mem_cons] at noErrors
  obtain ⟨noError, _⟩ := noErrors
  cases given : body.targetSection with
  | missing => simp [Submitted.convert, Submitted.value?]
  | refused message => simp [Submitted.convert, Submitted.value?]
  | given pk? =>
    cases pk? with
    | none => simp [Submitted.convert, Submitted.value?, relatedOrNull]
    | some pk =>
      rw [given] at noError
      cases found : db.sections.get pk with
      | none => simp [Submitted.convert, relatedOrNull, related, found, Functor.map, Except.map, Submitted.error?] at noError
      | some target =>
        have sameKey : target.id = pk := db.sections.keyed pk target found
        simp [Submitted.convert, relatedOrNull, related, found, Functor.map, Except.map, Submitted.value?, sameKey]

/-- An update of a rule that returns saves the rule of the URL. -/
theorem ruleUpdated_of_returns {surveyPk pk : Nat} {isPartial : Bool} {body : ConditionalRuleBody}
    (returns : Returns py w call) (request : call.request = .updateConditionalRule surveyPk pk isPartial body) :
    ∃ row data, row.surveyId = surveyPk ∧ conditionalRuleFields w.db isPartial body = .ok data ∧
      handle py w call = refreshed row.surveyId w
        { w.db with conditionalRules := w.db.conditionalRules.save (data.assign row) } := by
  obtain ⟨raised, _⟩ | ⟨row, data, _, rfl, fields, _, written⟩ := (served py w call).of_updateConditionalRule request
  · exact absurd (returns_iff.mp returns) raised
  · exact ⟨row, data, rfl, fields, (ending_snd _ _).symm.trans written⟩

theorem handle_targetsPlaced_iff (intact : Intact w.db) (targets : TargetsPlaced w.db) :
    TargetsPlaced (handle py w call).db ↔ NamesOwnSection py w (.write call) := by
  have ends := served py w call
  have left : (ending (call.procedure py) w).2 = handle py w call := ending_snd _ _
  constructor
  · intro targets' _ surveyPk pk isPartial body id isCall request omitted given returns
    cases isCall
    obtain ⟨row, data, rfl, fields, written⟩ := ruleUpdated_of_returns returns request
    obtain ⟨target, isTarget, rfl⟩ := (targetSection_given fields).mpr given
    rw [written] at targets'
    -- the saved rule names the section
    have isIn := targets' (data.assign row) (mem_rows_save.mpr (Or.inl rfl)) target.id
      (by simp [ConditionalRuleData.assign, isTarget, assignKey, key_section])
    exact isIn
  · intro named row member id names
    rw [← left] at member ⊢
    have intact' := ends.intact intact
    have before : SectionIn w.db row.surveyId id := by
      obtain old | ⟨old, isPartial, body, data, stored, rfl, request, fields, accepted, _, returned⟩ := ends.rule_cases member
      · exact targets row old id names
      · replace names : assignKey data.targetSection old.targetSectionId = some id := names
        cases isTarget : data.targetSection with
        | none =>
          rw [isTarget] at names
          exact targets old stored id names
        | some target? =>
          cases target? with
          | none =>
            rw [isTarget] at names
            cases names
          | some target =>
            rw [isTarget] at names
            obtain rfl := Option.some.inj names
            have isStored := (conditionalRuleFields_resolved fields).targetSection target (by rw [isTarget, Option.join_some])
            cases given : data.dependsOnField with
            | some dependsOn =>
              exact ⟨target, isStored, accepted.sectionSurvey dependsOn given target (by rw [isTarget, Option.join_some])⟩
            | none =>
              apply named call old.surveyId old.id isPartial body target.id rfl request (dependsOnField_missing fields given)
                ((targetSection_given fields).mp ⟨target, isTarget, rfl⟩)
              rw [returns_iff, returned]
    exact before.keep ends.sameParents (intact'.ruleTargetSection row member id names)

theorem serve_targetsPlaced_iff (action : ApiCall) (intact : Intact w.db) (targets : TargetsPlaced w.db) :
    TargetsPlaced (serve py w action).db ↔ NamesOwnSection py w action := by
  cases action with
  | write call => exact handle_targetsPlaced_iff intact targets
  | retrieve user pk =>
    rw [serve_retrieve_db]
    exact iff_of_true targets fun _ _ _ _ _ _ isCall => by cases isCall

theorem serve_placed (action : ApiCall) (intact : Intact w.db) (placed : RowsPlaced w.db) : RowsPlaced (serve py w action).db := by
  cases action with
  | write call =>
    obtain ⟨_, ends⟩ := handle_served py w call
    exact ends.placed intact placed
  | retrieve user pk =>
    rw [serve_retrieve_db]
    exact placed

/-- A database that is intact, with all that its rows name in their survey. -/
structure InPlace (db : Database) : Prop where
  intact : Intact db
  placed : RowsPlaced db
  targets : TargetsPlaced db

theorem inPlace_empty : InPlace World.empty.db where
  intact := intact_empty
  placed := ⟨fun row member => absurd member (rows_empty row), fun row member => absurd member (rows_empty row),
    fun row member => absurd member (rows_empty row)⟩
  targets := fun row member => absurd member (rows_empty row)

theorem serve_inPlace {action : ApiCall} (named : NamesOwnSection py w action) (before : InPlace w.db) :
    InPlace (serve py w action).db :=
  ⟨serve_intact action before.intact, serve_placed action before.intact before.placed,
    (serve_targetsPlaced_iff action before.intact before.targets).mpr named⟩

theorem inPlace_draftDatabase : InPlace draftDatabase where
  intact := intact_draftDatabase
  placed := by
    refine ⟨fun row member => ?_, fun row member => ?_, fun row member => absurd member (rows_empty row)⟩
    · obtain rfl := List.mem_singleton.mp member
      refine ⟨⟨_, rfl, rfl⟩, fun id names => ?_⟩
      obtain rfl := Option.some.inj names
      exact ⟨_, rfl, rfl⟩
    · obtain rfl := List.mem_singleton.mp member
      exact ⟨⟨_, rfl, rfl⟩, ⟨_, rfl, rfl⟩⟩
  targets row member id names := by
    obtain rfl := List.mem_singleton.mp member
    cases names

/-- In every run of the API from a database with rows in place, rules, dependencies and
answers name fields of their own survey; the target sections of rules are in theirs
exactly when every accepted update says so. -/
theorem targets_placed_iff (py : Interpreter) (start : InPlace w.db) (calls : List ApiCall) :
    (∀ state ∈ trace (serve py) w calls, RowsPlaced state.db) ∧
      ((∀ state ∈ trace (serve py) w calls, TargetsPlaced state.db) ↔
        Along (serve py) (NamesOwnSection py) w calls) := by
  have kept : ∀ (state : World) (action : ApiCall), Intact state.db ∧ RowsPlaced state.db →
      Intact (serve py state action).db ∧ RowsPlaced (serve py state action).db :=
    fun _ action before => ⟨serve_intact action before.1, serve_placed action before.1 before.2⟩
  have both : Intact w.db ∧ RowsPlaced w.db := ⟨start.intact, start.placed⟩
  constructor
  · intro state member
    exact (trace_invariant kept both calls state member).2
  · have always : Along (serve py) (fun state _ => Intact state.db) w calls :=
      Along.mono (fun _ _ holds _ => holds.1) (fun state action _ => kept state action) both
        (along_of_forall (fun _ _ => trivial) _ calls)
    have agree : ∀ (state : World) (action : ApiCall), Intact state.db → TargetsPlaced state.db →
        (TargetsPlaced (serve py state action).db ↔ NamesOwnSection py state action) :=
      fun _ action => serve_targetsPlaced_iff action
    exact forall_trace_iff agree start.targets always

/-- `PATCH {"target_section": id}` -/
def targetSectionCall (id : Nat) : ApiCall :=
  .write (adminCall (.updateConditionalRule 1 1 true ⟨.given (some id), .missing, .missing, .missing, .missing⟩))

/-- The rule of the draft is given its own second section, then that of another survey. -/
def borrowingRun : List ApiCall :=
  [targetSectionCall 2, .write (adminCall (.createSurvey ⟨.given "Fitness", .missing, .missing⟩)),
    .write (adminCall (.createSection 2 ⟨.given "Sports", .missing, .missing⟩)), targetSectionCall 3]

/-- All but the last update name a section of the rule's survey. -/
theorem targets_placed_borrowed :
    RowsPlaced (run (serve bareInterpreter) draftWorld borrowingRun).db ∧
      ¬ TargetsPlaced (run (serve bareInterpreter) draftWorld borrowingRun).db ∧
      ¬ Along (serve bareInterpreter) (NamesOwnSection bareInterpreter) draftWorld borrowingRun := by
  have rule : (run (serve bareInterpreter) draftWorld borrowingRun).db.conditionalRules.get 1 =
      some ⟨1, 1, some 3, some 2, 1, .equals, .str "a"⟩ := rfl
  have parent : (run (serve bareInterpreter) draftWorld borrowingRun).db.sections.get 3 =
      some ⟨3, 2, "Sports", "", 1⟩ := by decide +kernel
  have borrowed : ¬ TargetsPlaced (run (serve bareInterpreter) draftWorld borrowingRun).db := by
    intro targets
    obtain ⟨row, stored, inSurvey⟩ := targets ⟨1, 1, some 3, some 2, 1, .equals, .str "a"⟩ (mem_rows.mpr rule) 3 rfl
    rw [parent, Option.some.injEq] at stored
    rw [← stored] at inSurvey
    cases inSurvey
  obtain ⟨placed, targets_iff⟩ := @targets_placed_iff draftWorld bareInterpreter inPlace_draftDatabase borrowingRun
  exact ⟨placed _ (run_mem_trace _ _), borrowed, fun named => borrowed (targets_iff.mpr named _ (run_mem_trace _ _))⟩

end Targets

end SurveyPlatform.Verified

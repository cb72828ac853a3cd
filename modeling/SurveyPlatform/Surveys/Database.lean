import SurveyPlatform.Library.Programs
import SurveyPlatform.Surveys.Validators

/-! # The database and the statements the code runs on it

`Database` has one table for each model; `World` adds the cache.  A statement is
a program on the world: it changes the rows it names, or raises what the
database reports (`IntegrityError` for a constraint, `DataError` for a number
out of range, `DatabaseError` for an update that found no row) and changes
nothing.  Deletes follow `on_delete=CASCADE`.
-/

namespace SurveyPlatform.Surveys

open SurveyPlatform.Library SurveyPlatform.Library.Program SurveyPlatform.Python

structure Database where
  surveys : Table Survey
  sections : Table Section
  fields : Table Field
  conditionalRules : Table ConditionalRule
  fieldDependencies : Table FieldDependency
  responses : Table SurveyResponse
  fieldResponses : Table FieldResponse

namespace Database

def empty : Database := ⟨.empty, .empty, .empty, .empty, .empty, .empty, .empty⟩

/-! ## Queries -/

/-- A field with its `section`. -/
def placedField (db : Database) (id : Nat) : Option PlacedField :=
  (db.fields.get id).bind fun field => field.placeIn (db.sections.get field.sectionId)

/-- `survey.sections.all()` -/
def sectionsOf (db : Database) (surveyId : Nat) : List Section :=
  db.sections.rows.filter (·.surveyId = surveyId)

/-- `section.fields.all()` -/
def fieldsOf (db : Database) (sectionId : Nat) : List Field :=
  db.fields.rows.filter (·.sectionId = sectionId)

theorem placedField_eq_some {db : Database} {id : Nat} {field : PlacedField} :
    db.placedField id = some field ↔
      db.fields.get id = some field.toField ∧ db.sections.get field.sectionId = some field.sectionRow := by
  simp only [placedField, Option.bind_eq_some_iff, Field.placeIn_eq_some]
  constructor
  · intro holds
    obtain ⟨row, found, parent, rfl⟩ := holds
    exact ⟨found, parent⟩
  · intro holds
    obtain ⟨found, parent⟩ := holds
    exact ⟨field.toField, found, parent, rfl⟩

theorem mem_sectionsOf {db : Database} {surveyId : Nat} {row : Section} :
    row ∈ db.sectionsOf surveyId ↔ db.sections.get row.id = some row ∧ row.surveyId = surveyId := by
  simp [sectionsOf, Table.mem_rows]

theorem mem_fieldsOf {db : Database} {sectionId : Nat} {row : Field} :
    row ∈ db.fieldsOf sectionId ↔ db.fields.get row.id = some row ∧ row.sectionId = sectionId := by
  simp [fieldsOf, Table.mem_rows]

/-! ## Constraints -/

/-- The largest number an integer column of the database holds. -/
def maxInteger : Nat := 2147483647

/-- A foreign key must find its row. -/
def requireRow {α : Type} [Keyed α] (table : Table α) (id : Nat) : Except PyExn Unit :=
  if (table.get id).isSome then .ok () else .error .integrityError

def sectionConstraints (db : Database) (row : Section) : Except PyExn Unit := do
  if row.order > maxInteger then throw .dataError
  requireRow db.surveys row.surveyId
  -- `unique_together = [("survey", "order")]`
  if db.sections.rows.any fun other =>
      other.id != row.id && other.surveyId == row.surveyId && other.order == row.order then
    throw .integrityError

def fieldConstraints (db : Database) (row : Field) : Except PyExn Unit := do
  if row.order > maxInteger then throw .dataError
  -- the JSON columns are `NOT NULL`; serializers refuse `null`, admin forms do not
  if row.options.isNone || row.validationRules.isNone then throw .integrityError
  requireRow db.sections row.sectionId
  -- `unique_together = [("section", "order")]`
  if db.fields.rows.any fun other =>
      other.id != row.id && other.sectionId == row.sectionId && other.order == row.order then
    throw .integrityError

def conditionalRuleConstraints (db : Database) (row : ConditionalRule) : Except PyExn Unit := do
  requireRow db.surveys row.surveyId
  whenSome row.targetSectionId (requireRow db.sections)
  whenSome row.targetFieldId (requireRow db.fields)
  requireRow db.fields row.dependsOnFieldId

def fieldDependencyConstraints (db : Database) (row : FieldDependency) : Except PyExn Unit := do
  requireRow db.surveys row.surveyId
  requireRow db.fields row.dependentFieldId
  requireRow db.fields row.dependsOnFieldId

/-! ## Cascading deletes -/

def deleteFields (db : Database) (gone : Nat → Bool) : Database :=
  { db with
    fields := db.fields.deleteWhere fun row => gone row.id
    conditionalRules := db.conditionalRules.deleteWhere fun row =>
      row.targetFieldId.any gone || gone row.dependsOnFieldId
    fieldDependencies := db.fieldDependencies.deleteWhere fun row =>
      gone row.dependentFieldId || gone row.dependsOnFieldId
    fieldResponses := db.fieldResponses.deleteWhere fun row => gone row.fieldId }

def deleteSections (db : Database) (gone : Nat → Bool) : Database :=
  -- the fields of the sections go first, with all that refers to them
  let db' := db.deleteFields fun id => (db.fields.get id).any fun row => gone row.sectionId
  { db' with
    sections := db.sections.deleteWhere fun row => gone row.id
    conditionalRules := db'.conditionalRules.deleteWhere fun row => row.targetSectionId.any gone }

def deleteResponses (db : Database) (gone : Nat → Bool) : Database :=
  { db with
    responses := db.responses.deleteWhere fun row => gone row.id
    fieldResponses := db.fieldResponses.deleteWhere fun row => gone row.surveyResponseId }

def deleteSurvey (db : Database) (surveyId : Nat) : Database :=
  let db' := (db.deleteSections fun id => (db.sections.get id).any (·.surveyId = surveyId)).deleteResponses
    fun id => (db.responses.get id).any (·.surveyId = surveyId)
  { db' with
    surveys := db.surveys.deleteWhere (·.id = surveyId)
    -- a rule may name the survey but none of its sections and fields
    conditionalRules := db'.conditionalRules.deleteWhere (·.surveyId = surveyId)
    fieldDependencies := db'.fieldDependencies.deleteWhere (·.surveyId = surveyId) }

end Database

/-! ## The world a request runs in -/

structure World where
  db : Database
  cache : String → Option Json

/-- A computation on the world that may raise. -/
abbrev Procedure := EStateM PyExn World

/-- A query. -/
def query {α : Type} (look : Database → Except PyExn α) : Procedure α := reading fun w => look w.db

/-- A change of rows. -/
def statement (change : Database → Database) : Procedure Unit :=
  writing fun w => { w with db := change w.db }

/-- `with transaction.atomic():`; the cache is not part of the transaction. -/
def atomicBlock {α : Type} (body : Procedure α) : Procedure α :=
  atomic (fun before after => { after with db := before.db }) body

theorem query_eq_ok_iff {α : Type} {look : Database → Except PyExn α} {w w' : World} {a : α} :
    query look w = .ok a w' ↔ look w.db = .ok a ∧ w' = w :=
  reading_eq_ok_iff

theorem query_bind_eq_ok_iff {α β : Type} {look : Database → Except PyExn α} {next : α → Procedure β}
    {w w' : World} {b : β} :
    (query look >>= next) w = .ok b w' ↔ ∃ a, look w.db = .ok a ∧ next a w = .ok b w' :=
  reading_bind_eq_ok_iff

/-- The same for a check, which returns nothing. -/
theorem check_bind_eq_ok_iff {β : Type} {check : Database → Except PyExn Unit} {next : Unit → Procedure β}
    {w w' : World} {b : β} :
    (query check >>= next) w = .ok b w' ↔ check w.db = .ok () ∧ next () w = .ok b w' := by
  rw [query_bind_eq_ok_iff, Unique.exists_iff]

theorem query_bind_of_ok {α β : Type} {look : Database → Except PyExn α} {next : α → Procedure β} {w : World}
    {a : α} (found : look w.db = .ok a) : (query look >>= next) w = next a w :=
  reading_bind_ok found

theorem query_bind_of_error {α β : Type} {look : Database → Except PyExn α} {next : α → Procedure β} {w : World}
    {exn : PyExn} (raised : look w.db = .error exn) : (query look >>= next) w = .error exn w :=
  reading_bind_error raised

/-- After a query only what it returned matters. -/
theorem query_bind_congr {α β : Type} {look : Database → Except PyExn α} {next next' : α → Procedure β} {w : World}
    (agree : ∀ a, look w.db = .ok a → next a w = next' a w) : (query look >>= next) w = (query look >>= next') w := by
  cases found : look w.db with
  | error exn => rw [query_bind_of_error found, query_bind_of_error found]
  | ok a => rw [query_bind_of_ok found, query_bind_of_ok found, agree a found]

/-- Two worlds that a query does not tell apart. -/
theorem outcome_query_bind_congr {α β : Type} {look : Database → Except PyExn α} {next next' : α → Procedure β}
    {w w' : World} (sameLook : look w'.db = look w.db)
    (agree : ∀ a, look w.db = .ok a → outcome (next' a) w' = outcome (next a) w) :
    outcome (query look >>= next') w' = outcome (query look >>= next) w := by
  rw [query, outcome_reading_bind, outcome_reading_bind, sameLook]
  cases found : look w.db with
  | error exn => rfl
  | ok a => exact agree a found

/-- A query that cannot raise. -/
theorem query_pure_bind {α β : Type} (look : Database → α) (next : α → Procedure β) (w : World) :
    (query (fun db => pure (look db)) >>= next) w = next (look w.db) w := rfl

theorem final_query_pure_bind {α β : Type} (look : Database → α) (next : α → Procedure β) (w : World) :
    final (query (fun db => pure (look db)) >>= next) w = final (next (look w.db)) w := by
  rw [final, query_pure_bind, final]

/-- A query changes nothing. -/
theorem final_query {α : Type} (look : Database → Except PyExn α) (w : World) : final (query look) w = w := by
  unfold final query reading
  dsimp only
  cases look w.db <;> rfl

/-- A query returns what it finds. -/
theorem outcome_query {α : Type} (look : Database → Except PyExn α) (w : World) : outcome (query look) w = look w.db := by
  unfold outcome query reading
  dsimp only
  cases look w.db <;> rfl

/-- A chain of queries changes nothing when the rest does not. -/
theorem final_query_bind_eq_self {α β : Type} {look : Database → Except PyExn α} {next : α → Procedure β} {w : World} :
    final (query look >>= next) w = w ↔ ∀ a, look w.db = .ok a → final (next a) w = w := by
  constructor
  · intro same a found
    rwa [final, query_bind_of_ok found] at same
  · intro rest
    cases found : look w.db with
    | ok a =>
      rw [final, query_bind_of_ok found]
      exact rest a found
    | error exn => rw [final, query_bind_of_error found]

theorem final_query_bind_same {α β : Type} {look : Database → Except PyExn α} {next : α → Procedure β} {w : World}
    (rest : ∀ a, final (next a) w = w) : final (query look >>= next) w = w :=
  final_query_bind_eq_self.mpr fun a _ => rest a

theorem statement_eq_ok_iff {change : Database → Database} {w w' : World} {u : Unit} :
    statement change w = .ok u w' ↔ w' = { w with db := change w.db } :=
  writing_eq_ok_iff

/-! ## Statements -/

/-- Where the rows of a model are stored, and what the database checks of one. -/
structure Model (α : Type) [Keyed α] where
  table : Database → Table α
  store : Database → Table α → Database
  constraints : Database → α → Except PyExn Unit

namespace Model

variable {α : Type} [Keyed α] (model : Model α)

/-- `INSERT` of a row under the next id, after its constraints are checked. -/
def insert (make : Nat → α) (keyedMake : ∀ i, key (make i) = i) : Procedure α := do
  let row ← query fun db => do
    let row := make (model.table db).next
    model.constraints db row
    return row
  -- a refused row leaves its number to the next one; a sequence of the database would have moved on
  statement fun db => model.store db ((model.table db).insert make keyedMake)
  return row

/-- `UPDATE` of some columns of the row with this id. -/
def update (id : Nat) (assign : α → α) (keepsKey : ∀ row, key (assign row) = key row) : Procedure Unit := do
  -- `save(update_fields=...)` raises when the row is gone
  query fun db =>
    match (model.table db).get id with
    | none => .error .databaseError
    | some row => model.constraints db (assign row)
  statement fun db => model.store db ((model.table db).modify id assign keepsKey)

/-- `save()` of a row that has its key: every column is written. -/
def save (row : α) : Procedure Unit := do
  query fun db => model.constraints db row
  statement fun db => model.store db ((model.table db).save row)

variable {model : Model α}

theorem save_of_constraints {row : α} {w : World} (checked : model.constraints w.db row = .ok ()) :
    model.save row w = .ok () { w with db := model.store w.db ((model.table w.db).save row) } :=
  query_bind_of_ok checked

theorem save_of_error {row : α} {w : World} {exn : PyExn} (refused : model.constraints w.db row = .error exn) :
    model.save row w = .error exn w :=
  query_bind_of_error refused

theorem insert_eq_ok_iff {make : Nat → α} {keyedMake : ∀ i, key (make i) = i} {w w' : World} {row : α} :
    model.insert make keyedMake w = .ok row w' ↔
      row = make (model.table w.db).next ∧ model.constraints w.db row = .ok () ∧
        w' = { w with db := model.store w.db ((model.table w.db).insert make keyedMake) } := by
  simp only [insert, bind_eq_ok_iff, query_eq_ok_iff, statement_eq_ok_iff, pure_eq_ok_iff, bind_eq_ok, pure_eq_ok]
  constructor
  · intro holds
    obtain ⟨_, _, ⟨⟨_, checked, rfl⟩, rfl⟩, _, _, rfl, rfl, rfl⟩ := holds
    exact ⟨rfl, checked, rfl⟩
  · intro holds
    obtain ⟨rfl, checked, rfl⟩ := holds
    exact ⟨_, w, ⟨⟨(), checked, rfl⟩, rfl⟩, (), _, rfl, rfl, rfl⟩

theorem insert_of_constraints {make : Nat → α} {w : World} (keyedMake : ∀ i, key (make i) = i)
    (checked : model.constraints w.db (make (model.table w.db).next) = .ok ()) :
    model.insert make keyedMake w = .ok (make (model.table w.db).next)
      { w with db := model.store w.db ((model.table w.db).insert make keyedMake) } :=
  insert_eq_ok_iff.mpr ⟨rfl, checked, rfl⟩

theorem insert_of_error {make : Nat → α} {w : World} {exn : PyExn} (keyedMake : ∀ i, key (make i) = i)
    (refused : model.constraints w.db (make (model.table w.db).next) = .error exn) :
    model.insert make keyedMake w = .error exn w :=
  query_bind_of_error (by simp only [refused]; rfl)

variable (model) in
/-- Returned or raised, an insert adds its row or changes nothing. -/
theorem final_insert_db (make : Nat → α) (keyedMake : ∀ i, key (make i) = i) (w : World) :
    (final (model.insert make keyedMake) w).db = w.db ∨
      (final (model.insert make keyedMake) w).db = model.store w.db ((model.table w.db).insert make keyedMake) := by
  cases checked : model.constraints w.db (make (model.table w.db).next) with
  | ok _ =>
    rw [final_of_ok (insert_of_constraints keyedMake checked)]
    exact Or.inr rfl
  | error exn =>
    rw [final_of_error (insert_of_error keyedMake checked)]
    exact Or.inl rfl

theorem update_eq_ok_iff {id : Nat} {assign : α → α} {keepsKey : ∀ row, key (assign row) = key row}
    {w w' : World} {u : Unit} :
    model.update id assign keepsKey w = .ok u w' ↔
      ∃ row, (model.table w.db).get id = some row ∧ model.constraints w.db (assign row) = .ok () ∧
        w' = { w with db := model.store w.db ((model.table w.db).modify id assign keepsKey) } := by
  simp only [update, bind_eq_ok_iff, query_eq_ok_iff, statement_eq_ok_iff]
  cases (model.table w.db).get id with
  | none => simp
  | some row =>
    constructor
    · intro holds
      obtain ⟨_, _, ⟨checked, rfl⟩, rfl⟩ := holds
      exact ⟨row, rfl, checked, rfl⟩
    · intro holds
      obtain ⟨other, same, checked, rfl⟩ := holds
      cases same
      exact ⟨(), w, ⟨checked, rfl⟩, rfl⟩

end Model

def surveyModel : Model Survey :=
  ⟨Database.surveys, fun db surveys => { db with surveys }, fun _ _ => .ok ()⟩

def sectionModel : Model Section :=
  ⟨Database.sections, fun db sections => { db with sections }, Database.sectionConstraints⟩

def fieldModel : Model Field :=
  ⟨Database.fields, fun db fields => { db with fields }, Database.fieldConstraints⟩

def conditionalRuleModel : Model ConditionalRule :=
  ⟨Database.conditionalRules, fun db conditionalRules => { db with conditionalRules },
    Database.conditionalRuleConstraints⟩

def fieldDependencyModel : Model FieldDependency :=
  ⟨Database.fieldDependencies, fun db fieldDependencies => { db with fieldDependencies },
    Database.fieldDependencyConstraints⟩

/-- `self.save(update_fields=["status"])` -/
def saveStatus (surveyId : Nat) (status : SurveyStatus) : Procedure Unit :=
  surveyModel.update surveyId (·.withStatus status) (Survey.key_withStatus status)

def Database.setStatus (db : Database) (surveyId : Nat) (status : SurveyStatus) : Database :=
  { db with surveys := db.surveys.modify surveyId (·.withStatus status) (Survey.key_withStatus status) }

theorem saveStatus_of_some {surveyId : Nat} {status : SurveyStatus} {w : World} {survey : Survey}
    (stored : w.db.surveys.get surveyId = some survey) :
    saveStatus surveyId status w = .ok () { w with db := w.db.setStatus surveyId status } :=
  Model.update_eq_ok_iff.mpr ⟨survey, stored, rfl, rfl⟩

theorem saveStatus_of_none {surveyId : Nat} {status : SurveyStatus} {w : World}
    (missing : w.db.surveys.get surveyId = none) : saveStatus surveyId status w = .error .databaseError w := by
  rw [saveStatus, Model.update, query_bind_of_error]
  rw [show surveyModel.table w.db = w.db.surveys from rfl, missing]

/-- `instance.save()`: every column is written. -/
def saveSurvey (row : Survey) : Procedure Unit :=
  statement fun db => { db with surveys := db.surveys.save row }

/-! ## The survey cache -/

/-- `_make_key(object_id, "structure")` -/
def structureKey (objectId : String) : String := "survey:" ++ objectId ++ ":structure"

/-- `SurveyCacheService.invalidate_structure(survey_id)` -/
def invalidateStructure (objectId : String) : Procedure Unit :=
  writing fun w => { w with cache := fun key => if key = structureKey objectId then none else w.cache key }

theorem invalidateStructure_eq_ok {objectId : String} {w w' : World} {u : Unit}
    (result : invalidateStructure objectId w = .ok u w') : w'.db = w.db := by
  cases result
  rfl

/-! ## A small survey -/

/-- A draft with a dropdown in each of two sections.  The second dropdown is shown
when the first is `"a"`, and loses an option when it is `"b"`. -/
def draftDatabase : Database where
  surveys := Table.empty.insert (Survey.withId ⟨0, "Health", "", 1, .draft⟩) (Survey.key_withId _)
  sections := (Table.empty.insert (Section.withId ⟨0, 1, "You", "", 1⟩) (Section.key_withId _)).insert
    (Section.withId ⟨0, 1, "Habits", "", 2⟩) (Section.key_withId _)
  fields := (Table.empty.insert
    (Field.withId ⟨0, 1, "Smoker", .dropdown, false, 1, .list [.str "a", .str "b"], false, .object []⟩)
    (Field.key_withId _)).insert
    (Field.withId ⟨0, 2, "Brand", .dropdown, false, 1, .list [.str "c", .str "d"], false, .object []⟩)
    (Field.key_withId _)
  conditionalRules := Table.empty.insert (ConditionalRule.withId ⟨0, 1, none, some 2, 1, .equals, .str "a"⟩)
    (ConditionalRule.key_withId _)
  fieldDependencies := Table.empty.insert
    (FieldDependency.withId ⟨0, 1, 2, 1, .equals, .str "b", .hideOptions, .list [.str "c"]⟩)
    (FieldDependency.key_withId _)
  responses := .empty
  fieldResponses := .empty

def draftWorld : World := ⟨draftDatabase, fun _ => none⟩

end SurveyPlatform.Surveys

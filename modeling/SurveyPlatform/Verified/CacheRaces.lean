import SurveyPlatform.Library.Runs
import SurveyPlatform.Surveys.CacheSteps
import SurveyPlatform.Verified.CacheCoherence

/-! # The cache under interleaved reads and operations

Reads and service operations run statement by statement under any schedule.  An
operation that writes before it clears leaves its survey owed a clearing in
between.  Two steps can leave a stale entry for good: a read that stores a
survey which was changed since it was read, and a delete whose entry was filled
again between its clearing and its write.  Along schedules without these the
cache is coherent whenever no request is under way (`races_coherent`).
-/

namespace SurveyPlatform.Verified

open SurveyPlatform.Library SurveyPlatform.Library.Program SurveyPlatform.Python SurveyPlatform.Surveys

/-! ## What an operation writes -/

/-- The rows after the write of an operation. -/
def effect (db : Database) : Operation → Database
  | .updateSection current data =>
    { db with sections := db.sections.modify current.id data.assign data.key_assign }
  | .deleteSection current => db.deleteSections (· == current.id)
  | .createField parent data =>
    let new := data.assign (blankField parent.id)
    { db with fields := db.fields.insert new.withId new.key_withId }
  | .updateField current data => { db with fields := db.fields.modify current.id data.assign data.key_assign }
  | .deleteField current => db.deleteFields (· == current.id)
  | .createConditionalRule data surveyPk =>
    let new := data.assign (blankConditionalRule surveyPk)
    { db with conditionalRules := db.conditionalRules.insert new.withId new.key_withId }
  | .updateConditionalRule current data _ =>
    { db with conditionalRules := db.conditionalRules.modify current.id data.assign data.key_assign }
  | .deleteConditionalRule current _ =>
    { db with conditionalRules := db.conditionalRules.deleteWhere (·.id == current.id) }
  | .createFieldDependency data surveyPk =>
    let new := data.assign (blankFieldDependency surveyPk)
    { db with fieldDependencies := db.fieldDependencies.insert new.withId new.key_withId }
  | .updateFieldDependency current data _ =>
    { db with fieldDependencies := db.fieldDependencies.modify current.id data.assign data.key_assign }
  | .deleteFieldDependency current _ =>
    { db with fieldDependencies := db.fieldDependencies.deleteWhere (·.id == current.id) }

/-- The program raises without a trace, or returns with one change or none. -/
def AtMostWrites (w : World) (db : Database) (program : Procedure Unit) : Prop :=
  (∃ exn, program w = .error exn w) ∨ program w = .ok () w ∨ program w = .ok () (withDb w db)

section Writes

variable {w : World} {db : Database}

theorem atMostWrites_of_results {program : Procedure Unit} (raised : ∀ exn t, program w = .error exn t → t = w)
    (returned : ∀ u t, program w = .ok u t → t = w ∨ t = withDb w db) : AtMostWrites w db program := by
  cases result : program w with
  | error exn t =>
    rw [raised exn t result] at result
    exact Or.inl ⟨exn, result⟩
  | ok u t =>
    right
    cases returned u t result with
    | inl same => exact Or.inl (same ▸ result)
    | inr written => exact Or.inr (written ▸ result)

theorem atMostWrites_query_bind {α : Type} {look : Database → Except PyExn α} {next : α → Procedure Unit}
    (rest : ∀ a, AtMostWrites w db (next a)) : AtMostWrites w db (query look >>= next) := by
  cases found : look w.db with
  | error exn => exact Or.inl ⟨exn, query_bind_of_error found⟩
  | ok a =>
    simp only [AtMostWrites, query_bind_of_ok found]
    exact rest a

/-- A program whose result is dropped. -/
theorem atMostWrites_bind {α : Type} {program : Procedure α} {next : α → Procedure Unit}
    (drops : ∀ a t, next a t = .ok () t) (raised : ∀ exn t, program w = .error exn t → t = w)
    (returned : ∀ a t, program w = .ok a t → t = withDb w db) : AtMostWrites w db (program >>= next) := by
  cases result : program w with
  | error exn t =>
    rw [raised exn t result] at result
    exact Or.inl ⟨exn, bind_of_error result⟩
  | ok a t =>
    rw [returned a t result] at result
    exact Or.inr (Or.inr ((bind_of_ok result).trans (drops a _)))

theorem write_atMostWrites (py : Interpreter) (operation : Operation) (w : World) :
    AtMostWrites w (effect w.db operation) (operation.write py) := by
  cases operation with
  | updateSection current data =>
    exact atMostWrites_of_results (fun _ _ => atomic_update_eq_error) (fun _ _ => atomic_update_eq_ok)
  | updateField current data =>
    apply atMostWrites_query_bind
    intro oldOptions
    exact atMostWrites_of_results (fun _ _ => atomic_update_eq_error) (fun _ _ => atomic_update_eq_ok)
  | createField parent data =>
    apply atMostWrites_bind (fun _ _ => rfl) (fun _ _ => translating_insert_eq_error)
    intro row t returned
    exact (Model.insert_eq_ok_iff.mp (translating_eq_ok_iff.mp returned)).2.2
  | createConditionalRule data surveyPk =>
    apply atMostWrites_bind (fun _ _ => rfl) (fun _ _ => insert_eq_error)
    intro row t returned
    exact (Model.insert_eq_ok_iff.mp returned).2.2
  | createFieldDependency data surveyPk =>
    apply atMostWrites_bind (fun _ _ => rfl) (fun _ _ => insert_eq_error)
    intro row t returned
    exact (Model.insert_eq_ok_iff.mp returned).2.2
  | updateConditionalRule current data surveyPk =>
    exact atMostWrites_of_results (fun _ _ => saveFields_eq_error) (fun _ _ => saveFields_eq_ok)
  | updateFieldDependency current data surveyPk =>
    exact atMostWrites_of_results (fun _ _ => saveFields_eq_error) (fun _ _ => saveFields_eq_ok)
  | deleteSection current => exact Or.inr (Or.inr rfl)
  | deleteField current => exact Or.inr (Or.inr rfl)
  | deleteConditionalRule current surveyPk => exact Or.inr (Or.inr rfl)
  | deleteFieldDependency current surveyPk => exact Or.inr (Or.inr rfl)

end Writes

/-! ## Where it writes -/

/-- The sections a deletion takes along. -/
def goneSection : Operation → Nat → Bool
  | .deleteSection current => (· == current.id)
  | _ => fun _ => false

/-- The fields a deletion takes along. -/
def goneField (db : Database) : Operation → Nat → Bool
  | .deleteSection current => fieldsIn db (· == current.id)
  | .deleteField current => (· == current.id)
  | _ => fun _ => false

/-- The row the operation changes is there; for a new row, always. -/
def StillStored (db : Database) : Operation → Prop
  | .updateSection current _ | .deleteSection current => db.sections.get current.id ≠ none
  | .updateField current _ | .deleteField current => db.fields.get current.id ≠ none
  | .updateConditionalRule current _ _ | .deleteConditionalRule current _ => db.conditionalRules.get current.id ≠ none
  | .updateFieldDependency current _ _ | .deleteFieldDependency current _ => db.fieldDependencies.get current.id ≠ none
  | .createField _ _ | .createConditionalRule _ _ | .createFieldDependency _ _ => True

/-- The instances are in the survey whose entry is cleared, as far as they are still stored. -/
def Placed (db : Database) : Operation → Prop
  | .updateSection current _ | .deleteSection current | .createField current _ =>
    db.sections.Knows Section.surveyId current.id current.surveyId
  | .updateField current _ | .deleteField current =>
    db.fields.Knows Field.sectionId current.id current.sectionId ∧
      db.sections.Knows Section.surveyId current.sectionId current.surveyId
  | .updateConditionalRule current _ surveyPk | .deleteConditionalRule current surveyPk =>
    db.conditionalRules.Knows ConditionalRule.surveyId current.id surveyPk
  | .updateFieldDependency current _ surveyPk | .deleteFieldDependency current surveyPk =>
    db.fieldDependencies.Knows FieldDependency.surveyId current.id surveyPk
  | .createConditionalRule _ _ | .createFieldDependency _ _ => True

/-- The operation changes no row of this survey. -/
def Spares (db : Database) (surveyId : Nat) (operation : Operation) : Prop :=
  (StillStored db operation → surveyId ≠ operation.surveyId) ∧
    Unreferenced db (goneSection operation) (goneField db operation) surveyId

section Frames

variable {db db' : Database} {operation : Operation} {surveyId : Nat}

theorem unreferenced_nothing : Unreferenced db (fun _ => false) (fun _ => false) surveyId := by
  refine ⟨fun _ rule _ _ => ?_, fun _ dep _ _ => rfl⟩
  cases rule.targetSectionId <;> cases rule.targetFieldId <;> rfl

/-- Only deletes take rows of other surveys along. -/
theorem spares_of_writesFirst (writesFirst : operation.clearsFirst = false) (other : surveyId ≠ operation.surveyId) :
    Spares db surveyId operation := by
  refine ⟨fun _ => other, ?_⟩
  cases operation <;> first | exact unreferenced_nothing | cases writesFirst

theorem sameDetail_effect (placed : Placed db operation) (spares : Spares db surveyId operation) :
    SameDetail db (effect db operation) surveyId := by
  obtain ⟨notOwn, unreferenced⟩ := spares
  have isThere : ∀ {α : Type} {row : α} {got : Option α}, got = some row → got ≠ none := by
    intro α row got found
    rw [found]
    exact Option.some_ne_none row
  -- a row that is stored is in the survey of the operation, so not in this one
  cases operation with
  | updateSection current data =>
    apply sameDetail_sectionUpdate
    intro row found inSurvey
    exact notOwn (isThere found) (inSurvey.symm.trans (placed.column_eq row found))
  | deleteSection current =>
    apply sameDetail_deleteSection unreferenced
    intro row found inSurvey
    exact notOwn (isThere found) (inSurvey.symm.trans (placed.column_eq row found))
  | createField parent data =>
    apply sameDetail_fieldInsert
    intro row found inSurvey
    exact notOwn trivial (inSurvey.symm.trans (placed.column_eq row found))
  | updateField current data =>
    obtain ⟨inSection, parentPlaced⟩ := placed
    apply sameDetail_fieldUpdate
    intro row found parent parentFound inSurvey
    rw [inSection.column_eq row found] at parentFound
    exact notOwn (isThere found) (inSurvey.symm.trans (parentPlaced.column_eq parent parentFound))
  | deleteField current =>
    obtain ⟨inSection, parentPlaced⟩ := placed
    apply sameDetail_deleteField unreferenced
    intro row found parent parentFound inSurvey
    rw [inSection.column_eq row found] at parentFound
    exact notOwn (isThere found) (inSurvey.symm.trans (parentPlaced.column_eq parent parentFound))
  | createConditionalRule data surveyPk => exact sameDetail_ruleInsert (Ne.symm (notOwn trivial))
  | updateConditionalRule current data surveyPk =>
    apply sameDetail_ruleUpdate
    intro row found inSurvey
    exact notOwn (isThere found) (inSurvey.symm.trans (placed.column_eq row found))
  | deleteConditionalRule current surveyPk =>
    apply sameDetail_ruleDelete
    intro row found inSurvey
    exact notOwn (isThere found) (inSurvey.symm.trans (placed.column_eq row found))
  | createFieldDependency data surveyPk => exact sameDetail_dependencyInsert (Ne.symm (notOwn trivial))
  | updateFieldDependency current data surveyPk =>
    apply sameDetail_dependencyUpdate
    intro row found inSurvey
    exact notOwn (isThere found) (inSurvey.symm.trans (placed.column_eq row found))
  | deleteFieldDependency current surveyPk =>
    apply sameDetail_dependencyDelete
    intro row found inSurvey
    exact notOwn (isThere found) (inSurvey.symm.trans (placed.column_eq row found))

/-- What was known of a row is still known. -/
structure KeepsKnown (db db' : Database) : Prop where
  sections : ∀ id value, db.sections.Knows Section.surveyId id value → db'.sections.Knows Section.surveyId id value
  fields : ∀ id value, db.fields.Knows Field.sectionId id value → db'.fields.Knows Field.sectionId id value
  conditionalRules : ∀ id value, db.conditionalRules.Knows ConditionalRule.surveyId id value →
    db'.conditionalRules.Knows ConditionalRule.surveyId id value
  fieldDependencies : ∀ id value, db.fieldDependencies.Knows FieldDependency.surveyId id value →
    db'.fieldDependencies.Knows FieldDependency.surveyId id value

theorem keepsKnown_effect (db : Database) (operation : Operation) : KeepsKnown db (effect db operation) := by
  cases operation with
  | updateSection current data =>
    exact ⟨fun _ _ known => known.modify data.key_assign fun _ => rfl, fun _ _ known => known, fun _ _ known => known,
      fun _ _ known => known⟩
  | deleteSection current =>
    exact ⟨fun _ _ known => known.deleteWhere _, fun _ _ known => known.deleteWhere _,
      fun _ _ known => (known.deleteWhere _).deleteWhere _, fun _ _ known => known.deleteWhere _⟩
  | createField parent data =>
    exact ⟨fun _ _ known => known, fun _ _ known => known.insert _ (Field.key_withId _),
      fun _ _ known => known, fun _ _ known => known⟩
  | updateField current data =>
    exact ⟨fun _ _ known => known, fun _ _ known => known.modify data.key_assign fun _ => rfl, fun _ _ known => known,
      fun _ _ known => known⟩
  | deleteField current =>
    exact ⟨fun _ _ known => known, fun _ _ known => known.deleteWhere _, fun _ _ known => known.deleteWhere _,
      fun _ _ known => known.deleteWhere _⟩
  | createConditionalRule data surveyPk =>
    exact ⟨fun _ _ known => known, fun _ _ known => known,
      fun _ _ known => known.insert _ (ConditionalRule.key_withId _), fun _ _ known => known⟩
  | updateConditionalRule current data surveyPk =>
    exact ⟨fun _ _ known => known, fun _ _ known => known, fun _ _ known => known.modify data.key_assign fun _ => rfl,
      fun _ _ known => known⟩
  | deleteConditionalRule current surveyPk =>
    exact ⟨fun _ _ known => known, fun _ _ known => known, fun _ _ known => known.deleteWhere _, fun _ _ known => known⟩
  | createFieldDependency data surveyPk =>
    exact ⟨fun _ _ known => known, fun _ _ known => known, fun _ _ known => known,
      fun _ _ known => known.insert _ (FieldDependency.key_withId _)⟩
  | updateFieldDependency current data surveyPk =>
    exact ⟨fun _ _ known => known, fun _ _ known => known, fun _ _ known => known,
      fun _ _ known => known.modify data.key_assign fun _ => rfl⟩
  | deleteFieldDependency current surveyPk =>
    exact ⟨fun _ _ known => known, fun _ _ known => known, fun _ _ known => known, fun _ _ known => known.deleteWhere _⟩

theorem KeepsKnown.placed (keeps : KeepsKnown db db') (placed : Placed db operation) : Placed db' operation := by
  cases operation with
  | updateSection | deleteSection | createField => exact keeps.sections _ _ placed
  | updateField | deleteField => exact ⟨keeps.fields _ _ placed.1, keeps.sections _ _ placed.2⟩
  | updateConditionalRule | deleteConditionalRule => exact keeps.conditionalRules _ _ placed
  | updateFieldDependency | deleteFieldDependency => exact keeps.fieldDependencies _ _ placed
  | createConditionalRule | createFieldDependency => trivial

theorem placed_of_section {row : Section} {surveyPk pk : Nat} (found : getSection surveyPk pk db = some row) :
    db.sections.Knows Section.surveyId row.id row.surveyId :=
  Table.knows_of_get (getSection_eq_some found).1

theorem placed_of_field {row : PlacedField} {sectionPk pk : Nat} (found : getField sectionPk pk db = some row) :
    db.fields.Knows Field.sectionId row.id row.sectionId ∧
      db.sections.Knows Section.surveyId row.sectionId row.surveyId := by
  obtain ⟨stored, _, _⟩ := getField_eq_some found
  obtain ⟨fieldStored, parentStored⟩ := Database.placedField_eq_some.mp stored
  exact ⟨Table.knows_of_get fieldStored, Table.knows_of_get parentStored⟩

theorem placed_of_conditionalRule {row : ConditionalRule} {surveyPk pk : Nat}
    (found : getConditionalRule surveyPk pk db = some row) :
    db.conditionalRules.Knows ConditionalRule.surveyId row.id surveyPk := by
  obtain ⟨stored, inSurvey⟩ := getConditionalRule_stored found
  exact inSurvey ▸ Table.knows_of_get stored

theorem placed_of_fieldDependency {row : FieldDependency} {surveyPk pk : Nat}
    (found : getFieldDependency surveyPk pk db = some row) :
    db.fieldDependencies.Knows FieldDependency.surveyId row.id surveyPk := by
  obtain ⟨stored, inSurvey⟩ := getFieldDependency_stored found
  exact inSurvey ▸ Table.knows_of_get stored

/-- The view looks its instances up in their survey. -/
theorem placed_load {call : ServiceCall} (loaded : call.load db = some operation) : Placed db operation := by
  cases call with
  | updateSection | deleteSection | createField =>
    obtain ⟨row, found, rfl⟩ := Option.map_eq_some_iff.mp loaded
    exact placed_of_section found
  | updateField | deleteField =>
    obtain ⟨_, _, loaded⟩ := Option.bind_eq_some_iff.mp loaded
    obtain ⟨row, found, rfl⟩ := Option.map_eq_some_iff.mp loaded
    exact placed_of_field found
  | updateConditionalRule | deleteConditionalRule =>
    obtain ⟨row, found, rfl⟩ := Option.map_eq_some_iff.mp loaded
    exact placed_of_conditionalRule found
  | updateFieldDependency | deleteFieldDependency =>
    obtain ⟨row, found, rfl⟩ := Option.map_eq_some_iff.mp loaded
    exact placed_of_fieldDependency found
  | createConditionalRule | createFieldDependency =>
    cases loaded
    trivial

end Frames

/-! ## One step -/

section Steps

variable {ι : Type} [DecidableEq ι]

/-- One step of one of the requests. -/
def cacheMove (py : Interpreter) (requests : ι → CacheRequest) :
    Config ι World CacheStage → ι → Config ι World CacheStage :=
  move fun i w stage => (requests i).step py w stage

/-- An operation has written rows of the survey and clears the entry next. -/
def Owed (c : Config ι World CacheStage) (surveyId : Nat) : Prop :=
  ∃ i operation, c.locals i = .written operation ∧ operation.surveyId = surveyId

/-- The next step leaves no stale entry for good: a read stores what the database
still has, and a delete finds no entry of a survey whose rows it takes, unless a
clearing of that entry is still to come. -/
def LeavesFresh (c : Config ι World CacheStage) : CacheRequest → CacheStage → Prop
  | .retrieve _ pk, .read data => ∀ surveyId, pk = toString surveyId →
    Owed c surveyId ∨ Serialized c.shared.db surveyId data
  | .service _, .cleared operation => ∀ surveyId, structureEntry c.shared surveyId ≠ none →
    Owed c surveyId ∨ Spares c.shared.db surveyId operation
  | _, _ => True

def StagePlaced (db : Database) : CacheStage → Prop
  | .loaded operation | .cleared operation => Placed db operation
  | _ => True

/-- What a step does to the world and to the stage of its request. -/
inductive CacheEffect (w : World) : CacheRequest → CacheStage → World → CacheStage → Prop where
  | moves {request : CacheRequest} {stage stage' : CacheStage}
      (stillOwes : ∀ operation, stage = .written operation → stage' = stage)
      (stillPlaced : StagePlaced w.db stage → StagePlaced w.db stage') : CacheEffect w request stage w stage'
  | fills {user : User} {pk : String} {data : Json} :
      CacheEffect w (.retrieve user pk) (.read data) (w.withEntry pk data) .finished
  | clearsFirst {call : ServiceCall} {operation : Operation} : CacheEffect w (.service call) (.loaded operation)
      (invalidated (toString operation.surveyId) w) (.cleared operation)
  | writesFirst {call : ServiceCall} {operation : Operation} (writes : operation.clearsFirst = false) :
      CacheEffect w (.service call) (.loaded operation) (withDb w (effect w.db operation)) (.written operation)
  | writes {call : ServiceCall} {operation : Operation} :
      CacheEffect w (.service call) (.cleared operation) (withDb w (effect w.db operation)) .finished
  | clears {call : ServiceCall} {operation : Operation} : CacheEffect w (.service call) (.written operation)
      (invalidated (toString operation.surveyId) w) .finished

/-- A read waits, or fills its entry. -/
theorem retrieveStep_effect (user : User) (pk : String) (w : World) (stage : CacheStage) :
    CacheEffect w (.retrieve user pk) stage (CacheRequest.retrieveStep user pk w stage).1
      (CacheRequest.retrieveStep user pk w stage).2 := by
  cases stage with
  | received =>
    simp only [CacheRequest.retrieveStep]
    split
    · exact .moves (fun _ same => by cases same) fun _ => trivial
    · exact .moves (fun _ same => by cases same) fun _ => trivial
  | admitted =>
    simp only [CacheRequest.retrieveStep]
    split
    · exact .moves (fun _ same => by cases same) fun _ => trivial
    · exact .moves (fun _ same => by cases same) fun _ => trivial
  | missed =>
    cases found : visibleSurvey user pk w.db with
    | none =>
      have raised : uncachedRetrieve user pk w = .error .http404 w := getOr404_bind_of_none found
      simp only [CacheRequest.retrieveStep, raised, CacheRequest.afterRead]
      exact .moves (fun _ same => by cases same) fun _ => trivial
    | some survey =>
      simp only [CacheRequest.retrieveStep, uncachedRetrieve_of_visible found, CacheRequest.afterRead]
      exact .moves (fun _ same => by cases same) fun _ => trivial
  | read data => exact .fills
  | loaded operation => exact .moves (fun _ _ => rfl) id
  | cleared operation => exact .moves (fun _ _ => rfl) id
  | written operation => exact .moves (fun _ _ => rfl) id
  | finished => exact .moves (fun _ _ => rfl) id

theorem serviceStep_effect (py : Interpreter) (call : ServiceCall) (w : World) (stage : CacheStage) :
    CacheEffect w (.service call) stage (CacheRequest.serviceStep py call w stage).1
      (CacheRequest.serviceStep py call w stage).2 := by
  cases stage with
  | received =>
    simp only [CacheRequest.serviceStep]
    cases loaded : call.load w.db with
    | none => exact .moves (fun _ same => by cases same) fun _ => trivial
    | some operation => exact .moves (fun _ same => by cases same) fun _ => placed_load loaded
  | loaded operation =>
    cases order : operation.clearsFirst with
    | true =>
      simp only [CacheRequest.serviceStep, order]
      exact .clearsFirst
    | false =>
      obtain ⟨exn, raised⟩ | returned | written := write_atMostWrites py operation w
      · simp only [CacheRequest.serviceStep, order, raised]
        exact .moves (fun _ same => by cases same) fun _ => trivial
      · simp only [CacheRequest.serviceStep, order, returned]
        exact .moves (fun _ same => by cases same) fun _ => trivial
      · simp only [CacheRequest.serviceStep, order, written]
        exact .writesFirst order
  | cleared operation =>
    obtain ⟨exn, raised⟩ | returned | written := write_atMostWrites py operation w
    · simp only [CacheRequest.serviceStep, final_of_error raised]
      exact .moves (fun _ same => by cases same) fun _ => trivial
    · simp only [CacheRequest.serviceStep, final_of_ok returned]
      exact .moves (fun _ same => by cases same) fun _ => trivial
    · simp only [CacheRequest.serviceStep, final_of_ok written]
      exact .writes
  | written operation => exact .clears
  | admitted => exact .moves (fun _ _ => rfl) id
  | missed => exact .moves (fun _ _ => rfl) id
  | read data => exact .moves (fun _ _ => rfl) id
  | finished => exact .moves (fun _ _ => rfl) id

theorem cacheStep_effect (py : Interpreter) (request : CacheRequest) (w : World) (stage : CacheStage) :
    CacheEffect w request stage (request.step py w stage).1 (request.step py w stage).2 := by
  cases request with
  | retrieve user pk => exact retrieveStep_effect user pk w stage
  | service call => exact serviceStep_effect py call w stage

end Steps

/-! ## Runs -/

section Runs

variable {ι : Type} [DecidableEq ι] {py : Interpreter} {requests : ι → CacheRequest} {c : Config ι World CacheStage} {i : ι}

/-- The entry of every survey that is owed no clearing is right, and every
operation under way has its instances in its survey. -/
structure CoherentRun (c : Config ι World CacheStage) : Prop where
  cache : CoherentCacheExcept Serialized c.shared.db (structureEntry c.shared) (Owed c)
  placed : ∀ i, StagePlaced c.shared.db (c.locals i)

theorem owed_update {w : World} {stage : CacheStage} {surveyId : Nat} (owed : Owed c surveyId)
    (notPaid : ∀ operation, c.locals i = .written operation → operation.surveyId = surveyId → stage = c.locals i) :
    Owed ⟨w, Function.update c.locals i stage⟩ surveyId := by
  obtain ⟨j, operation, written, inSurvey⟩ := owed
  refine ⟨j, operation, ?_, inSurvey⟩
  show Function.update c.locals i stage j = .written operation
  by_cases same : j = i
  · subst same
    rw [Function.update_self, notPaid operation written inSurvey]
    exact written
  · rw [Function.update_of_ne same]
    exact written

theorem KeepsKnown.refl (db : Database) : KeepsKnown db db :=
  ⟨fun _ _ known => known, fun _ _ known => known, fun _ _ known => known, fun _ _ known => known⟩

theorem KeepsKnown.stagePlaced {db db' : Database} {stage : CacheStage} (keeps : KeepsKnown db db')
    (placed : StagePlaced db stage) : StagePlaced db' stage := by
  cases stage with
  | loaded operation => exact keeps.placed placed
  | cleared operation => exact keeps.placed placed
  | received | admitted | missed | read | written | finished => trivial

/-- The stages of the other requests stay placed when the rows are kept. -/
theorem placed_update {w : World} {stage : CacheStage} (keeps : KeepsKnown c.shared.db w.db)
    (placed : ∀ j, StagePlaced c.shared.db (c.locals j)) (own : StagePlaced w.db stage) (j : ι) :
    StagePlaced w.db (Function.update c.locals i stage j) := by
  by_cases same : j = i
  · subst same
    rw [Function.update_self]
    exact own
  · rw [Function.update_of_ne same]
    exact keeps.stagePlaced (placed j)

/-- One step of a request keeps the entries right, if it leaves none stale. -/
theorem coherentRun_effect {w : World} {stage : CacheStage}
    (effect : CacheEffect c.shared (requests i) (c.locals i) w stage)
    (fresh : LeavesFresh c (requests i) (c.locals i)) (coherent : CoherentRun c) :
    CoherentRun ⟨w, Function.update c.locals i stage⟩ := by
  obtain ⟨cache, placed⟩ := coherent
  have ownPlaced := placed i
  -- a clearing is still owed unless this step is the one that clears
  have stillOwed : ∀ surveyId, Owed c surveyId →
      (∀ operation, c.locals i = .written operation → operation.surveyId = surveyId → stage = c.locals i) →
      Owed ⟨w, Function.update c.locals i stage⟩ surveyId :=
    fun surveyId owed notPaid => owed_update owed notPaid
  generalize requests i = request at effect fresh
  generalize before : c.locals i = thisStage at effect fresh ownPlaced stillOwed
  cases effect with
  | moves stillOwes stillPlaced =>
    exact ⟨cache.mono fun surveyId owed => stillOwed surveyId owed fun operation written _ =>
      stillOwes operation written, placed_update (.refl _) placed (stillPlaced ownPlaced)⟩
  | fills =>
    rename_i user pk data
    have filled : CoherentCacheExcept Serialized c.shared.db (structureEntry (c.shared.withEntry pk data)) (Owed c) := by
      obtain ⟨surveyId, numeral, entry⟩ | entry := structureEntry_withEntry c.shared pk data
      · rw [entry]
        exact cache.fill fun settled => (fresh surveyId numeral).resolve_left settled
      · rw [entry]
        exact cache
    exact ⟨filled.mono fun surveyId owed => stillOwed surveyId owed fun _ written => (by cases written),
      placed_update (.refl _) placed trivial⟩
  | clearsFirst =>
    rename_i call operation
    have cleared := cache.clear operation.surveyId
    rw [← structureEntry_invalidated] at cleared
    exact ⟨cleared.mono fun surveyId owed => stillOwed surveyId owed.1 fun _ written => (by cases written),
      placed_update (.refl _) placed ownPlaced⟩
  | writesFirst writes =>
    rename_i call operation
    have now : Owed ⟨withDb c.shared (Verified.effect c.shared.db operation),
        Function.update c.locals i (.written operation)⟩ operation.surveyId :=
      ⟨i, operation, Function.update_self _ _ _, rfl⟩
    refine ⟨cache.write fun surveyId settled => ?_, placed_update (keepsKnown_effect _ operation) placed trivial⟩
    have other : surveyId ≠ operation.surveyId := fun same => settled (same ▸ now)
    exact ⟨fun owed => settled (stillOwed surveyId owed fun _ written => (by cases written)),
      fun _ _ => (sameDetail_effect ownPlaced (spares_of_writesFirst writes other)).serialized⟩
  | writes =>
    rename_i call operation
    refine ⟨cache.write fun surveyId settled => ?_, placed_update (keepsKnown_effect _ operation) placed trivial⟩
    have notOwed : ¬ Owed c surveyId :=
      fun owed => settled (stillOwed surveyId owed fun _ written => (by cases written))
    refine ⟨notOwed, fun data entry => ?_⟩
    have cached : structureEntry c.shared surveyId ≠ none := by
      rw [entry]
      exact Option.some_ne_none data
    exact (sameDetail_effect ownPlaced ((fresh surveyId cached).resolve_left notOwed)).serialized
  | clears =>
    rename_i call operation
    have cleared := cache.clear operation.surveyId
    rw [← structureEntry_invalidated] at cleared
    refine ⟨cleared.mono fun surveyId owed => stillOwed surveyId owed.1 fun other written inSurvey => ?_,
      placed_update (.refl _) placed trivial⟩
    cases written
    exact absurd inSurvey.symm owed.2

theorem coherentRun_move (fresh : LeavesFresh c (requests i) (c.locals i)) (coherent : CoherentRun c) :
    CoherentRun (cacheMove py requests c i) :=
  coherentRun_effect (cacheStep_effect py (requests i) c.shared (c.locals i)) fresh coherent

/-- Requests that have just been received. -/
def cacheStart (w : World) : Config ι World CacheStage := ⟨w, fun _ => .received⟩

omit [DecidableEq ι] in
theorem coherentRun_start {w : World} (coherent : CacheCoherent w) : CoherentRun (cacheStart w : Config ι World CacheStage) := by
  refine ⟨fun surveyId _ data entry => coherent surveyId data entry, fun _ => trivial⟩

/-- Under any schedule of reads and operations whose steps leave nothing stale,
the entry of every survey is absent or the survey as it is stored whenever no
request is under way. -/
theorem races_coherent (py : Interpreter) (requests : ι → CacheRequest) {w : World} (start : CacheCoherent w)
    {schedule : List ι} (fresh : Along (cacheMove py requests) (fun c i => LeavesFresh c (requests i) (c.locals i))
      (cacheStart w) schedule) :
    ∀ c ∈ trace (cacheMove py requests) (cacheStart w) schedule, (∀ i, c.locals i = .finished) →
      CacheCoherent c.shared := by
  intro c member finished
  have coherent : CoherentRun c :=
    Along.trace_invariant (fun c i met holds => coherentRun_move met holds) (coherentRun_start start) fresh c member
  apply coherent.cache.settled
  intro surveyId owed
  obtain ⟨i, operation, written, _⟩ := owed
  rw [finished i] at written
  cases written

end Runs

/-! ## A read and a deletion -/

/-- An administrator reads survey 1 while its rule is deleted. -/
def readAndDelete : Bool → CacheRequest
  | false => .retrieve administrator "1"
  | true => .service (.deleteConditionalRule 1 1)

theorem cacheCoherent_draftWorld : CacheCoherent draftWorld := by
  intro surveyId data entry
  cases entry

/-- The deletion runs to its end, then the read. -/
def orderedRead : Config Bool World CacheStage :=
  run (cacheMove bareInterpreter readAndDelete) (cacheStart draftWorld) [true, true, true, false, false, false, false]

theorem races_coherent_ordered : CacheCoherent orderedRead.shared := by
  have finished : ∀ i, orderedRead.locals i = .finished := by
    intro i
    cases i <;> rfl
  apply races_coherent bareInterpreter readAndDelete cacheCoherent_draftWorld _ _ (run_mem_trace _ _) finished
  refine ⟨trivial, trivial, fun surveyId cached => ?_, trivial, trivial, trivial, fun surveyId numeral => ?_, trivial⟩
  -- nothing is cached yet
  · exact absurd (ite_self none) cached
  -- the read stores what it has just read
  · have isOne : 1 = surveyId := fieldIdStr_injective numeral
    subst isOne
    exact Or.inr ⟨_, .admin, rfl, rfl⟩

/-- The rules of a serialized survey. -/
def rulesEntry : Json → Option Json
  | .object entries => entries.lookup "conditional_rules"
  | _ => none

/-- The read has loaded the survey when its rule is deleted, and stores it afterwards. -/
def overtakenRead : Config Bool World CacheStage :=
  run (cacheMove bareInterpreter readAndDelete) (cacheStart draftWorld) [false, false, false, true, true, true, false]

theorem races_not_coherent_read :
    CacheCoherent draftWorld ∧ ¬ ∀ c ∈ trace (cacheMove bareInterpreter readAndDelete) (cacheStart draftWorld)
        [false, false, false, true, true, true, false], (∀ i, c.locals i = .finished) → CacheCoherent c.shared := by
  refine ⟨cacheCoherent_draftWorld, fun coherent => ?_⟩
  have finished : ∀ i, overtakenRead.locals i = .finished := by
    intro i
    cases i <;> rfl
  have last : CacheCoherent overtakenRead.shared := coherent _ (run_mem_trace _ _) finished
  have stale : (((structureEntry overtakenRead.shared 1).bind rulesEntry).map Json.truthy) = some true := by
    decide +kernel
  have gone : (overtakenRead.shared.db.conditionalRulesOf 1).map conditionalRuleJson = [] := by
    rfl
  obtain ⟨rules, cached, truthy⟩ := Option.map_eq_some_iff.mp stale
  obtain ⟨data, entry, isRules⟩ := Option.bind_eq_some_iff.mp cached
  obtain ⟨survey, role, stored, rfl⟩ := last 1 data entry
  have sameKey : survey.id = 1 := overtakenRead.shared.db.surveys.keyed 1 survey stored
  have noRules : rulesEntry (surveyJson overtakenRead.shared.db role survey) =
      some (.list ((overtakenRead.shared.db.conditionalRulesOf survey.id).map conditionalRuleJson)) := rfl
  rw [noRules, sameKey, gone, Option.some.injEq] at isRules
  rw [← isRules] at truthy
  cases truthy

end SurveyPlatform.Verified

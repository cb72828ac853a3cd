import SurveyPlatform.Surveys.Retrieval
import Mathlib.Logic.Function.Iterate

/-! # Reads and service operations in steps

A read looks up the cache, reads the database and stores what it read; an
operation of the services writes its rows and clears the entry of their survey,
in the order the code has.  Between any two of these steps another request may
run.  The instances of an operation were loaded from the database before.
-/

namespace SurveyPlatform.Surveys

open SurveyPlatform.Library SurveyPlatform.Library.Program SurveyPlatform.Python

/-! ## Operations of the services -/

/-- A service with the instances it is called on. -/
inductive Operation where
  | updateSection (current : Section) (data : SectionData)
  | deleteSection (current : Section)
  | createField (parent : Section) (data : FieldData)
  | updateField (current : PlacedField) (data : FieldData)
  | deleteField (current : PlacedField)
  | createConditionalRule (data : ConditionalRuleData) (surveyPk : Nat)
  | updateConditionalRule (current : ConditionalRule) (data : ConditionalRuleData) (surveyPk : Nat)
  | deleteConditionalRule (current : ConditionalRule) (surveyPk : Nat)
  | createFieldDependency (data : FieldDependencyData) (surveyPk : Nat)
  | updateFieldDependency (current : FieldDependency) (data : FieldDependencyData) (surveyPk : Nat)
  | deleteFieldDependency (current : FieldDependency) (surveyPk : Nat)

namespace Operation

def perform (py : Interpreter) : Operation → Procedure Unit
  | updateSection current data => do let _ ← Surveys.updateSection current data
  | deleteSection current => Surveys.deleteSection current
  | createField parent data => do let _ ← Surveys.createField parent data
  | updateField current data => do let _ ← Surveys.updateField py current data
  | deleteField current => Surveys.deleteField current
  | createConditionalRule data surveyPk => do let _ ← Surveys.createConditionalRule data surveyPk
  | updateConditionalRule current data surveyPk => do let _ ← Surveys.updateConditionalRule current data surveyPk
  | deleteConditionalRule current surveyPk => Surveys.deleteConditionalRule current surveyPk
  | createFieldDependency data surveyPk => do let _ ← Surveys.createFieldDependency data surveyPk
  | updateFieldDependency current data surveyPk => do let _ ← Surveys.updateFieldDependency current data surveyPk
  | deleteFieldDependency current surveyPk => Surveys.deleteFieldDependency current surveyPk

/-- The survey whose entry is cleared. -/
def surveyId : Operation → Nat
  | updateSection current _ | deleteSection current | createField current _ => current.surveyId
  | updateField current _ | deleteField current => current.surveyId
  | createConditionalRule _ surveyPk | updateConditionalRule _ _ surveyPk | deleteConditionalRule _ surveyPk => surveyPk
  | createFieldDependency _ surveyPk | updateFieldDependency _ _ surveyPk | deleteFieldDependency _ surveyPk => surveyPk

/-- The deletes invalidate, then delete. -/
def clearsFirst : Operation → Bool
  | deleteSection _ | deleteField _ | deleteConditionalRule _ _ | deleteFieldDependency _ _ => true
  | _ => false

/-- The statements of a service without its `invalidate_structure`; an update and
its revalidation are one transaction. -/
def write (py : Interpreter) : Operation → Procedure Unit
  | updateSection current data =>
    translating (onIntegrityError (.validationError "A section with this order already exists in this survey.")) <|
      atomicBlock do
        saveFields data.isEmpty (sectionModel.update current.id data.assign data.key_assign)
        query fun db =>
          if data.order.any (· != current.order) then revalidateOrderingForSurvey db current.surveyId else .ok ()
  | deleteSection current => statement fun db => db.deleteSections (· == current.id)
  | createField parent data => do
    let new := data.assign (blankField parent.id)
    let _ ← translating
      (onIntegrityError (.validationErrorDict "order" "A field with this order already exists in this section."))
      (fieldModel.insert new.withId new.key_withId)
  | updateField current data => do
    let oldOptions ← query fun _ =>
      if current.options.truthy then current.options.iterate else .ok []
    translating (onIntegrityError (.validationError "A field with this order already exists in this section.")) <|
      atomicBlock do
        saveFields data.isEmpty (fieldModel.update current.id data.assign data.key_assign)
        let typeChanged := data.fieldType.any (· != current.fieldType)
        let optionsChanged := data.options.any fun options => !options.pyEq (.list oldOptions)
        query fun db =>
          if typeChanged || optionsChanged then revalidateRulesForField py db (data.assign current.toField) else .ok ()
  | deleteField current => statement fun db => db.deleteFields (· == current.id)
  | createConditionalRule data surveyPk => do
    let new := data.assign (blankConditionalRule surveyPk)
    let _ ← conditionalRuleModel.insert new.withId new.key_withId
  | updateConditionalRule current data _ =>
    saveFields data.isEmpty (conditionalRuleModel.update current.id data.assign data.key_assign)
  | deleteConditionalRule current _ =>
    statement fun db => { db with conditionalRules := db.conditionalRules.deleteWhere (·.id == current.id) }
  | createFieldDependency data surveyPk => do
    let new := data.assign (blankFieldDependency surveyPk)
    let _ ← fieldDependencyModel.insert new.withId new.key_withId
  | updateFieldDependency current data _ =>
    saveFields data.isEmpty (fieldDependencyModel.update current.id data.assign data.key_assign)
  | deleteFieldDependency current _ =>
    statement fun db => { db with fieldDependencies := db.fieldDependencies.deleteWhere (·.id == current.id) }

def invalidate (operation : Operation) : Procedure Unit := invalidateStructure (toString operation.surveyId)

/-- A service that writes and then invalidates, with its result dropped. -/
theorem writesFirst_eq {α β : Type} (write : Procedure α) (objectId : String) (result : α → β) :
    (do
      let _ ← (do
        let a ← write
        invalidateStructure objectId
        return result a)) =
    (do
      let _ ← (do let _ ← write)
      invalidateStructure objectId) := by
  simp only [bind_assoc, pure_bind, bind_pure_unit]

/-- The two steps of an operation are those of its service, in the service's order. -/
theorem perform_eq (py : Interpreter) (operation : Operation) : operation.perform py =
    if operation.clearsFirst then (do operation.invalidate; operation.write py)
    else (do operation.write py; operation.invalidate) := by
  cases operation with
  | deleteSection | deleteField | deleteConditionalRule | deleteFieldDependency => rfl
  | updateSection current data =>
    show (do let _ ← Surveys.updateSection current data) = _
    simp only [Surveys.updateSection, bind_assoc, pure_bind, bind_pure_unit]
    rfl
  | createField parent data =>
    exact writesFirst_eq _ _ _
  | updateField current data =>
    show (do let _ ← Surveys.updateField py current data) =
      (do write py (.updateField current data); invalidate (.updateField current data))
    simp only [Surveys.updateField, write, bind_assoc, pure_bind, bind_pure_unit]
    rfl
  | createConditionalRule data surveyPk => exact writesFirst_eq _ _ _
  | updateConditionalRule current data surveyPk =>
    show (do let _ ← Surveys.updateConditionalRule current data surveyPk) = _
    simp only [Surveys.updateConditionalRule, bind_assoc, pure_bind, bind_pure_unit]
    rfl
  | createFieldDependency data surveyPk => exact writesFirst_eq _ _ _
  | updateFieldDependency current data surveyPk =>
    show (do let _ ← Surveys.updateFieldDependency current data surveyPk) = _
    simp only [Surveys.updateFieldDependency, bind_assoc, pure_bind, bind_pure_unit]
    rfl

end Operation

/-! ## Requests -/

/-- An operation and where its view finds the instances. -/
inductive ServiceCall where
  | updateSection (surveyPk pk : Nat) (data : SectionData)
  | deleteSection (surveyPk pk : Nat)
  | createField (surveyPk sectionPk : Nat) (data : FieldData)
  | updateField (surveyPk sectionPk pk : Nat) (data : FieldData)
  | deleteField (surveyPk sectionPk pk : Nat)
  | createConditionalRule (surveyPk : Nat) (data : ConditionalRuleData)
  | updateConditionalRule (surveyPk pk : Nat) (data : ConditionalRuleData)
  | deleteConditionalRule (surveyPk pk : Nat)
  | createFieldDependency (surveyPk : Nat) (data : FieldDependencyData)
  | updateFieldDependency (surveyPk pk : Nat) (data : FieldDependencyData)
  | deleteFieldDependency (surveyPk pk : Nat)

def ServiceCall.load (db : Database) : ServiceCall → Option Operation
  | updateSection surveyPk pk data => (getSection surveyPk pk db).map (.updateSection · data)
  | deleteSection surveyPk pk => (getSection surveyPk pk db).map .deleteSection
  | createField surveyPk sectionPk data => (getSection surveyPk sectionPk db).map (.createField · data)
  | updateField surveyPk sectionPk pk data =>
    (getSection surveyPk sectionPk db).bind fun _ => (getField sectionPk pk db).map (.updateField · data)
  | deleteField surveyPk sectionPk pk =>
    (getSection surveyPk sectionPk db).bind fun _ => (getField sectionPk pk db).map .deleteField
  | createConditionalRule surveyPk data => some (.createConditionalRule data surveyPk)
  | updateConditionalRule surveyPk pk data =>
    (getConditionalRule surveyPk pk db).map (.updateConditionalRule · data surveyPk)
  | deleteConditionalRule surveyPk pk => (getConditionalRule surveyPk pk db).map (.deleteConditionalRule · surveyPk)
  | createFieldDependency surveyPk data => some (.createFieldDependency data surveyPk)
  | updateFieldDependency surveyPk pk data =>
    (getFieldDependency surveyPk pk db).map (.updateFieldDependency · data surveyPk)
  | deleteFieldDependency surveyPk pk => (getFieldDependency surveyPk pk db).map (.deleteFieldDependency · surveyPk)

inductive CacheRequest where
  | retrieve (user : User) (pk : String)
  | service (call : ServiceCall)

inductive CacheStage where
  | received
  -- `get_object` has found the survey
  | admitted
  -- there was no entry
  | missed
  -- the entry is set next
  | read (data : Json)
  | loaded (operation : Operation)
  -- the rows are deleted next
  | cleared (operation : Operation)
  -- the entry is cleared next
  | written (operation : Operation)
  | finished

namespace CacheRequest

/-- The stage after the database read. -/
def afterRead : EStateM.Result PyExn World Json → World × CacheStage
  | .ok data w => (w, .read data)
  | .error _ w => (w, .finished)

/-- The steps of `SurveyViewSet.retrieve`. -/
def retrieveStep (user : User) (pk : String) (w : World) : CacheStage → World × CacheStage
  | .received =>
    match visibleSurvey user pk w.db with
    | some _ => (w, .admitted)
    | none => (w, .finished)
  | .admitted =>
    match (w.cache (structureKey pk)).filter Json.truthy with
    | some _ => (w, .finished)
    | none => (w, .missed)
  | .missed => afterRead (uncachedRetrieve user pk w)
  | .read data => (final (setStructure pk data) w, .finished)
  | stage => (w, stage)

/-- The steps of a service on the instances its view loads. -/
def serviceStep (py : Interpreter) (call : ServiceCall) (w : World) : CacheStage → World × CacheStage
  | .received =>
    match call.load w.db with
    | some operation => (w, .loaded operation)
    | none => (w, .finished)
  | .loaded operation =>
    if operation.clearsFirst then (final operation.invalidate w, .cleared operation)
    else
      match operation.write py w with
      | .ok _ w' => (w', .written operation)
      | .error _ w' => (w', .finished)
  | .cleared operation => (final (operation.write py) w, .finished)
  | .written operation => (final operation.invalidate w, .finished)
  | stage => (w, stage)

/-- The next step of a read that runs alone. -/
def retrieveAlone (user : User) (pk : String) (state : World × CacheStage) : World × CacheStage :=
  retrieveStep user pk state.1 state.2

theorem retrieveAlone_finished (user : User) (pk : String) (w : World) (n : Nat) :
    (retrieveAlone user pk)^[n] (w, .finished) = (w, .finished) :=
  Function.iterate_fixed rfl n

/-- Four steps of a read that runs alone are the view. -/
theorem retrieveAlone_eq (user : User) (pk : String) (w : World) :
    (retrieveAlone user pk)^[4] (w, .received) = (final (surveyRetrieve user pk) w, .finished) := by
  cases found : visibleSurvey user pk w.db with
  | none =>
    have first : retrieveAlone user pk (w, .received) = (w, .finished) := by simp only [retrieveAlone, retrieveStep, found]
    rw [surveyRetrieve, final_of_error (getOr404_bind_of_none found), Function.iterate_succ_apply, first,
      retrieveAlone_finished]
  | some survey =>
    have first : retrieveAlone user pk (w, .received) = (w, .admitted) := by simp only [retrieveAlone, retrieveStep, found]
    rw [Function.iterate_succ_apply, first, Function.iterate_succ_apply]
    simp only [surveyRetrieve, final, getOr404_bind_of_some found, getStructure_bind]
    cases cached : (w.cache (structureKey pk)).filter Json.truthy with
    | some data =>
      have second : retrieveAlone user pk (w, .admitted) = (w, .finished) := by
        simp only [retrieveAlone, retrieveStep, cached]
      rw [second, retrieveAlone_finished]
      rfl
    | none =>
      have second : retrieveAlone user pk (w, .admitted) = (w, .missed) := by
        simp only [retrieveAlone, retrieveStep, cached]
      have third : retrieveAlone user pk (w, .missed) = (w, .read (surveyJson w.db user.role survey)) := by
        simp only [retrieveAlone, retrieveStep, uncachedRetrieve_of_visible found, afterRead]
      rw [second, Function.iterate_succ_apply, third, Function.iterate_one]
      simp only [uncachedRetrieve_of_visible found, bind, EStateM.bind]
      rfl

def step (py : Interpreter) : CacheRequest → World → CacheStage → World × CacheStage
  | retrieve user pk => retrieveStep user pk
  | service call => serviceStep py call

end CacheRequest

end SurveyPlatform.Surveys

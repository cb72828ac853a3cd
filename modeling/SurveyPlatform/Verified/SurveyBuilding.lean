import SurveyPlatform.Library.Histories
import SurveyPlatform.Verified.CacheCoherence
import SurveyPlatform.Verified.Integrity
import SurveyPlatform.Verified.OrderNumbers

/-! # What is built is what is read

A `SurveyPlan` says what an administrator wants a survey to be.  Its requests create
the survey, each section, and the fields of each section, with the keys the answers
gave.  Whatever happened before, the survey is then read as it was planned, numbered
in the order of the plan; it can be published exactly when every section has a field
(`built_retrieved`).
-/

namespace SurveyPlatform.Verified

open SurveyPlatform.Library SurveyPlatform.Library.Program SurveyPlatform.Library.Table SurveyPlatform.Python
open SurveyPlatform.Surveys SurveyPlatform.Responses
open SurveyPlatform.Surveys.Database (maxInteger)

/-! ## Plans -/

structure FieldPlan where
  label : String
  fieldType : FieldType
  required : Bool
  options : Json
  isEncrypted : Bool
  validationRules : Json

structure SectionPlan where
  title : String
  description : String
  fields : List FieldPlan

structure SurveyPlan where
  title : String
  description : String
  sections : List SectionPlan

/-- What the validators of the models ask of a field. -/
structure FieldPlan.Acceptable (py : Interpreter) (plan : FieldPlan) : Prop where
  options : validateFieldOptions py plan.fieldType plan.options = .ok ()
  validationRules : validateValidationRules py plan.fieldType plan.validationRules = .ok ()
  notNull : plan.options.isNone = false ∧ plan.validationRules.isNone = false

/-- The fields are acceptable, and the order columns have room. -/
structure SurveyPlan.Acceptable (py : Interpreter) (plan : SurveyPlan) : Prop where
  fields : ∀ section_ ∈ plan.sections, ∀ field ∈ section_.fields, field.Acceptable py
  sectionCount : plan.sections.length ≤ maxInteger
  fieldCount : ∀ section_ ∈ plan.sections, section_.fields.length ≤ maxInteger

/-- A section, and a field in each. -/
def SurveyPlan.Complete (plan : SurveyPlan) : Prop :=
  plan.sections ≠ [] ∧ ∀ section_ ∈ plan.sections, section_.fields ≠ []

instance (plan : SurveyPlan) : Decidable plan.Complete := inferInstanceAs (Decidable (_ ∧ _))

/-! ### Its requests -/

def FieldPlan.request (surveyPk sectionPk : Nat) (plan : FieldPlan) : Request :=
  .createField surveyPk sectionPk ⟨.given plan.label, .given plan.fieldType, .given plan.required, .missing,
    .given plan.options, .given plan.isEncrypted, .given plan.validationRules⟩

def SectionPlan.requests (surveyPk sectionPk : Nat) (plan : SectionPlan) : List Request :=
  .createSection surveyPk ⟨.given plan.title, .given plan.description, .missing⟩ ::
    plan.fields.map (FieldPlan.request surveyPk sectionPk)

/-- The sections get consecutive keys, the first of them `sectionPk`. -/
def sectionRequests (surveyPk : Nat) : Nat → List SectionPlan → List Request
  | _, [] => []
  | sectionPk, plan :: rest => plan.requests surveyPk sectionPk ++ sectionRequests surveyPk (sectionPk + 1) rest

def SurveyPlan.requests (surveyPk sectionPk : Nat) (plan : SurveyPlan) : List Request :=
  .createSurvey ⟨.given plan.title, .given plan.description, .missing⟩ :: sectionRequests surveyPk sectionPk plan.sections

/-- `PATCH {"status": "published"}` -/
def publishRequest (surveyPk : Nat) : Request := .updateSurvey surveyPk true ⟨.missing, .missing, .given .published⟩

/-! ### Its rows -/

/-- A section with its fields. -/
abbrev Part := Section × List Field

def FieldPlan.row (sectionPk id order : Nat) (plan : FieldPlan) : Field :=
  ⟨id, sectionPk, plan.label, plan.fieldType, plan.required, order, plan.options, plan.isEncrypted, plan.validationRules⟩

def SectionPlan.row (surveyPk id order : Nat) (plan : SectionPlan) : Section :=
  ⟨id, surveyPk, plan.title, plan.description, order⟩

/-- Consecutive keys and orders. -/
def plannedFields (sectionPk : Nat) : (fieldPk order : Nat) → List FieldPlan → List Field
  | _, _, [] => []
  | fieldPk, order, plan :: rest =>
    plan.row sectionPk fieldPk order :: plannedFields sectionPk (fieldPk + 1) (order + 1) rest

def plannedParts (surveyPk : Nat) : (sectionPk fieldPk order : Nat) → List SectionPlan → List Part
  | _, _, _, [] => []
  | sectionPk, fieldPk, order, plan :: rest =>
    (plan.row surveyPk sectionPk order, plannedFields sectionPk fieldPk 1 plan.fields) ::
      plannedParts surveyPk (sectionPk + 1) (fieldPk + plan.fields.length) (order + 1) rest

theorem plannedFields_orders (sectionPk fieldPk order : Nat) (plans : List FieldPlan) :
    (plannedFields sectionPk fieldPk order plans).map Field.order = List.range' order plans.length := by
  induction plans generalizing fieldPk order with
  | nil => rfl
  | cons plan rest inductionHypothesis =>
    rw [plannedFields, List.map_cons, inductionHypothesis, List.length_cons, List.range'_succ]
    rfl

theorem plannedParts_orders (surveyPk sectionPk fieldPk order : Nat) (plans : List SectionPlan) :
    (plannedParts surveyPk sectionPk fieldPk order plans).map (fun part => part.1.order) = List.range' order plans.length := by
  induction plans generalizing sectionPk fieldPk order with
  | nil => rfl
  | cons plan rest inductionHypothesis =>
    rw [plannedParts, List.map_cons, inductionHypothesis, List.length_cons, List.range'_succ]
    rfl

/-- After the orders from one on comes the number of them plus one. -/
theorem nextOrder_range' (count : Nat) : nextOrder (List.range' 1 count) = count + 1 := by
  apply Nat.le_antisymm
  · rw [nextOrder_le_iff (Nat.succ_pos _)]
    intro order member
    have bounds := List.mem_range'_1.mp member
    omega
  · cases count with
    | zero => decide
    | succ count =>
      have last : count + 1 ∈ List.range' 1 (count + 1) := List.mem_range'_1.mpr (by omega)
      exact lt_nextOrder _ last

/-! ## What is built so far -/

/-- The survey has these sections and fields; nothing refers to what comes after. -/
structure Built (db : Database) (survey : Survey) (parts : List Part) : Prop where
  stored : db.surveys.get survey.id = some survey
  sections : db.sectionsOf survey.id = parts.map Prod.fst
  fields : ∀ part ∈ parts, db.fieldsOf part.1.id = part.2
  unclaimed : ∀ id, db.sections.next ≤ id → db.fieldsOf id = []
  noRules : db.conditionalRulesOf survey.id = []
  noDependencies : db.fieldDependenciesOf survey.id = []

section Inserts

variable {db : Database} {survey : Survey} {parts : List Part} {row : Section}

theorem sectionsOf_insert {make : Nat → Section} {keyedMake : ∀ i, key (make i) = i} (surveyId : Nat) :
    { db with sections := db.sections.insert make keyedMake }.sectionsOf surveyId =
      db.sectionsOf surveyId ++ if (make db.sections.next).surveyId = surveyId then [make db.sections.next] else [] := by
  rw [Database.sectionsOf, insert_eq_save, rows_save_next (keyedMake _), List.filter_append, List.filter_singleton]
  simp [Database.sectionsOf]

theorem fieldsOf_insert {make : Nat → Field} {keyedMake : ∀ i, key (make i) = i} (sectionId : Nat) :
    { db with fields := db.fields.insert make keyedMake }.fieldsOf sectionId =
      db.fieldsOf sectionId ++ if (make db.fields.next).sectionId = sectionId then [make db.fields.next] else [] := by
  rw [Database.fieldsOf, insert_eq_save, rows_save_next (keyedMake _), List.filter_append, List.filter_singleton]
  simp [Database.fieldsOf]

/-- The rows of the sections built are stored, under keys of their own. -/
theorem Built.stored_section (built : Built db survey parts) {part : Part} (member : part ∈ parts) :
    db.sections.get part.1.id = some part.1 ∧ part.1.surveyId = survey.id := by
  apply Database.mem_sectionsOf.mp
  rw [built.sections]
  exact List.mem_map_of_mem member

theorem Built.nodup_keys (built : Built db survey parts) : (parts.map fun part => part.1.id).Nodup := by
  have nodup : ((db.sectionsOf survey.id).map key).Nodup :=
    db.sections.nodup_rows.sublist (List.filter_sublist.map _)
  rw [built.sections, List.map_map] at nodup
  exact nodup

theorem Built.addSection (built : Built db survey parts) {make : Nat → Section} (keyedMake : ∀ i, key (make i) = i)
    (inSurvey : (make db.sections.next).surveyId = survey.id) :
    Built { db with sections := db.sections.insert make keyedMake } survey (parts ++ [(make db.sections.next, [])]) := by
  have sameKey : (make db.sections.next).id = db.sections.next := keyedMake _
  refine { built with sections := ?_, fields := ?_, unclaimed := ?_ }
  · rw [sectionsOf_insert, if_pos inSurvey, built.sections, List.map_append]
    rfl
  · intro part member
    cases List.mem_append.mp member with
    | inl earlier => exact built.fields part earlier
    | inr new =>
      rw [List.mem_singleton.mp new, sameKey]
      exact built.unclaimed _ (Nat.le_refl _)
  · exact fun id later => built.unclaimed id (Nat.le_of_succ_le later)

/-- A field goes to the end of the last section. -/
theorem Built.addField {fields : List Field} (built : Built db survey (parts ++ [(row, fields)])) {make : Nat → Field}
    (keyedMake : ∀ i, key (make i) = i) (inSection : (make db.fields.next).sectionId = row.id) :
    Built { db with fields := db.fields.insert make keyedMake } survey
      (parts ++ [(row, fields ++ [make db.fields.next])]) := by
  have last : (row, fields) ∈ parts ++ [(row, fields)] := List.mem_append_right _ (List.mem_singleton_self _)
  refine { built with sections := ?_, fields := ?_, unclaimed := ?_ }
  · rw [List.map_append]
    exact built.sections.trans (List.map_append ..)
  · intro part member
    rw [fieldsOf_insert, inSection]
    cases List.mem_append.mp member with
    | inl earlier =>
      have nodup := built.nodup_keys
      rw [List.map_append, List.nodup_append] at nodup
      have other : row.id ≠ part.1.id :=
        (nodup.2.2 _ (List.mem_map_of_mem earlier) row.id (List.mem_singleton_self _)).symm
      rw [if_neg other, List.append_nil]
      exact built.fields part (List.mem_append_left _ earlier)
    | inr new =>
      rw [List.mem_singleton.mp new, if_pos rfl, built.fields _ last]
  · intro id later
    have below : row.id < db.sections.next := lt_next (built.stored_section last).1
    have other : row.id ≠ id := Nat.ne_of_lt (Nat.lt_of_lt_of_le below later)
    rw [fieldsOf_insert, inSection, if_neg other, List.append_nil]
    exact built.unclaimed id later

end Inserts

/-! ## What the requests do -/

section Requests

variable {py : Interpreter} {user : User} {order : SetOrder} {encryptValue : Encryption} {w : World} {survey : Survey}
  {parts : List Part} {row : Section} {fields : List Field}

/-- The next number is free. -/
theorem nextOrder_not_mem (orders : List Nat) : nextOrder orders ∉ orders := fun member =>
  Nat.lt_irrefl _ (lt_nextOrder _ member)

theorem handle_createSurvey (admin : user.role = .admin) (title description : String) :
    handle py w ⟨user, order, encryptValue, .createSurvey ⟨.given title, .given description, .missing⟩⟩ =
      withDb w { w.db with
        surveys := w.db.surveys.insert (Survey.withId ⟨0, title, description, user.id, .draft⟩) (Survey.key_withId _) } := by
  apply (final_bind_same fun _ _ => rfl).trans
  rw [surveyCreate, final, requireAdmin_bind_of_admin admin]
  rfl

theorem sectionInsert_of_accepted {data : SectionData} {number : Nat}
    (numbered : data.order.getD (nextOrder ((w.db.sectionsOf survey.id).map Section.order)) = number)
    (accepted : Database.sectionConstraints w.db (newSection w.db survey data number) = .ok ()) :
    sectionInsert survey data w = .ok (newSection w.db survey data number) (refreshed survey.id w { w.db with
      sections := w.db.sections.insert (Section.withId ({ data with order := some number }.assign ⟨0, survey.id, "", "", 0⟩))
        (Section.key_withId _) }) := by
  subst numbered
  have inserted : sectionModel.insert _ (Section.key_withId _) w = _ := Model.insert_of_constraints _ accepted
  rw [sectionInsert, query_pure_bind, bind_of_ok (translating_eq_ok_iff.mpr inserted)]
  rfl

theorem fieldInsert_of_accepted {data : FieldData} {number : Nat}
    (numbered : data.order.getD (nextOrder ((w.db.fieldsOf row.id).map Field.order)) = number)
    (accepted : Database.fieldConstraints w.db (newField w.db row data number) = .ok ()) :
    fieldInsert row data w = .ok (newField w.db row data number) (refreshed row.surveyId w { w.db with
      fields := w.db.fields.insert (Field.withId ({ data with order := some number }.assign (blankField row.id)))
        (Field.key_withId _) }) := by
  subst numbered
  have inserted : fieldModel.insert _ (Field.key_withId _) w = _ := Model.insert_of_constraints _ accepted
  rw [fieldInsert, query_pure_bind]
  simp only [createField, translating_eq_ok_iff]
  rw [bind_of_ok (translating_eq_ok_iff.mpr inserted)]
  rfl

/-- The next section of a survey with the orders from one on. -/
theorem handle_createSection (admin : user.role = .admin) (draft : survey.status = .draft) (built : Built w.db survey parts)
    (orders : parts.map (fun part => part.1.order) = List.range' 1 parts.length) (room : parts.length < maxInteger)
    (plan : SectionPlan) :
    handle py w ⟨user, order, encryptValue, .createSection survey.id ⟨.given plan.title, .given plan.description, .missing⟩⟩ =
      refreshed survey.id w { w.db with
        sections := w.db.sections.insert (fun id => plan.row survey.id id (parts.length + 1)) fun _ => rfl } := by
  have siblings : (w.db.sectionsOf survey.id).map Section.order = List.range' 1 parts.length := by
    rw [built.sections, List.map_map]
    exact orders
  have number := nextOrder_range' parts.length
  have accepted : Database.sectionConstraints w.db (plan.row survey.id w.db.sections.next (parts.length + 1)) = .ok () := by
    have free := nextOrder_not_mem (List.range' 1 parts.length)
    rw [number] at free
    rw [sectionConstraints_new (Option.isSome_of_eq_some built.stored) rfl]
    exact (if_neg (Nat.not_lt_of_le room)).trans (if_neg (siblings ▸ free))
  have inserted := @sectionInsert_of_accepted w survey ⟨some plan.title, some plan.description, none⟩ (parts.length + 1)
    (by rw [siblings]; exact number) accepted
  apply (final_bind_same fun _ _ => rfl).trans
  rw [final, sectionCreate_eq admin built.stored draft rfl]
  exact congrArg (fun result => final (fun _ => result) w) inserted

theorem validateField_of_acceptable {plan : FieldPlan} (acceptable : plan.Acceptable py) (sectionPk : Nat) :
    validateField py false (blankField sectionPk) ⟨.given plan.label, .given plan.fieldType, .given plan.required, .missing,
      .given plan.options, .given plan.isEncrypted, .given plan.validationRules⟩ =
        .ok ⟨plan.label, plan.fieldType, plan.required, none, plan.options, plan.isEncrypted, plan.validationRules⟩ := by
  obtain ⟨options, validationRules, optionsGiven, rulesGiven⟩ := acceptable
  have passed : ∀ value : Json, value.isNone = false → (Submitted.given value).convert notNull = .given value := by
    intro value given
    simp [Submitted.convert, notNull, given]
  simp only [validateField, passed _ optionsGiven, passed _ rulesGiven, validateFieldData, Submitted.value?,
    FieldData.assign, Option.getD_some, options, validationRules]
  rfl

/-- The next field of the last section. -/
theorem handle_createField (admin : user.role = .admin) (draft : survey.status = .draft)
    (built : Built w.db survey (parts ++ [(row, fields)]))
    (orders : fields.map Field.order = List.range' 1 fields.length) (room : fields.length < maxInteger) {plan : FieldPlan}
    (acceptable : plan.Acceptable py) :
    handle py w ⟨user, order, encryptValue, plan.request survey.id row.id⟩ =
      refreshed survey.id w { w.db with
        fields := w.db.fields.insert (fun id => plan.row row.id id (fields.length + 1)) fun _ => rfl } := by
  have last : (row, fields) ∈ parts ++ [(row, fields)] := List.mem_append_right _ (List.mem_singleton_self _)
  obtain ⟨stored, inSurvey⟩ := built.stored_section last
  have siblings : (w.db.fieldsOf row.id).map Field.order = List.range' 1 fields.length := by
    rw [built.fields _ last]
    exact orders
  have number := nextOrder_range' fields.length
  have accepted : Database.fieldConstraints w.db (plan.row row.id w.db.fields.next (fields.length + 1)) = .ok () := by
    have free := nextOrder_not_mem (List.range' 1 fields.length)
    rw [number] at free
    rw [fieldConstraints_new acceptable.notNull.1 acceptable.notNull.2 (Option.isSome_of_eq_some stored) rfl]
    exact (if_neg (Nat.not_lt_of_le room)).trans (if_neg (siblings ▸ free))
  have inserted := @fieldInsert_of_accepted w row ⟨plan.label, plan.fieldType, plan.required, none, plan.options,
    plan.isEncrypted, plan.validationRules⟩ (fields.length + 1) (by rw [siblings]; exact number) accepted
  have found : getSection survey.id row.id w.db = some row := by
    rw [getSection, stored]
    exact Option.filter_some_pos (decide_eq_true inSurvey)
  apply (final_bind_same fun _ _ => rfl).trans
  rw [final, fieldCreate_eq admin built.stored draft found (validateField_of_acceptable acceptable row.id), ← inSurvey]
  exact congrArg (fun result => final (fun _ => result) w) inserted

end Requests

/-! ## The run of a plan -/

/-- So much is built, nothing of it is cached, and these are the next keys. -/
structure Reached (w : World) (survey : Survey) (parts : List Part) (sectionPk fieldPk : Nat) : Prop where
  built : Built w.db survey parts
  uncached : structureEntry w survey.id = none
  nextSection : w.db.sections.next = sectionPk
  nextField : w.db.fields.next = fieldPk

theorem structureEntry_refreshed (surveyId : Nat) (w : World) (db : Database) :
    structureEntry (refreshed surveyId w db) surveyId = none := if_pos rfl

/-- The requests, each as a call of this user. -/
def callsOf (user : User) (order : SetOrder) (encryptValue : Encryption) (requests : List Request) : List Call :=
  requests.map fun request => ⟨user, order, encryptValue, request⟩

section Runs

variable {py : Interpreter} {user : User} {order : SetOrder} {encryptValue : Encryption} {w : World} {survey : Survey}
  {parts : List Part} {row : Section} {fields : List Field} {sectionPk fieldPk : Nat}

/-- Induction on the fields that are left; each one goes to the end of its section. -/
theorem fields_built (admin : user.role = .admin) (draft : survey.status = .draft) {plans : List FieldPlan}
    (acceptable : ∀ plan ∈ plans, plan.Acceptable py) (reached : Reached w survey (parts ++ [(row, fields)]) sectionPk fieldPk)
    (orders : fields.map Field.order = List.range' 1 fields.length) (room : fields.length + plans.length ≤ maxInteger) :
    Reached (run (handle py) w (callsOf user order encryptValue (plans.map (FieldPlan.request survey.id row.id)))) survey
      (parts ++ [(row, fields ++ plannedFields row.id fieldPk (fields.length + 1) plans)]) sectionPk
      (fieldPk + plans.length) := by
  induction plans generalizing w fields fieldPk with
  | nil => rwa [plannedFields, List.append_nil, List.length_nil, Nat.add_zero]
  | cons plan rest inductionHypothesis =>
    obtain ⟨now, later⟩ := List.forall_mem_cons.mp acceptable
    obtain ⟨built, uncached, nextSection, rfl⟩ := reached
    rw [List.length_cons] at room
    have created := @handle_createField py user order encryptValue w survey parts row fields admin draft built orders
      (by omega) plan now
    have next : Reached (handle py w ⟨user, order, encryptValue, plan.request survey.id row.id⟩) survey
        (parts ++ [(row, fields ++ [plan.row row.id w.db.fields.next (fields.length + 1)])]) sectionPk
        (w.db.fields.next + 1) := by
      rw [created]
      exact ⟨built.addField (fun _ => rfl) rfl, structureEntry_refreshed _ _ _, nextSection, rfl⟩
    have orders' : (fields ++ [plan.row row.id w.db.fields.next (fields.length + 1)]).map Field.order =
        List.range' 1 (fields ++ [plan.row row.id w.db.fields.next (fields.length + 1)]).length := by
      rw [List.map_append, orders, List.length_append, List.length_singleton, List.range'_1_concat, Nat.add_comm 1]
      rfl
    have done := inductionHypothesis later next orders' (by rw [List.length_append, List.length_singleton]; omega)
    rw [List.length_append, List.length_singleton, List.append_assoc] at done
    rw [List.length_cons, Nat.add_comm rest.length, ← Nat.add_assoc]
    exact done

/-- Induction on the sections that are left. -/
theorem sections_built (admin : user.role = .admin) (draft : survey.status = .draft) {plans : List SectionPlan}
    (acceptable : ∀ plan ∈ plans, ∀ field ∈ plan.fields, field.Acceptable py)
    (fieldRoom : ∀ plan ∈ plans, plan.fields.length ≤ maxInteger) (reached : Reached w survey parts sectionPk fieldPk)
    (orders : parts.map (fun part => part.1.order) = List.range' 1 parts.length)
    (room : parts.length + plans.length ≤ maxInteger) :
    ∃ nextSection nextField, Reached (run (handle py) w
        (callsOf user order encryptValue (sectionRequests survey.id sectionPk plans))) survey
      (parts ++ plannedParts survey.id sectionPk fieldPk (parts.length + 1) plans) nextSection nextField := by
  induction plans generalizing w parts sectionPk fieldPk with
  | nil =>
    rw [plannedParts, List.append_nil]
    exact ⟨_, _, reached⟩
  | cons plan rest inductionHypothesis =>
    obtain ⟨nowFields, laterFields⟩ := List.forall_mem_cons.mp acceptable
    obtain ⟨nowRoom, laterRoom⟩ := List.forall_mem_cons.mp fieldRoom
    obtain ⟨built, uncached, rfl, nextField⟩ := reached
    rw [List.length_cons] at room
    let row := plan.row survey.id w.db.sections.next (parts.length + 1)
    have created := @handle_createSection py user order encryptValue w survey parts admin draft built orders (by omega) plan
    have begun : Reached (handle py w ⟨user, order, encryptValue,
        .createSection survey.id ⟨.given plan.title, .given plan.description, .missing⟩⟩) survey (parts ++ [(row, [])])
        (w.db.sections.next + 1) fieldPk := by
      rw [created]
      exact ⟨built.addSection (fun _ => rfl) rfl, structureEntry_refreshed _ _ _, rfl, nextField⟩
    have filled := @fields_built py user order encryptValue _ survey parts row [] _ _ admin draft plan.fields nowFields begun rfl
      (by rwa [List.length_nil, Nat.zero_add])
    have orders' : (parts ++ [(row, plannedFields row.id fieldPk 1 plan.fields)]).map (fun part => part.1.order) =
        List.range' 1 (parts ++ [(row, plannedFields row.id fieldPk 1 plan.fields)]).length := by
      rw [List.map_append, orders, List.length_append, List.length_singleton, List.range'_1_concat, Nat.add_comm 1]
      rfl
    obtain ⟨nextSection, nextField', done⟩ := inductionHypothesis laterFields laterRoom filled orders'
      (by rw [List.length_append, List.length_singleton]; omega)
    refine ⟨nextSection, nextField', ?_⟩
    rw [List.length_append, List.length_singleton, List.append_assoc] at done
    rw [sectionRequests, callsOf, List.map_append, run_append]
    exact done

end Runs

/-! ## The start -/

/-- No entry is kept for a survey that is still to be created. -/
def NothingAhead (w : World) : Prop := ∀ id, w.db.surveys.next ≤ id → structureEntry w id = none

section Starts

variable {py : Interpreter} {w : World}

theorem NothingAhead.refreshed (ahead : NothingAhead w) {db : Database} (sameNext : db.surveys.next = w.db.surveys.next)
    (objectId : String) : NothingAhead (invalidated objectId (withDb w db)) := by
  intro id later
  have before := ahead id (sameNext ▸ later)
  show (if _ then none else _) = none
  split
  · rfl
  · exact before

theorem Served.nothingAhead {call : Call} {ends : Option PyExn × World} (served : Served py w call ends)
    (ahead : NothingAhead w) : NothingAhead ends.2 := by
  cases served with
  | refused exn => exact ahead
  | invalid request => exact ahead
  | surveyCreated => exact fun id later => ahead id (Nat.le_of_succ_le later)
  | surveyUpdated admin request valid stored accepted =>
    refine ahead.refreshed ?_ _
    exact next_save_of_get (by rw [SurveyData.key_assign]; exact stored)
  | statusWritten | submitted => exact ahead
  | _ => exact ahead.refreshed rfl _

theorem serve_nothingAhead (py : Interpreter) (w : World) (request : ApiCall) (ahead : NothingAhead w) :
    NothingAhead (serve py w request) := by
  cases request with
  | write call =>
    obtain ⟨raised, served⟩ := handle_served py w call
    exact served.nothingAhead ahead
  | retrieve user pk =>
    rw [serve]
    obtain unchanged | ⟨survey, found, _, stored⟩ := surveyRetrieve_cases user pk w
    · rwa [unchanged]
    · rw [stored]
      intro id later
      obtain ⟨parsed, isStored, _⟩ := visibleSurvey_eq_some.mp found
      have other : structureKey (toString id) ≠ structureKey pk := by
        intro same
        rw [← structureKey_injective same, lookupKey_toString] at parsed
        cases parsed
        exact absurd (lt_next isStored) (Nat.not_lt_of_le later)
      exact (Function.update_of_ne other _ _).trans (ahead id later)

theorem run_nothingAhead (py : Interpreter) (calls : List ApiCall) : NothingAhead (run (serve py) World.empty calls) :=
  run_invariant (serve_nothingAhead py) (fun _ _ => rfl) calls

/-- The new survey is empty: nothing stored refers to a key that was not given out. -/
theorem reached_created (intact : Intact w.db) (ahead : NothingAhead w) (title description : String) (createdBy : Nat) :
    Reached (withDb w { w.db with
        surveys := w.db.surveys.insert (Survey.withId ⟨0, title, description, createdBy, .draft⟩) (Survey.key_withId _) })
      ⟨w.db.surveys.next, title, description, createdBy, .draft⟩ [] w.db.sections.next w.db.fields.next := by
  refine ⟨⟨?_, ?_, by simp, ?_, ?_, ?_⟩, ahead _ (Nat.le_refl _), rfl, rfl⟩
  · show (w.db.surveys.insert _ (Survey.key_withId _)).get w.db.surveys.next = _
    rw [get_insert, if_pos rfl]
    rfl
  · exact intact.sectionSurvey.filter_eq_nil (Nat.le_refl _)
  · exact fun id later => intact.fieldSection.filter_eq_nil later
  · exact intact.ruleSurvey.filter_eq_nil (Nat.le_refl _)
  · exact intact.dependencySurvey.filter_eq_nil (Nat.le_refl _)

end Starts

/-! ## Reading it back -/

/-- A section with its fields, as it is serialized. -/
def partJson (part : Part) : Json :=
  .object [("id", .int part.1.id), ("survey", .int part.1.surveyId), ("title", .str part.1.title),
    ("description", .str part.1.description), ("order", .int part.1.order), ("fields", .list (part.2.map fieldJson))]

/-- The survey, as a reader with this role sees it. -/
def builtJson (role : Role) (survey : Survey) (parts : List Part) : Json :=
  .object [("id", .int survey.id), ("title", .str survey.title), ("description", .str survey.description),
    ("status", .str survey.status.value),
    ("sections", .list ((if role ≠ .admin then parts.filter fun part => part.2 ≠ [] else parts).map partJson)),
    ("conditional_rules", .list []), ("field_dependencies", .list [])]

/-- Rows that are numbered in their order stay as they are. -/
theorem ordered_of_range' {α : Type} {order : α → Nat} {rows : List α} {start count : Nat}
    (numbered : rows.map order = List.range' start count) : ordered order rows = rows := by
  apply List.mergeSort_of_pairwise
  have increasing : (rows.map order).Pairwise (· < ·) := numbered ▸ List.pairwise_lt_range'
  refine (List.pairwise_map.mp increasing).imp ?_
  intro first second below
  exact decide_eq_true (Nat.le_of_lt below)

section Reading

variable {db : Database} {survey : Survey} {parts : List Part}

/-- Orders from one on, of the sections and of the fields in each. -/
structure Numbered (parts : List Part) : Prop where
  sections : parts.map (fun part => part.1.order) = List.range' 1 parts.length
  fields : ∀ part ∈ parts, part.2.map Field.order = List.range' 1 part.2.length

theorem Built.sectionJson_eq (built : Built db survey parts) (numbered : Numbered parts) {part : Part}
    (member : part ∈ parts) : sectionJson db part.1 = partJson part := by
  rw [sectionJson, built.fields part member, ordered_of_range' (numbered.fields part member)]
  rfl

theorem Built.surveyJson_eq (built : Built db survey parts) (numbered : Numbered parts) (role : Role) :
    surveyJson db role survey = builtJson role survey parts := by
  have inOrder : ordered Section.order (db.sectionsOf survey.id) = parts.map Prod.fst := by
    rw [built.sections]
    apply ordered_of_range'
    rw [List.map_map]
    exact numbered.sections
  have shown : (getSections db role survey.id).map (sectionJson db) =
      (if role ≠ .admin then parts.filter fun part => part.2 ≠ [] else parts).map partJson := by
    unfold getSections
    simp only [inOrder]
    split
    · rw [List.filter_map, List.map_map]
      have sameFilter : parts.filter ((fun row : Section => decide (db.fieldsOf row.id ≠ [])) ∘ Prod.fst) =
          parts.filter fun part => decide (part.2 ≠ []) :=
        List.filter_congr fun part member => by rw [Function.comp_apply, built.fields part member]
      rw [sameFilter]
      exact List.map_congr_left fun part member => built.sectionJson_eq numbered (List.mem_of_mem_filter member)
    · rw [List.map_map]
      exact List.map_congr_left fun part member => built.sectionJson_eq numbered member
  have noRules : db.conditionalRulesOf survey.id = [] := built.noRules
  have noDependencies : db.fieldDependenciesOf survey.id = [] := built.noDependencies
  rw [surveyJson, shown, noRules, noDependencies]
  rfl

end Reading

/-! ## Publishing -/

section Publishing

variable {py : Interpreter} {user : User} {order : SetOrder} {encryptValue : Encryption} {w : World} {survey : Survey}
  {parts : List Part}

/-- The gate of `transition_to`: the survey is published, or nothing changes. -/
theorem handle_publish (admin : user.role = .admin) (draft : survey.status = .draft)
    (stored : w.db.surveys.get survey.id = some survey) :
    (Publishable w.db survey.id → handle py w ⟨user, order, encryptValue, publishRequest survey.id⟩ =
      refreshed survey.id w { w.db with surveys := w.db.surveys.save (survey.withStatus .published) }) ∧
    (¬ Publishable w.db survey.id → handle py w ⟨user, order, encryptValue, publishRequest survey.id⟩ = w) := by
  have view : handle py w ⟨user, order, encryptValue, publishRequest survey.id⟩ =
      final (surveyUpdate user survey.id true ⟨.missing, .missing, .given .published⟩) w := final_bind_same fun _ _ => rfl
  rw [view]
  constructor
  · intro publishable
    have accepted : checkTransition w.db survey .published = .ok () :=
      checkTransition_eq_ok.mpr ⟨by rw [draft]; rfl, fun _ => publishable⟩
    have ran := @runStatusField_of_writes ⟨.missing, .missing, .given .published⟩ survey w .published stored
      ⟨rfl, by rw [draft]; decide, accepted⟩
    have allowed : ¬ BodyRefused true ⟨.missing, .missing, .given .published⟩ := by simp [BodyRefused, Submitted.error?]
    have validated := validateSurvey_of_accepted ran allowed
    have saved : (w.db.surveys.modify survey.id (·.withStatus .published) (Survey.key_withStatus .published)).save
        (survey.withStatus .published) = w.db.surveys.save (survey.withStatus .published) := save_modify rfl
    rw [final, surveyUpdate, requireAdmin_bind_of_admin admin, getOr404_bind_of_some stored, bind_of_ok validated]
    show refreshed survey.id w { w.db with surveys := (w.db.surveys.modify survey.id (·.withStatus .published)
      (Survey.key_withStatus .published)).save (survey.withStatus .published) } = _
    rw [saved]
  · intro notPublishable
    obtain ⟨value, writes, _⟩ | ⟨_, result, ran, ⟨_, sameStatus, _⟩ | ⟨⟨message, rfl⟩, _⟩⟩ :=
      statusField_cases ⟨user, true, ⟨.missing, .missing, .given .published⟩⟩ survey.id w survey
    · obtain ⟨given, _, accepted⟩ := writes
      cases given
      exact absurd ((checkTransition_eq_ok.mp accepted).2 rfl) notPublishable
    · rw [draft] at sameStatus
      cases sameStatus
    · exact @final_surveyUpdate_of_refused survey.id survey w w ⟨user, true, _⟩ message admin stored ran

end Publishing

/-! ## Plans and what is read -/

theorem plannedParts_counts (surveyPk sectionPk fieldPk order : Nat) (plans : List SectionPlan) :
    (plannedParts surveyPk sectionPk fieldPk order plans).map (fun part => part.2.length) =
      plans.map fun plan => plan.fields.length := by
  induction plans generalizing sectionPk fieldPk order with
  | nil => rfl
  | cons plan rest inductionHypothesis =>
    have count := congrArg List.length (plannedFields_orders sectionPk fieldPk 1 plan.fields)
    rw [List.length_map, List.length_range'] at count
    rw [plannedParts, List.map_cons, List.map_cons, inductionHypothesis, count]

theorem numbered_plannedParts (surveyPk sectionPk fieldPk : Nat) (plans : List SectionPlan) :
    Numbered (plannedParts surveyPk sectionPk fieldPk 1 plans) := by
  constructor
  · have orders := plannedParts_orders surveyPk sectionPk fieldPk 1 plans
    have count := congrArg List.length orders
    rw [List.length_map, List.length_range'] at count
    rw [orders, count]
  · suffices inSections : ∀ order, ∀ part ∈ plannedParts surveyPk sectionPk fieldPk order plans,
        part.2.map Field.order = List.range' 1 part.2.length from inSections 1
    intro order
    induction plans generalizing sectionPk fieldPk order with
    | nil => exact fun part member => absurd member List.not_mem_nil
    | cons plan rest inductionHypothesis =>
      refine List.forall_mem_cons.mpr ⟨?_, inductionHypothesis _ _ _⟩
      have orders := plannedFields_orders sectionPk fieldPk 1 plan.fields
      have count := congrArg List.length orders
      rw [List.length_map, List.length_range'] at count
      rw [orders, count]

/-- The gate looks at the plan alone. -/
theorem Built.publishable_iff {db : Database} {survey : Survey} {parts : List Part} (built : Built db survey parts)
    {plan : SurveyPlan}
    (counts : parts.map (fun part => part.2.length) = plan.sections.map fun section_ => section_.fields.length) :
    Publishable db survey.id ↔ plan.Complete := by
  have inParts : Publishable db survey.id ↔
      parts.map (fun part => part.2.length) ≠ [] ∧ ∀ count ∈ parts.map (fun part => part.2.length), count ≠ 0 := by
    rw [Publishable, built.sections]
    simp only [ne_eq, List.map_eq_nil_iff, List.forall_mem_map, List.length_eq_zero_iff]
    refine and_congr_right fun _ => forall₂_congr fun part member => ?_
    rw [built.fields part member]
  rw [inParts, counts, SurveyPlan.Complete]
  simp only [ne_eq, List.map_eq_nil_iff, List.forall_mem_map, List.length_eq_zero_iff]

/-- What the view answers a reader: customers only find published surveys. -/
def answerTo (reader : User) (survey : Survey) (parts : List Part) : Except PyExn Json :=
  if reader.role = .customer ∧ survey.status ≠ .published then .error .http404 else .ok (builtJson reader.role survey parts)

theorem Built.retrieved {w : World} {survey : Survey} {parts : List Part} (built : Built w.db survey parts)
    (numbered : Numbered parts) (uncached : structureEntry w survey.id = none) (reader : User) :
    outcome (surveyRetrieve reader (toString survey.id)) w = answerTo reader survey parts := by
  unfold answerTo surveyRetrieve
  by_cases hidden : reader.role = .customer ∧ survey.status ≠ .published
  · have missing : visibleSurvey reader (toString survey.id) w.db = none := by
      rw [visibleSurvey, lookupKey_toString, Option.bind_some, built.stored]
      simp [hidden]
    rw [if_pos hidden, outcome_of_error (getOr404_bind_of_none missing)]
  · have found : visibleSurvey reader (toString survey.id) w.db = some survey := by
      refine visibleSurvey_eq_some.mpr ⟨lookupKey_toString _, built.stored, fun customer => ?_⟩
      by_contra notPublished
      exact hidden ⟨customer, notPublished⟩
    have noEntry : w.cache (structureKey (toString survey.id)) = none := uncached
    rw [if_neg hidden, outcome, getOr404_bind_of_some found, getStructure_bind, noEntry, Option.filter_none]
    simp only [bind, EStateM.bind, uncachedRetrieve_of_visible found, built.surveyJson_eq numbered reader.role]
    rfl

/-- After any run of the API, the requests of a plan leave a draft that its first reader
reads as it was planned, and publishing it then goes through exactly when the plan is
complete; a refused publication leaves the world as it is. -/
theorem built_retrieved (py : Interpreter) {user : User} (admin : user.role = .admin) (order : SetOrder)
    (encryptValue : Encryption) (earlier : List ApiCall) {plan : SurveyPlan} (acceptable : plan.Acceptable py) :
    let w := run (serve py) World.empty earlier
    let survey : Survey := ⟨w.db.surveys.next, plan.title, plan.description, user.id, .draft⟩
    let parts := plannedParts survey.id w.db.sections.next w.db.fields.next 1 plan.sections
    let drafted := run (handle py) w (callsOf user order encryptValue (plan.requests survey.id w.db.sections.next))
    let published := handle py drafted ⟨user, order, encryptValue, publishRequest survey.id⟩
    (∀ reader, outcome (surveyRetrieve reader (toString survey.id)) drafted = answerTo reader survey parts) ∧
      (∀ reader, outcome (surveyRetrieve reader (toString survey.id)) published =
        answerTo reader (if plan.Complete then survey.withStatus .published else survey) parts) ∧
      (¬ plan.Complete → published = drafted) := by
  intro w survey parts drafted published
  have created := reached_created (run_intact intact_empty earlier) (run_nothingAhead py earlier) plan.title
    plan.description user.id
  rw [← @handle_createSurvey py user order encryptValue w admin] at created
  obtain ⟨nextSection, nextField, reached⟩ := sections_built admin rfl acceptable.fields acceptable.fieldCount created rfl
    (by rw [List.length_nil, Nat.zero_add]; exact acceptable.sectionCount)
  replace reached : Reached drafted survey parts nextSection nextField := reached
  have numbered : Numbered parts := numbered_plannedParts _ _ _ _
  refine ⟨reached.built.retrieved numbered reached.uncached, ?_⟩
  have gate := reached.built.publishable_iff (plannedParts_counts _ _ _ _ plan.sections)
  obtain ⟨passes, refuses⟩ := @handle_publish py user order encryptValue drafted survey admin rfl reached.built.stored
  by_cases complete : plan.Complete
  · have isPublished : published = _ := passes (gate.mpr complete)
    have built : Built published.db (survey.withStatus .published) parts := by
      rw [isPublished]
      refine { reached.built with stored := ?_ }
      exact (get_save _ _ _).trans (if_pos rfl)
    rw [if_pos complete]
    refine ⟨built.retrieved numbered (isPublished ▸ structureEntry_refreshed _ _ _), ?_⟩
    exact fun incomplete => absurd complete incomplete
  · have unchanged : published = drafted := refuses fun publishable => complete (gate.mp publishable)
    rw [if_neg complete, unchanged]
    exact ⟨reached.built.retrieved numbered reached.uncached, fun _ => rfl⟩

/-- Two sections, one of them with two fields. -/
def healthPlan : SurveyPlan where
  title := "Health"
  description := ""
  sections := [
    ⟨"You", "", [⟨"Smoker", .text, true, .list [], false, .object []⟩,
      ⟨"Brand", .dropdown, false, .list [.str "c", .str "d"], false, .object []⟩]⟩,
    ⟨"Habits", "", [⟨"Notes", .textarea, false, .list [], true, .object []⟩]⟩]

theorem healthPlan_acceptable : healthPlan.Acceptable bareInterpreter where
  fields := by
    simp only [healthPlan, List.forall_mem_cons, List.not_mem_nil, false_imp_iff, implies_true, and_true]
    exact ⟨⟨⟨rfl, rfl, rfl, rfl⟩, ⟨rfl, rfl, rfl, rfl⟩⟩, ⟨rfl, rfl, rfl, rfl⟩⟩
  sectionCount := by decide
  fieldCount := by decide

/-- What a customer reads once it is published. -/
theorem built_retrieved_health :
    outcome (surveyRetrieve ⟨7, .customer⟩ "1") (run (handle bareInterpreter) World.empty
      (callsOf administrator .ascending prefixToken (healthPlan.requests 1 1 ++ [publishRequest 1]))) =
    .ok (builtJson .customer ⟨1, "Health", "", 1, .published⟩ [
      (⟨1, 1, "You", "", 1⟩, [⟨1, 1, "Smoker", .text, true, 1, .list [], false, .object []⟩,
        ⟨2, 1, "Brand", .dropdown, false, 2, .list [.str "c", .str "d"], false, .object []⟩]),
      (⟨2, 1, "Habits", "", 2⟩, [⟨3, 2, "Notes", .textarea, false, 1, .list [], true, .object []⟩])]) := by
  have read := (built_retrieved bareInterpreter (show administrator.role = .admin from rfl) .ascending prefixToken []
    healthPlan_acceptable).2.1 ⟨7, .customer⟩
  exact read

end SurveyPlatform.Verified

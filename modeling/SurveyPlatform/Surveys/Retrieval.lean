import SurveyPlatform.Python.Encoding
import SurveyPlatform.Surveys.Views

/-! # Reading a survey

`SurveyDetailSerializer` and `SurveyViewSet.retrieve`, with the cache in between.
The primary key of the URL is a string here: the lookup converts it, the cache
key is made of it as it is.

`created_by` and the timestamps are left out of the serialized survey.
-/

namespace SurveyPlatform.Surveys

open SurveyPlatform.Library SurveyPlatform.Library.Program SurveyPlatform.Python

/-! ## Serializers -/

/-- A queryset of a model with `ordering = ["order"]`. -/
def ordered {α : Type} (order : α → Nat) (rows : List α) : List α :=
  rows.mergeSort fun a b => decide (order a ≤ order b)

/-- A nullable foreign key. -/
def pkJson : Option Nat → Json
  | none => .null
  | some pk => .int pk

/-- `FieldSerializer.to_representation` -/
def fieldJson (field : Field) : Json :=
  .object [("id", .int field.id), ("section", .int field.sectionId), ("label", .str field.label),
    ("field_type", .str field.fieldType.value), ("required", .bool field.required), ("order", .int field.order),
    ("options", field.options), ("is_encrypted", .bool field.isEncrypted),
    ("validation_rules", field.validationRules)]

/-- `SectionSerializer.to_representation` -/
def sectionJson (db : Database) (row : Section) : Json :=
  .object [("id", .int row.id), ("survey", .int row.surveyId), ("title", .str row.title),
    ("description", .str row.description), ("order", .int row.order),
    ("fields", .list ((ordered Field.order (db.fieldsOf row.id)).map fieldJson))]

/-- `ConditionalRuleSerializer.to_representation` -/
def conditionalRuleJson (rule : ConditionalRule) : Json :=
  .object [("id", .int rule.id), ("target_section", pkJson rule.targetSectionId),
    ("target_field", pkJson rule.targetFieldId), ("depends_on_field", .int rule.dependsOnFieldId),
    ("operator", .str rule.operator.value), ("value", rule.value)]

/-- `FieldDependencySerializer.to_representation` -/
def fieldDependencyJson (dep : FieldDependency) : Json :=
  .object [("id", .int dep.id), ("dependent_field", .int dep.dependentFieldId),
    ("depends_on_field", .int dep.dependsOnFieldId), ("operator", .str dep.operator.value), ("value", dep.value),
    ("action", .str dep.action.value), ("action_value", dep.actionValue)]

/-- `survey.conditional_rules` -/
def Database.conditionalRulesOf (db : Database) (surveyId : Nat) : List ConditionalRule :=
  db.conditionalRules.rows.filter (·.surveyId = surveyId)

/-- `survey.field_dependencies` -/
def Database.fieldDependenciesOf (db : Database) (surveyId : Nat) : List FieldDependency :=
  db.fieldDependencies.rows.filter (·.surveyId = surveyId)

/-- `SurveyDetailSerializer.get_sections`: only administrators see empty sections. -/
def getSections (db : Database) (role : Role) (surveyId : Nat) : List Section :=
  let sections := ordered Section.order (db.sectionsOf surveyId)
  if role ≠ .admin then sections.filter fun row => db.fieldsOf row.id ≠ [] else sections

/-- `SurveyDetailSerializer.to_representation` -/
def surveyJson (db : Database) (role : Role) (survey : Survey) : Json :=
  .object [("id", .int survey.id), ("title", .str survey.title), ("description", .str survey.description),
    ("status", .str survey.status.value),
    ("sections", .list ((getSections db role survey.id).map (sectionJson db))),
    ("conditional_rules", .list ((db.conditionalRulesOf survey.id).map conditionalRuleJson)),
    ("field_dependencies", .list ((db.fieldDependenciesOf survey.id).map fieldDependencyJson))]

/-! ## The cache -/

/-- `SurveyCacheService.get_structure` -/
def getStructure (objectId : String) : Procedure (Option Json) :=
  reading fun w => .ok (w.cache (structureKey objectId))

theorem getStructure_bind {α : Type} (objectId : String) (next : Option Json → Procedure α) (w : World) :
    (getStructure objectId >>= next) w = next (w.cache (structureKey objectId)) w := rfl

/-- `SurveyCacheService.set_structure` -/
def setStructure (objectId : String) (data : Json) : Procedure Unit :=
  writing fun w => { w with cache := Function.update w.cache (structureKey objectId) (some data) }

/-! ## `retrieve` -/

/-- `filter(pk=pk)` converts the key; no row has a negative one. -/
def lookupKey (pk : String) : Option Nat :=
  (parseInt pk).bind fun id => if 0 ≤ id then some id.toNat else none

/-- `get_object`: customers only find published surveys. -/
def visibleSurvey (user : User) (pk : String) (db : Database) : Option Survey :=
  ((lookupKey pk).bind db.surveys.get).filter fun survey =>
    user.role ≠ .customer || survey.status = .published

/-- `super().retrieve()`: the answer without a cache. -/
def uncachedRetrieve (user : User) (pk : String) : Procedure Json := do
  let survey ← getOr404 (visibleSurvey user pk)
  query fun db => return surveyJson db user.role survey

/-- `SurveyViewSet.retrieve` -/
def surveyRetrieve (user : User) (pk : String) : Procedure Json := do
  let _ ← getOr404 (visibleSurvey user pk)
  -- `if cached:` passes over an empty entry
  match (← getStructure pk).filter Json.truthy with
  | some cached => return cached
  | none => do
    let data ← uncachedRetrieve user pk
    setStructure pk data
    return data

/-- The world with one more cache entry. -/
def World.withEntry (w : World) (objectId : String) (data : Json) : World :=
  { w with cache := Function.update w.cache (structureKey objectId) (some data) }

theorem lookupKey_toString (id : Nat) : lookupKey (toString id) = some id := by
  rw [lookupKey, parseInt_toString]
  simp

theorem visibleSurvey_eq_some {user : User} {pk : String} {db : Database} {survey : Survey} :
    visibleSurvey user pk db = some survey ↔ lookupKey pk = some survey.id ∧
      db.surveys.get survey.id = some survey ∧ (user.role = .customer → survey.status = .published) := by
  simp only [visibleSurvey, Option.filter_eq_some_iff, Option.bind_eq_some_iff, Bool.or_eq_true, decide_eq_true_eq,
    ne_eq, ← imp_iff_not_or]
  constructor
  · intro holds
    obtain ⟨⟨id, parsed, stored⟩, shown⟩ := holds
    have sameKey : survey.id = id := db.surveys.keyed id survey stored
    subst sameKey
    exact ⟨parsed, stored, shown⟩
  · intro holds
    obtain ⟨parsed, stored, shown⟩ := holds
    exact ⟨⟨survey.id, parsed, stored⟩, shown⟩

theorem uncachedRetrieve_of_visible {user : User} {pk : String} {w : World} {survey : Survey}
    (found : visibleSurvey user pk w.db = some survey) :
    uncachedRetrieve user pk w = .ok (surveyJson w.db user.role survey) w := by
  rw [uncachedRetrieve, getOr404_bind_of_some found]
  rfl

/-- What `retrieve` leaves in the world: nothing new, or the serialized survey where there was no entry. -/
theorem surveyRetrieve_cases (user : User) (pk : String) (w : World) :
    final (surveyRetrieve user pk) w = w ∨ ∃ survey, visibleSurvey user pk w.db = some survey ∧
      (w.cache (structureKey pk)).filter Json.truthy = none ∧
      final (surveyRetrieve user pk) w = w.withEntry pk (surveyJson w.db user.role survey) := by
  unfold surveyRetrieve
  cases found : visibleSurvey user pk w.db with
  | none =>
    rw [final_of_error (getOr404_bind_of_none found)]
    exact Or.inl rfl
  | some survey =>
    simp only [final, getOr404_bind_of_some found, getStructure_bind]
    cases (w.cache (structureKey pk)).filter Json.truthy with
    | some data => exact Or.inl rfl
    | none =>
      refine Or.inr ⟨survey, rfl, rfl, ?_⟩
      simp only [uncachedRetrieve_of_visible found, bind, EStateM.bind]
      rfl

end SurveyPlatform.Surveys

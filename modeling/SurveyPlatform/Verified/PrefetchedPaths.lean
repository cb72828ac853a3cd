import SurveyPlatform.Library.Sorting
import SurveyPlatform.Responses.Storage
import SurveyPlatform.Surveys.QueryPaths

/-! # The prefetched path and the plain path

`prefetch_survey_structure` selects rules by their `survey` column and hands all
field rules to every section; without it the rules are selected by target, and
the fields section by section.  Where every rule is in the survey of its target,
the two are the same (`prefetchedPath_eq_plainPath`): the fields of a section
are sorted among the others as they are alone, and no rule of a target is in
another survey.
-/

namespace SurveyPlatform.Verified

open SurveyPlatform.Library SurveyPlatform.Python SurveyPlatform.Surveys SurveyPlatform.Responses

/-- Each rule is in the survey of its target. -/
structure RulesPlaced (db : Database) : Prop where
  ofSection : ∀ rule ∈ db.conditionalRules.rows, ∀ target, rule.targetSectionId = some target.id →
    db.sections.get target.id = some target → target.surveyId = rule.surveyId
  ofField : ∀ rule ∈ db.conditionalRules.rows, ∀ target, rule.targetFieldId = some target.id →
    db.placedField target.id = some target → target.sectionRow.surveyId = rule.surveyId

section Paths

variable (py : Interpreter) (db : Database) (surveyId : Nat) (answers : Dict String Json)

/-- What `validate_submission` passes as the fields of a section. -/
def prefetchedFields (sectionId : Nat) : List Field :=
  ((fieldsBySection (prefetchSurveyStructure db surveyId).fields).get? sectionId).getD []

/-- The same results, and the same exceptions, when rows come in primary-key order. -/
structure PathsAgree : Prop where
  ofSections : getVisibleSectionsOf py db surveyId answers (some (prefetchSurveyStructure db surveyId).sections)
      (some (prefetchSurveyStructure db surveyId).sectionRules) =
    getVisibleSectionsOf py db surveyId answers none none
  ofFields : ∀ current ∈ db.sectionsOf surveyId,
    getVisibleFieldsOf py db current.id answers (some (prefetchedFields db surveyId current.id))
        (some (prefetchSurveyStructure db surveyId).fieldRules) =
      getVisibleFieldsOf py db current.id answers none none
  ofDependencies : resolveDependenciesOf py db surveyId answers
      (some (prefetchSurveyStructure db surveyId).dependencies) =
    resolveDependenciesOf py db surveyId answers none

/-- The same results when each query without an order has its rows in some order of its own. -/
structure PathsAgreeUnordered : Prop where
  ofSections : ∀ rules rules', rules.Perm (prefetchSurveyStructure db surveyId).sectionRules →
    rules'.Perm (rulesTargeting db (·.targetSectionId) ((allSections db surveyId).map (·.id))) →
      ∀ visible visible', getVisibleSectionsOf py db surveyId answers
          (some (prefetchSurveyStructure db surveyId).sections) (some rules) = .ok visible →
        getVisibleSectionsOf py db surveyId answers none (some rules') = .ok visible' → visible = visible'
  ofFields : ∀ current ∈ db.sectionsOf surveyId, ∀ rules rules',
    rules.Perm (prefetchSurveyStructure db surveyId).fieldRules →
    rules'.Perm (rulesTargeting db (·.targetFieldId) ((allFields db current.id).map (·.id))) →
      ∀ visible visible', getVisibleFieldsOf py db current.id answers
          (some (prefetchedFields db surveyId current.id)) (some rules) = .ok visible →
        getVisibleFieldsOf py db current.id answers none (some rules') = .ok visible' → visible = visible'
  ofDependencies : ∀ dependencies dependencies',
    dependencies.Perm (prefetchSurveyStructure db surveyId).dependencies →
    dependencies'.Perm (dependenciesOf db surveyId) →
      ((∃ modifications, resolveDependenciesOf py db surveyId answers (some dependencies) = .ok modifications) ↔
        ∃ modifications', resolveDependenciesOf py db surveyId answers (some dependencies') = .ok modifications') ∧
      ∀ modifications modifications',
        resolveDependenciesOf py db surveyId answers (some dependencies) = .ok modifications →
        resolveDependenciesOf py db surveyId answers (some dependencies') = .ok modifications' →
          ∀ fieldId, Option.Rel List.Perm (modifications.get? fieldId) (modifications'.get? fieldId)

variable {py db surveyId answers}

/-! ## The lists of the two paths -/

/-- The fields of a section, sorted with all the others or alone. -/
theorem prefetchedFields_eq {current : Section} (member : current ∈ db.sectionsOf surveyId) :
    prefetchedFields db surveyId current.id = allFields db current.id := by
  obtain ⟨stored, inSurvey⟩ := Database.mem_sectionsOf.mp member
  have grouped : prefetchedFields db surveyId current.id =
      (structureFields db surveyId).filter (·.sectionId = current.id) := by
    rw [prefetchedFields, fieldsBySection, Dict.getD_get?_groupBy, List.map_id']
    rfl
  have chosen : ((db.fields.rows.filter fun field => (db.sections.get field.sectionId).any (·.surveyId = surveyId)).filter
      fun field => decide (field.sectionId = current.id)) = db.fieldsOf current.id := by
    rw [List.filter_filter, Database.fieldsOf]
    apply List.filter_congr
    intro field _
    by_cases same : field.sectionId = current.id
    · simp [same, stored, inSurvey]
    · simp [same]
  rw [grouped, structureFields, (ranking_lexicographic (sectionOrder db) Field.order).filter_mergeSort, chosen]
  apply (ranking_lexicographic (sectionOrder db) Field.order).mergeSort_congr (ranking_key Field.order)
  intro a inFields b inFields'
  -- in one section the first number is the same
  have sameSection : sectionOrder db a = sectionOrder db b := by
    rw [sectionOrder, sectionOrder, (Database.mem_fieldsOf.mp inFields).2, (Database.mem_fieldsOf.mp inFields').2]
  simp [sameSection]

/-- No rule of these targets is in another survey, so both queries find the same rules of each. -/
theorem rulesFor_prefetched {target : ConditionalRule → Option Nat} {ids : List Nat}
    (owned : ∀ rule ∈ db.conditionalRules.rows, ∀ id ∈ ids, target rule = some id → rule.surveyId = surveyId) :
    ∀ id ∈ ids, rulesFor target
        (db.conditionalRules.rows.filter fun rule => rule.surveyId = surveyId && (target rule).isSome) id =
      rulesFor target (rulesTargeting db target ids) id := by
  intro id member
  rw [rulesFor, rulesFor, rulesTargeting, List.filter_filter, List.filter_filter]
  apply List.filter_congr
  intro rule inRules
  by_cases targeted : target rule = some id
  · simp [targeted, member, owned rule inRules id member targeted]
  · simp [targeted]

theorem rulesFor_sections (placed : RulesPlaced db) : ∀ id ∈ (allSections db surveyId).map (·.id),
    rulesFor (·.targetSectionId) (prefetchSurveyStructure db surveyId).sectionRules id =
      rulesFor (·.targetSectionId)
        (rulesTargeting db (·.targetSectionId) ((allSections db surveyId).map (·.id))) id := by
  apply rulesFor_prefetched
  intro rule inRules id member targeted
  obtain ⟨target, inSections, rfl⟩ := List.mem_map.mp member
  obtain ⟨stored, inSurvey⟩ := Database.mem_sectionsOf.mp (List.mem_mergeSort.mp inSections)
  rw [← inSurvey]
  exact (placed.ofSection rule inRules target targeted stored).symm

theorem rulesFor_fields (placed : RulesPlaced db) {current : Section} (member : current ∈ db.sectionsOf surveyId) :
    ∀ id ∈ (allFields db current.id).map (·.id),
      rulesFor (·.targetFieldId) (prefetchSurveyStructure db surveyId).fieldRules id =
        rulesFor (·.targetFieldId)
          (rulesTargeting db (·.targetFieldId) ((allFields db current.id).map (·.id))) id := by
  obtain ⟨stored, inSurvey⟩ := Database.mem_sectionsOf.mp member
  apply rulesFor_prefetched
  intro rule inRules id inIds targeted
  obtain ⟨target, inFields, rfl⟩ := List.mem_map.mp inIds
  obtain ⟨found, inSection⟩ := Database.mem_fieldsOf.mp (List.mem_mergeSort.mp inFields)
  obtain ⟨placedTarget, rfl, rfl⟩ : ∃ row : PlacedField, row.toField = target ∧ row.sectionRow = current :=
    ⟨⟨target, current, inSection.symm⟩, rfl, rfl⟩
  have isPlaced : db.placedField placedTarget.id = some placedTarget :=
    Database.placedField_eq_some.mpr ⟨found, inSection ▸ stored⟩
  rw [← inSurvey]
  exact (placed.ofField rule inRules placedTarget targeted isPlaced).symm

/-! ## The two paths -/

theorem pathsAgree (placed : RulesPlaced db) : PathsAgree py db surveyId answers := by
  constructor
  · exact visibleTargets_congr (rulesFor_sections placed)
  · intro current member
    rw [prefetchedFields_eq member]
    exact visibleTargets_congr (rulesFor_fields placed member)
  · rfl

theorem pathsAgreeUnordered (placed : RulesPlaced db) : PathsAgreeUnordered py db surveyId answers := by
  constructor
  · intro rules rules' same same' visible visible' returned returned'
    refine visibleTargets_unique (fun id member => ?_) returned returned'
    have between := rulesFor_sections placed id member
    exact (same.filter _).trans ((List.Perm.of_eq between).trans (same'.filter _).symm)
  · intro current inSurvey rules rules' same same' visible visible' returned returned'
    rw [prefetchedFields_eq inSurvey] at returned
    refine visibleTargets_unique (fun id member => ?_) returned returned'
    have between := rulesFor_fields placed inSurvey id member
    exact (same.filter _).trans ((List.Perm.of_eq between).trans (same'.filter _).symm)
  · intro dependencies dependencies' same same'
    have between : dependencies.Perm dependencies' := same.trans same'.symm
    constructor
    · constructor
      · intro returns
        obtain ⟨_, resolved⟩ := returns
        exact resolveDependencies_returns fun dep member =>
          resolveDependencies_evaluated resolved dep (between.mem_iff.mpr member)
      · intro returns
        obtain ⟨_, resolved⟩ := returns
        exact resolveDependencies_returns fun dep member =>
          resolveDependencies_evaluated resolved dep (between.mem_iff.mp member)
    · intro modifications modifications' resolved resolved' fieldId
      exact resolveDependencies_perm between resolved resolved' fieldId

variable (py surveyId answers) in
/-- With the lists of `prefetch_survey_structure` the three functions return what they return without. -/
theorem prefetchedPath_eq_plainPath (placed : RulesPlaced db) :
    PathsAgree py db surveyId answers ∧ PathsAgreeUnordered py db surveyId answers :=
  ⟨pathsAgree placed, pathsAgreeUnordered placed⟩

end Paths

theorem draftDatabase_rulesPlaced : RulesPlaced draftDatabase := by
  have rows : draftDatabase.conditionalRules.rows = [⟨1, 1, none, some 2, 1, .equals, .str "a"⟩] := rfl
  constructor
  · intro rule member target targeted
    rw [rows, List.mem_singleton] at member
    subst member
    cases targeted
  · intro rule member target targeted stored
    rw [rows, List.mem_singleton] at member
    subst member
    rw [← Option.some.inj targeted] at stored
    cases stored
    rfl

/-- Two dropdowns in two sections, with a rule and a dependency. -/
theorem prefetchedPath_eq_plainPath_draft :
    PathsAgree bareInterpreter draftDatabase 1 (Dict.empty.set "1" (.str "a")) ∧
      PathsAgreeUnordered bareInterpreter draftDatabase 1 (Dict.empty.set "1" (.str "a")) :=
  prefetchedPath_eq_plainPath bareInterpreter 1 (Dict.empty.set "1" (.str "a")) draftDatabase_rulesPlaced

end SurveyPlatform.Verified

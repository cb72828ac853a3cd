import SurveyPlatform.Surveys.Conditions
import SurveyPlatform.Surveys.Retrieval

/-! # Visibility with and without prefetched lists

`get_visible_sections`, `get_visible_fields` and `resolve_dependencies` of
`apps/surveys/services.py` with their keyword arguments: a list that is not
given is queried.  A query without an order returns the rows of the table in
primary-key order here.
-/

namespace SurveyPlatform.Surveys

open SurveyPlatform.Library SurveyPlatform.Python

variable (py : Interpreter) (db : Database)

/-- `survey.sections.all()`, by the ordering of the model. -/
def allSections (surveyId : Nat) : List Section := ordered Section.order (db.sectionsOf surveyId)

/-- `section.fields.all()`, by the ordering of the model. -/
def allFields (sectionId : Nat) : List Field := ordered Field.order (db.fieldsOf sectionId)

/-- `ConditionalRule.objects.filter(target__in=...)` -/
def rulesTargeting (target : ConditionalRule → Option Nat) (ids : List Nat) : List ConditionalRule :=
  db.conditionalRules.rows.filter fun rule => (target rule).any (· ∈ ids)

def getVisibleSectionsOf (surveyId : Nat) (answers : Dict String Json) (sections : Option (List Section))
    (sectionRules : Option (List ConditionalRule)) : Except PyExn (List Nat) :=
  let sections := sections.getD (allSections db surveyId)
  let sectionRules := sectionRules.getD (rulesTargeting db (·.targetSectionId) (sections.map (·.id)))
  getVisibleSections py answers sections sectionRules

def getVisibleFieldsOf (sectionId : Nat) (answers : Dict String Json) (fields : Option (List Field))
    (fieldRules : Option (List ConditionalRule)) : Except PyExn (List Nat) :=
  let fields := fields.getD (allFields db sectionId)
  let fieldRules := fieldRules.getD (rulesTargeting db (·.targetFieldId) (fields.map (·.id)))
  getVisibleFields py answers fields fieldRules

/-- `FieldDependency.objects.filter(survey=survey)` -/
def dependenciesOf (surveyId : Nat) : List FieldDependency :=
  db.fieldDependencies.rows.filter (·.surveyId = surveyId)

def resolveDependenciesOf (surveyId : Nat) (answers : Dict String Json)
    (dependencies : Option (List FieldDependency)) : Except PyExn (Dict Nat (List Modification)) :=
  resolveDependencies py answers (dependencies.getD (dependenciesOf db surveyId))

/-! ## Lists that make no difference -/

variable {py} {answers : Dict String Json} {target : ConditionalRule → Option Nat}
  {rules rules' : List ConditionalRule}

/-- Only the rules of the ids scanned matter. -/
theorem visibleTargets_congr {ids : List Nat}
    (same : ∀ id ∈ ids, rulesFor target rules id = rulesFor target rules' id) :
    visibleTargets py answers target rules ids = visibleTargets py answers target rules' ids := by
  induction ids with
  | nil => rfl
  | cons id rest inductionHypothesis =>
    rw [List.forall_mem_cons] at same
    rw [visibleTargets_cons, visibleTargets_cons, same.1, inductionHypothesis same.2]

/-- Scans that return agree when each id has the same rules, in whatever order. -/
theorem visibleTargets_unique {ids visible visible' : List Nat}
    (same : ∀ id ∈ ids, (rulesFor target rules id).Perm (rulesFor target rules' id))
    (returned : visibleTargets py answers target rules ids = .ok visible)
    (returned' : visibleTargets py answers target rules' ids = .ok visible') : visible = visible' := by
  induction ids generalizing visible visible' with
  | nil => cases returned; cases returned'; rfl
  | cons id rest inductionHypothesis =>
    rw [List.forall_mem_cons] at same
    simp only [visibleTargets_cons, bind_eq_ok, pure, Except.pure, Except.ok.injEq] at returned returned'
    obtain ⟨shown, tested, others, scanned, rfl⟩ := returned
    obtain ⟨shown', tested', others', scanned', rfl⟩ := returned'
    have sameShown : shown = shown' := by
      rw [Bool.eq_iff_iff, showsTarget_ok_iff tested, showsTarget_ok_iff tested']
      simp only [Shown, same.1.mem_iff, ← List.length_eq_zero_iff, same.1.length_eq]
    rw [sameShown, inductionHypothesis same.2 scanned scanned']

/-! ## Modifications -/

/-- Every list of the dict has a member. -/
theorem resolveDependencies_ne_nil {dependencies : List FieldDependency}
    {modifications : Dict Nat (List Modification)}
    (resolved : resolveDependencies py answers dependencies = .ok modifications) (fieldId : Nat) :
    modifications.get? fieldId ≠ some [] := by
  -- a list starts with its first entry and only grows
  have general : ∀ start : Dict Nat (List Modification), start.get? fieldId ≠ some [] →
      dependencies.foldlM (applyDependency py answers) start = .ok modifications →
      modifications.get? fieldId ≠ some [] := by
    clear resolved
    induction dependencies with
    | nil =>
      intro start nonempty result
      cases result
      exact nonempty
    | cons dep rest inductionHypothesis =>
      intro start nonempty result
      rw [List.foldlM_cons, bind_eq_ok] at result
      obtain ⟨next, applied, restResult⟩ := result
      refine inductionHypothesis next ?_ restResult
      simp only [applyDependency, bind_eq_ok] at applied
      obtain ⟨active, _, applied⟩ := applied
      cases active with
      | false => cases applied; exact nonempty
      | true =>
        cases applied
        by_cases same : fieldId = dep.dependentFieldId
        · simp [Dict.push, same]
        · simpa [Dict.push, same] using nonempty
  exact general Dict.empty (by simp) resolved

/-- Dependencies in another order give each field the same modifications, in another order. -/
theorem resolveDependencies_perm {dependencies dependencies' : List FieldDependency}
    (same : dependencies.Perm dependencies') {modifications modifications' : Dict Nat (List Modification)}
    (resolved : resolveDependencies py answers dependencies = .ok modifications)
    (resolved' : resolveDependencies py answers dependencies' = .ok modifications') (fieldId : Nat) :
    Option.Rel List.Perm (modifications.get? fieldId) (modifications'.get? fieldId) := by
  have active : (activeModifications py answers dependencies fieldId).Perm
      (activeModifications py answers dependencies' fieldId) := (same.filter _).map _
  rw [← resolveDependencies_ok resolved, ← resolveDependencies_ok resolved'] at active
  have nonempty := resolveDependencies_ne_nil resolved fieldId
  have nonempty' := resolveDependencies_ne_nil resolved' fieldId
  cases found : modifications.get? fieldId with
  | none =>
    cases found' : modifications'.get? fieldId with
    | none => exact Option.Rel.none
    | some listed' =>
      simp only [found, found', Option.getD_none, Option.getD_some, List.nil_perm] at active
      exact absurd (active ▸ found') nonempty'
  | some listed =>
    cases found' : modifications'.get? fieldId with
    | none =>
      simp only [found, found', Option.getD_none, Option.getD_some, List.perm_nil] at active
      exact absurd (active ▸ found) nonempty
    | some listed' =>
      simp only [found, found', Option.getD_some] at active
      exact Option.Rel.some active

end SurveyPlatform.Surveys

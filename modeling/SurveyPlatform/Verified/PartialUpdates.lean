import SurveyPlatform.Verified.CycleDetection
import SurveyPlatform.Verified.EditEffects
import SurveyPlatform.Verified.RuleUpdates

/-! # Partial updates of rules and dependencies

A PATCH is validated, and searched for cycles, on the submitted keys alone.  So
a body that would leave a valid row is stored exactly when it repeats the keys
these checks insist on, and the search meets no older cycle
(`partialUpdates_complete_iff`).
-/

namespace SurveyPlatform.Verified

open SurveyPlatform.Library SurveyPlatform.Library.Cycles SurveyPlatform.Library.Program SurveyPlatform.Python
  SurveyPlatform.Surveys
open Relation (ReflTransGen TransGen)

/-! ## Patches that leave a valid row -/

/-- The edges of the other rules of the survey. -/
def OtherRules (db : Database) (rule : ConditionalRule) : Nat → Nat → Prop := RuleEdge db rule.surveyId (some rule.id)

def OtherDependencies (db : Database) (dep : FieldDependency) : Nat → Nat → Prop :=
  DependencyEdge db dep.surveyId (some dep.id)

def RuleClosesCycle (db : Database) (rule : ConditionalRule) : Prop :=
  ∃ target, rule.targetFieldId = some target ∧ ReflTransGen (OtherRules db rule) rule.dependsOnFieldId target

def DependencyClosesCycle (db : Database) (dep : FieldDependency) : Prop :=
  ReflTransGen (OtherDependencies db dep) dep.dependsOnFieldId dep.dependentFieldId

/-- A body whose columns over the stored row make a valid row without a new cycle. -/
structure RulePatch (py : Interpreter) (db : Database) (current : ConditionalRule) (body : ConditionalRuleBody)
    (data : ConditionalRuleData) : Prop where
  stored : db.conditionalRules.get current.id = some current
  draft : IsDraft db current.surveyId
  valid : RuleValid py db current
  submitted : conditionalRuleFields db true body = .ok data
  fits : RuleValid py db (data.assign current)
  noCycle : ¬ RuleClosesCycle db (data.assign current)

structure DependencyPatch (py : Interpreter) (db : Database) (current : FieldDependency) (body : FieldDependencyBody)
    (data : FieldDependencyData) : Prop where
  stored : db.fieldDependencies.get current.id = some current
  draft : IsDraft db current.surveyId
  valid : DependencyValid py db current
  submitted : fieldDependencyFields db true body = .ok data
  fits : DependencyValid py db (data.assign current)
  noCycle : ¬ DependencyClosesCycle db (data.assign current)

/-- The request succeeds and stores the overwritten row. -/
def RuleOverwritten (py : Interpreter) (order : SetOrder) (user : User) (w : World) (current : ConditionalRule)
    (body : ConditionalRuleBody) (data : ConditionalRuleData) : Prop :=
  ∃ w', conditionalRuleUpdate py order user current.surveyId current.id true body w = .ok (data.assign current) w' ∧
    w'.db = { w.db with conditionalRules := w.db.conditionalRules.save (data.assign current) }

def DependencyOverwritten (py : Interpreter) (order : SetOrder) (user : User) (w : World) (current : FieldDependency)
    (body : FieldDependencyBody) (data : FieldDependencyData) : Prop :=
  ∃ w', fieldDependencyUpdate py order user current.surveyId current.id true body w = .ok (data.assign current) w' ∧
    w'.db = { w.db with fieldDependencies := w.db.fieldDependencies.save (data.assign current) }

/-! ## What the checks insist on -/

/-- No cycle among the stored edges can be reached from either field. -/
def AcyclicFrom (stored : Nat → Nat → Prop) (target source : Nat) : Prop :=
  ∀ c, ReflTransGen stored target c ∨ ReflTransGen stored source c → ¬ TransGen stored c c

/-- A target is submitted, and a target field together with `depends_on_field`. -/
def RepeatsRuleKeys (db : Database) (current : ConditionalRule) (data : ConditionalRuleData) : Prop :=
  data.targetSection.join ≠ none ∨ ∃ target dependsOn, data.targetField.join = some target ∧
    data.dependsOnField = some dependsOn ∧ AcyclicFrom (OtherRules db current) target.id dependsOn.id

/-- Both fields are submitted. -/
def RepeatsDependencyKeys (db : Database) (current : FieldDependency) (data : FieldDependencyData) : Prop :=
  ∃ dependent dependsOn, data.dependentField = some dependent ∧ data.dependsOnField = some dependsOn ∧
    AcyclicFrom (OtherDependencies db current) dependent.id dependsOn.id

/-- The search for an edge that closes no cycle. -/
theorem search_passes_iff {order : SetOrder} {edges : List (Nat × Nat)} {stored : Nat → Nat → Prop} {target source : Nat}
    {message : String} (isEdge : HasEdge edges = stored) (noCycle : ¬ ReflTransGen stored source target) :
    rejectIf (cycleFrom order ((target, source) :: edges) target) message = .ok () ↔ AcyclicFrom stored target source := by
  rw [rejectIf_eq_ok, cycleFrom_iff, hasEdge_cons, isEdge, cycle_withEdge_iff, or_iff_right noCycle]
  exact not_exists.trans (forall_congr' fun c => not_and)

section Patches

variable {py : Interpreter} {order : SetOrder} {user : User} {w w' : World}

/-! ## Conditional rules -/

/-- The request succeeds when the two checks of the submitted keys pass. -/
theorem conditionalRuleUpdate_patch_iff {current : ConditionalRule} {body : ConditionalRuleBody}
    {data : ConditionalRuleData} (admin : user.role = .admin) (patch : RulePatch py w.db current body data) :
    RuleOverwritten py order user w current body data ↔
      validateConditionalRuleData py data (some current.surveyId) = .ok () ∧
        detectCircularDependenciesCr order w.db data.dependsOnField data.targetField.join (some current.id) = .ok () := by
  obtain ⟨stored, ⟨survey, isSurvey, draft⟩, _, submitted, ⟨full, isFull, _⟩, _⟩ := patch
  have found : getConditionalRule current.surveyId current.id w.db = some current := by
    simp [getConditionalRule, stored]
  have constraints : w.db.conditionalRuleConstraints (data.assign current) = .ok () :=
    (ruleConstraints_iff isFull current.id).mpr (by rw [show (data.assign current).surveyId = current.surveyId from rfl,
      isSurvey, Option.isSome_some])
  simp only [RuleOverwritten, conditionalRuleUpdate, requireAdmin_bind_of_admin admin, getOr404_bind_of_some found,
    query_bind_eq_ok_iff, validateConditionalRule, submitted, bind_eq_ok, translated_eq_ok, pure_eq_ok, Except.ok.injEq,
    exists_eq_left', conditionalRulePerformUpdate, getOr404_bind_eq_ok_iff, isSurvey, Option.some.injEq, checkCircularCr,
    updateConditionalRule_eq_ok_iff stored]
  constructor
  · intro holds
    obtain ⟨_, ⟨_, ⟨_, validated, rfl⟩, _, _, _, searched, _⟩, _⟩ := holds
    exact ⟨validated, searched⟩
  · intro holds
    obtain ⟨validated, searched⟩ := holds
    exact ⟨_, ⟨data, ⟨(), validated, rfl⟩, (), ensureDraftSurvey_eq_ok.mpr draft, (), searched, fun _ => constraints, rfl, rfl⟩, rfl⟩

/-- What is submitted is in the overwritten row, so only a target can be missed. -/
theorem accepted_of_overRule {data full : ConditionalRuleData} {surveyPk : Nat}
    (accepted : RuleAccepted py (overRule data full) surveyPk)
    (someTarget : ¬ (data.targetSection.join = none ∧ data.targetField.join = none)) : RuleAccepted py data surveyPk := by
  have isSection : ∀ target, data.targetSection.join = some target → (overRule data full).targetSection.join = some target := by
    intro target submitted
    rw [overRule, Option.join_eq_some_iff.mp submitted, Option.some_or, Option.join_some]
  have isField : ∀ target, data.targetField.join = some target → (overRule data full).targetField.join = some target := by
    intro target submitted
    rw [overRule, Option.join_eq_some_iff.mp submitted, Option.some_or, Option.join_some]
  have isSource : ∀ field, data.dependsOnField = some field → (overRule data full).dependsOnField = some field := by
    intro field submitted
    rw [overRule, submitted, Option.some_or]
  refine ⟨someTarget, fun both => ?_, ?_, ?_, ?_, ?_, ?_, ?_, ?_⟩
  · obtain ⟨target, submitted⟩ := Option.isSome_iff_exists.mp both.1
    obtain ⟨target', submitted'⟩ := Option.isSome_iff_exists.mp both.2
    exact accepted.oneTarget ⟨by rw [isSection target submitted]; rfl, by rw [isField target' submitted']; rfl⟩
  · exact fun field submitted => accepted.dependsOnSurvey field (isSource field submitted)
  · exact fun field submitted target isTarget =>
      accepted.sectionSurvey field (isSource field submitted) target (isSection target isTarget)
  · exact fun field submitted target isTarget =>
      accepted.fieldSurvey field (isSource field submitted) target (isField target isTarget)
  · exact fun target isTarget field submitted =>
      accepted.notSelf target (isField target isTarget) field (isSource field submitted)
  · exact fun field submitted target isTarget =>
      accepted.afterSection field (isSource field submitted) target (isSection target isTarget)
  · exact fun field submitted target isTarget =>
      accepted.afterField field (isSource field submitted) target (isField target isTarget)
  · intro field submitted operator isOperator value isValue
    refine accepted.value field (isSource field submitted) operator ?_ value ?_
    · rw [overRule, isOperator, Option.some_or]
    · cases given : data.value with
      | none =>
        rw [given] at isValue
        cases isValue
      | some json => rwa [overRule, given, Option.some_or, ← given]

/-- A target field over its source, as the search sees it. -/
theorem detectCircularDependenciesCr_patch_iff {db : Database} {current : ConditionalRule} {data : ConditionalRuleData}
    {target dependsOn : PlacedField} (isTarget : data.targetField.join = some target)
    (isSource : data.dependsOnField = some dependsOn) (inSurvey : dependsOn.surveyId = current.surveyId)
    (noCycle : ¬ RuleClosesCycle db (data.assign current)) :
    detectCircularDependenciesCr order db data.dependsOnField data.targetField.join (some current.id) = .ok () ↔
      AcyclicFrom (OtherRules db current) target.id dependsOn.id := by
  have newTarget : (data.assign current).targetFieldId = some target.id := by
    rw [ConditionalRuleData.assign, Option.join_eq_some_iff.mp isTarget]
    rfl
  have newSource : (data.assign current).dependsOnFieldId = dependsOn.id := by
    rw [ConditionalRuleData.assign, isSource]
    rfl
  rw [isTarget, isSource, detectCircularDependenciesCr, inSurvey]
  refine search_passes_iff hasEdge_conditionalRuleEdges fun back => noCycle ⟨target.id, newTarget, ?_⟩
  rw [newSource]
  exact back

theorem conditionalRulePatch_complete_iff {current : ConditionalRule} {body : ConditionalRuleBody}
    {data : ConditionalRuleData} (admin : user.role = .admin) (patch : RulePatch py w.db current body data) :
    RuleOverwritten py order user w current body data ↔ RepeatsRuleKeys w.db current data := by
  rw [conditionalRuleUpdate_patch_iff admin patch, validateConditionalRuleData_eq_ok]
  obtain ⟨full, isFull, _⟩ := patch.valid
  obtain ⟨merged, isMerged, fits⟩ := patch.fits
  rw [fullRule_assign (conditionalRuleFields_resolved patch.submitted) isFull, Option.some.injEq] at isMerged
  rw [← isMerged, validateConditionalRuleData_eq_ok] at fits
  have acceptedIf : ¬ (data.targetSection.join = none ∧ data.targetField.join = none) →
      RuleAccepted py data current.surveyId := accepted_of_overRule fits
  constructor
  · intro holds
    obtain ⟨accepted, searched⟩ := holds
    cases isField : data.targetField.join with
    | none => exact Or.inl fun noSection => accepted.someTarget ⟨noSection, isField⟩
    | some target =>
      have given := detectCircularDependenciesCr_checkable searched (by rw [isField]; exact Option.some_ne_none target)
      obtain ⟨dependsOn, isSource⟩ := Option.ne_none_iff_exists'.mp given
      have inSurvey := accepted.dependsOnSurvey dependsOn isSource
      exact Or.inr ⟨target, dependsOn, isField, isSource,
        (detectCircularDependenciesCr_patch_iff isField isSource inSurvey patch.noCycle).mp searched⟩
  · rintro (isSection | ⟨target, dependsOn, isField, isSource, acyclic⟩)
    · have accepted := acceptedIf fun neither => isSection neither.1
      refine ⟨accepted, ?_⟩
      have noField : data.targetField.join = none := by
        by_contra isField
        exact accepted.oneTarget ⟨Option.isSome_iff_ne_none.mpr isSection, Option.isSome_iff_ne_none.mpr isField⟩
      rw [noField]
      rfl
    · have accepted := acceptedIf fun neither => (by rw [isField] at neither; cases neither.2)
      exact ⟨accepted, (detectCircularDependenciesCr_patch_iff isField isSource
        (accepted.dependsOnSurvey dependsOn isSource) patch.noCycle).mpr acyclic⟩

/-! ## Field dependencies -/

theorem fieldDependencyUpdate_patch_iff {current : FieldDependency} {body : FieldDependencyBody}
    {data : FieldDependencyData} (admin : user.role = .admin) (patch : DependencyPatch py w.db current body data) :
    DependencyOverwritten py order user w current body data ↔
      validateFieldDependencyData py w.db.conditionalRules.rows data (some current.surveyId) = .ok () ∧
        detectCircularDependenciesFd order w.db data.dependsOnField data.dependentField (some current.id) = .ok () := by
  obtain ⟨stored, ⟨survey, isSurvey, draft⟩, _, submitted, ⟨full, isFull, _⟩, _⟩ := patch
  have found : getFieldDependency current.surveyId current.id w.db = some current := by
    simp [getFieldDependency, stored]
  have constraints : w.db.fieldDependencyConstraints (data.assign current) = .ok () :=
    (dependencyConstraints_iff isFull).mpr (by rw [show (data.assign current).surveyId = current.surveyId from rfl,
      isSurvey, Option.isSome_some])
  simp only [DependencyOverwritten, fieldDependencyUpdate, requireAdmin_bind_of_admin admin, getOr404_bind_of_some found,
    query_bind_eq_ok_iff, validateFieldDependency, submitted, bind_eq_ok, translated_eq_ok, pure_eq_ok, Except.ok.injEq,
    exists_eq_left', fieldDependencyPerformUpdate, getOr404_bind_eq_ok_iff, isSurvey, Option.some.injEq, checkCircularFd,
    updateFieldDependency_eq_ok_iff stored]
  constructor
  · intro holds
    obtain ⟨_, ⟨_, ⟨_, validated, rfl⟩, _, _, _, searched, _⟩, _⟩ := holds
    exact ⟨validated, searched⟩
  · intro holds
    obtain ⟨validated, searched⟩ := holds
    exact ⟨_, ⟨data, ⟨(), validated, rfl⟩, (), ensureDraftSurvey_eq_ok.mpr draft, (), searched, fun _ => constraints, rfl, rfl⟩, rfl⟩

theorem accepted_of_overDependency {data full : FieldDependencyData} {rules : List ConditionalRule} {surveyPk : Nat}
    (accepted : DependencyAccepted py rules (overDependency data full) surveyPk) :
    DependencyAccepted py rules data surveyPk := by
  have isDependent : ∀ field, data.dependentField = some field → (overDependency data full).dependentField = some field := by
    intro field submitted
    rw [overDependency, submitted, Option.some_or]
  have isSource : ∀ field, data.dependsOnField = some field → (overDependency data full).dependsOnField = some field := by
    intro field submitted
    rw [overDependency, submitted, Option.some_or]
  have isAction : ∀ action, data.action = some action → (overDependency data full).action = some action := by
    intro action submitted
    rw [overDependency, submitted, Option.some_or]
  have isActionValue : ∀ value, present data.actionValue = some value →
      present (overDependency data full).actionValue = some value := by
    intro value isValue
    cases given : data.actionValue with
    | none =>
      rw [given] at isValue
      cases isValue
    | some json => rwa [overDependency, given, Option.some_or, ← given]
  refine ⟨?_, ?_, ?_, ?_, ?_, ?_, ?_⟩
  · exact fun field submitted => accepted.dependsOnSurvey field (isSource field submitted)
  · exact fun field submitted => accepted.dependentSurvey field (isDependent field submitted)
  · exact fun field submitted other submitted' =>
      accepted.notSelf field (isDependent field submitted) other (isSource other submitted')
  · exact fun field submitted other submitted' =>
      accepted.after field (isDependent field submitted) other (isSource other submitted')
  · intro field submitted operator isOperator value isValue
    refine accepted.value field (isSource field submitted) operator ?_ value ?_
    · rw [overDependency, isOperator, Option.some_or]
    · cases given : data.value with
      | none =>
        rw [given] at isValue
        cases isValue
      | some json => rwa [overDependency, given, Option.some_or, ← given]
  · exact fun field submitted action submitted' value isValue =>
      accepted.action field (isDependent field submitted) action (isAction action submitted') value (isActionValue value isValue)
  · exact fun field submitted action submitted' value isValue =>
      accepted.noConflict field (isDependent field submitted) action (isAction action submitted') value (isActionValue value isValue)

theorem detectCircularDependenciesFd_patch_iff {db : Database} {current : FieldDependency} {data : FieldDependencyData}
    {dependent dependsOn : PlacedField} (isDependent : data.dependentField = some dependent)
    (isSource : data.dependsOnField = some dependsOn) (inSurvey : dependsOn.surveyId = current.surveyId)
    (noCycle : ¬ DependencyClosesCycle db (data.assign current)) :
    detectCircularDependenciesFd order db data.dependsOnField data.dependentField (some current.id) = .ok () ↔
      AcyclicFrom (OtherDependencies db current) dependent.id dependsOn.id := by
  have newEnds : (data.assign current).dependentFieldId = dependent.id ∧
      (data.assign current).dependsOnFieldId = dependsOn.id := by
    rw [FieldDependencyData.assign, isDependent, isSource]
    exact ⟨rfl, rfl⟩
  rw [isDependent, isSource, detectCircularDependenciesFd, inSurvey]
  refine search_passes_iff hasEdge_fieldDependencyEdges fun back => noCycle ?_
  rw [DependencyClosesCycle, newEnds.1, newEnds.2]
  exact back

theorem fieldDependencyPatch_complete_iff {current : FieldDependency} {body : FieldDependencyBody}
    {data : FieldDependencyData} (admin : user.role = .admin) (patch : DependencyPatch py w.db current body data) :
    DependencyOverwritten py order user w current body data ↔ RepeatsDependencyKeys w.db current data := by
  rw [fieldDependencyUpdate_patch_iff admin patch, validateFieldDependencyData_eq_ok]
  obtain ⟨full, isFull, _⟩ := patch.valid
  obtain ⟨merged, isMerged, fits⟩ := patch.fits
  rw [fullDependency_assign (fieldDependencyFields_resolved patch.submitted) isFull, Option.some.injEq] at isMerged
  rw [← isMerged, validateFieldDependencyData_eq_ok] at fits
  have accepted : DependencyAccepted py w.db.conditionalRules.rows data current.surveyId := accepted_of_overDependency fits
  rw [and_iff_right accepted]
  constructor
  · intro searched
    obtain ⟨hasSource, hasDependent⟩ := detectCircularDependenciesFd_checkable searched
    obtain ⟨dependsOn, isSource⟩ := Option.ne_none_iff_exists'.mp hasSource
    obtain ⟨dependent, isDependent⟩ := Option.ne_none_iff_exists'.mp hasDependent
    have inSurvey := accepted.dependsOnSurvey dependsOn isSource
    exact ⟨dependent, dependsOn, isDependent, isSource,
      (detectCircularDependenciesFd_patch_iff isDependent isSource inSurvey patch.noCycle).mp searched⟩
  · intro repeats
    obtain ⟨dependent, dependsOn, isDependent, isSource, acyclic⟩ := repeats
    have inSurvey := accepted.dependsOnSurvey dependsOn isSource
    exact (detectCircularDependenciesFd_patch_iff isDependent isSource inSurvey patch.noCycle).mpr acyclic

/-! ## Both endpoints -/

/-- A PATCH that would leave a valid row stores it exactly when it repeats these keys. -/
theorem partialUpdates_complete_iff (py : Interpreter) (order : SetOrder) (w : World) (admin : user.role = .admin) :
    (∀ current body data, RulePatch py w.db current body data →
      (RuleOverwritten py order user w current body data ↔ RepeatsRuleKeys w.db current data)) ∧
    ∀ current body data, DependencyPatch py w.db current body data →
      (DependencyOverwritten py order user w current body data ↔ RepeatsDependencyKeys w.db current data) :=
  ⟨fun _ _ _ patch => conditionalRulePatch_complete_iff admin patch,
    fun _ _ _ patch => fieldDependencyPatch_complete_iff admin patch⟩

end Patches

/-! ## Patches of the small draft -/

def shownBrand : ConditionalRule := ⟨1, 1, none, some 2, 1, .equals, .str "a"⟩

def hiddenBrand : FieldDependency := ⟨1, 1, 2, 1, .equals, .str "b", .hideOptions, .list [.str "c"]⟩

/-- The draft has no other rule. -/
theorem otherRules_draftDatabase (a b : Nat) : ¬ OtherRules draftDatabase shownBrand a b := by
  rintro ⟨rule, stored, _, other, _⟩
  cases List.mem_singleton.mp (show rule ∈ [_] from Table.mem_rows.mpr stored)
  exact other rfl

theorem otherDependencies_draftDatabase (a b : Nat) : ¬ OtherDependencies draftDatabase hiddenBrand a b := by
  rintro ⟨dep, stored, _, other, _⟩
  cases List.mem_singleton.mp (show dep ∈ [_] from Table.mem_rows.mpr stored)
  exact other rfl

theorem reaches_of_noEdges {edge : Nat → Nat → Prop} (none : ∀ a b, ¬ edge a b) {a b : Nat} (reaches : ReflTransGen edge a b) :
    a = b := by
  cases reaches with
  | refl => rfl
  | tail _ last => exact absurd last (none _ _)

theorem acyclicFrom_of_noEdges {edge : Nat → Nat → Prop} (none : ∀ a b, ¬ edge a b) (target source : Nat) :
    AcyclicFrom edge target source := by
  intro c _ loop
  cases loop with
  | single edge => exact none _ _ edge
  | tail _ last => exact none _ _ last

theorem rulePatch_draft (body : ConditionalRuleBody) (data : ConditionalRuleData)
    (submitted : conditionalRuleFields draftDatabase true body = .ok data)
    (sameFields : (data.assign shownBrand).targetFieldId = some 2 ∧ (data.assign shownBrand).dependsOnFieldId = 1)
    (fits : RuleValid bareInterpreter draftDatabase (data.assign shownBrand)) :
    RulePatch bareInterpreter draftDatabase shownBrand body data := by
  refine ⟨rfl, ⟨_, rfl, rfl⟩, ⟨_, rfl, rfl⟩, submitted, fits, ?_⟩
  rintro ⟨target, isTarget, back⟩
  rw [sameFields.1] at isTarget
  rw [sameFields.2] at back
  cases isTarget
  cases reaches_of_noEdges otherRules_draftDatabase back

theorem dependencyPatch_draft (body : FieldDependencyBody) (data : FieldDependencyData)
    (submitted : fieldDependencyFields draftDatabase true body = .ok data)
    (sameFields : (data.assign hiddenBrand).dependentFieldId = 2 ∧ (data.assign hiddenBrand).dependsOnFieldId = 1)
    (fits : DependencyValid bareInterpreter draftDatabase (data.assign hiddenBrand)) :
    DependencyPatch bareInterpreter draftDatabase hiddenBrand body data := by
  refine ⟨rfl, ⟨_, rfl, rfl⟩, ⟨_, rfl, rfl⟩, submitted, fits, ?_⟩
  intro back
  rw [DependencyClosesCycle, sameFields.1, sameFields.2] at back
  cases reaches_of_noEdges otherDependencies_draftDatabase back

/-- Both fields are repeated, and a value changes. -/
theorem partialUpdates_complete_repeated :
    (∃ data, RuleOverwritten bareInterpreter .ascending administrator draftWorld shownBrand newValueBody data) ∧
      ∃ data, DependencyOverwritten bareInterpreter .ascending administrator draftWorld hiddenBrand hideOtherBody data := by
  have complete := @partialUpdates_complete_iff administrator bareInterpreter .ascending draftWorld rfl
  constructor
  · refine ⟨_, (complete.1 shownBrand newValueBody _ (rulePatch_draft _ _ rfl ⟨rfl, rfl⟩ ⟨_, rfl, rfl⟩)).mpr ?_⟩
    exact Or.inr ⟨_, _, rfl, rfl, acyclicFrom_of_noEdges otherRules_draftDatabase _ _⟩
  · refine ⟨_, (complete.2 hiddenBrand hideOtherBody _ (dependencyPatch_draft _ _ rfl ⟨rfl, rfl⟩ ⟨_, rfl, rfl⟩)).mpr ?_⟩
    exact ⟨_, _, rfl, rfl, acyclicFrom_of_noEdges otherDependencies_draftDatabase _ _⟩

/-- `PATCH {"target_field": 2}`, the target the rule has. -/
def sameTargetBody : ConditionalRuleBody := ⟨.missing, .given (some 2), .missing, .missing, .missing⟩

/-- `PATCH {"action_value": ["d"]}` -/
def hideOtherOnlyBody : FieldDependencyBody :=
  ⟨.missing, .missing, .missing, .missing, .missing, .given (.list [.str "d"])⟩

/-- Without the other field the search asks `None` for its section. -/
theorem partialUpdates_raise_attributeError :
    (∃ data, RulePatch bareInterpreter draftDatabase shownBrand sameTargetBody data ∧
      conditionalRuleUpdate bareInterpreter .ascending administrator 1 1 true sameTargetBody draftWorld =
        .error .attributeError draftWorld) ∧
    ∃ data, DependencyPatch bareInterpreter draftDatabase hiddenBrand hideOtherOnlyBody data ∧
      fieldDependencyUpdate bareInterpreter .ascending administrator 1 1 true hideOtherOnlyBody draftWorld =
        .error .attributeError draftWorld :=
  ⟨⟨_, rulePatch_draft _ _ rfl ⟨rfl, rfl⟩ ⟨_, rfl, rfl⟩, rfl⟩,
    _, dependencyPatch_draft _ _ rfl ⟨rfl, rfl⟩ ⟨_, rfl, rfl⟩, rfl⟩

end SurveyPlatform.Verified

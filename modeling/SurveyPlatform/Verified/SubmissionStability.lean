import SurveyPlatform.Surveys.Validators
import SurveyPlatform.Verified.SubmissionExactness

/-! # Validating the kept answers again

`validate_submission` decides visibility on the submitted answers and then drops
some of them.  Run again on what it kept, it returns the same exactly when no
kept field was shown by a dropped answer (`validateSubmission_cleaned_iff`);
`chain_not_stable` is a survey in definition order where one was.

The proof compares the two runs: a condition on a kept field has the same value
in both, one on a dropped field is false in the second (`evaluateCondition_cleaned`),
so the second run shows fewer fields and knows fewer option restrictions.
-/

namespace SurveyPlatform.Verified

open SurveyPlatform.Library SurveyPlatform.Python SurveyPlatform.Surveys SurveyPlatform.Responses

/-! ## The condition -/

section Stability

variable (py : Interpreter) (survey : SurveyStructure) (answers : Dict String Json)

instance (field : Field) : Decidable (Visible py survey answers field) :=
  inferInstanceAs (Decidable (_ ∧ _))

instance (field : Field) : Decidable (Answered py answers field) :=
  inferInstanceAs (Decidable (_ = _))

/-- The field with this id is visible and answered. -/
def Kept (fieldId : Nat) : Prop :=
  ∃ field ∈ survey.fields, field.id = fieldId ∧ Visible py survey answers field ∧ Answered py answers field

instance : DecidablePred (Kept py survey answers) := fun fieldId =>
  inferInstanceAs (Decidable (∃ field ∈ survey.fields, field.id = fieldId ∧
    Visible py survey answers field ∧ Answered py answers field))

/-- Whether a target with these rules is shown when only the rules that read a
kept field count. -/
def stillShows (rules : List ConditionalRule) : Except PyExn Bool :=
  if rules = [] then .ok true
  else anyTrue (fun rule => evaluateCondition py rule.condition answers)
    (rules.filter fun rule => Kept py survey answers rule.dependsOnFieldId)

def sectionStillShows (sectionId : Nat) : Except PyExn Bool :=
  stillShows py survey answers (rulesFor (·.targetSectionId) survey.sectionRules sectionId)

def fieldStillShows (fieldId : Nat) : Except PyExn Bool :=
  stillShows py survey answers (rulesFor (·.targetFieldId) survey.fieldRules fieldId)

/-- Rules that read kept fields can be evaluated, and they alone show every kept field. -/
structure Stable : Prop where
  sectionsReturn : ∀ current ∈ survey.sections, ∃ shown, sectionStillShows py survey answers current.id = .ok shown
  fieldsReturn : ∀ field ∈ survey.fields, sectionStillShows py survey answers field.sectionId = .ok true →
    ∃ shown, fieldStillShows py survey answers field.id = .ok shown
  keptShown : ∀ field ∈ survey.fields, Visible py survey answers field → Answered py answers field →
    sectionStillShows py survey answers field.sectionId = .ok true ∧
      fieldStillShows py survey answers field.id = .ok true

variable {py survey answers}

/-! ## The second run against the first -/

/-- What an accepted submission tells about its result. -/
structure Accepted (py : Interpreter) (survey : SurveyStructure) (answers cleaned : Dict String Json) : Prop where
  faultless : ∀ field ∈ survey.fields, Visible py survey answers field →
    fieldError? py survey answers field = .ok none
  cleaned : ∀ key value, cleaned.get? key = some value ↔ answers.get? key = some value ∧
    ∃ field ∈ survey.fields, Visible py survey answers field ∧ Answered py answers field ∧
      key = fieldIdStr field.id

theorem Checked.accepted {outcome : Outcome} (checked : Checked py survey answers outcome)
    (empty : outcome.errors.isEmpty = true) : Accepted py survey answers outcome.cleaned :=
  ⟨fun _ => checked.faultless empty, checked.cleaned_iff empty⟩

/-- The three ways a run of `validate_submission` can be accepted come down to one. -/
theorem validateSubmission_eq_ok {order : SetOrder} {cleaned : Dict String Json}
    (accepted : validateSubmission py order survey answers = .ok cleaned) :
    ∃ outcome, runChecks py order survey answers = .ok outcome ∧ outcome.errors.isEmpty = true ∧
      outcome.cleaned = cleaned := by
  unfold validateSubmission at accepted
  split at accepted
  · cases accepted
  · rename_i outcome ran
    split at accepted
    · rename_i empty
      cases accepted
      exact ⟨outcome, ran, empty, rfl⟩
    · cases accepted

section SecondRun

variable {cleaned : Dict String Json} (accepted : Accepted py survey answers cleaned)
include accepted

theorem get?_cleaned (fieldId : Nat) :
    cleaned.get? (fieldIdStr fieldId) =
      if Kept py survey answers fieldId then answers.get? (fieldIdStr fieldId) else none := by
  split
  · rename_i kept
    obtain ⟨field, member, rfl, visible, answered⟩ := kept
    cases found : answers.get? (fieldIdStr field.id) with
    | none => rw [Answered, found] at answered; cases answered
    | some value => exact (accepted.cleaned _ value).mpr ⟨found, field, member, visible, answered, rfl⟩
  · rename_i dropped
    cases found : cleaned.get? (fieldIdStr fieldId) with
    | none => rfl
    | some value =>
      obtain ⟨_, field, member, visible, answered, sameKey⟩ := (accepted.cleaned _ value).mp found
      exact absurd ⟨field, member, (fieldIdStr_injective sameKey).symm, visible, answered⟩ dropped

/-- A condition on a kept field keeps its value; one on a dropped field is false. -/
theorem evaluateCondition_cleaned (condition : Condition) :
    evaluateCondition py condition cleaned =
      if Kept py survey answers condition.dependsOnFieldId then evaluateCondition py condition answers
      else .ok false := by
  have found := get?_cleaned accepted condition.dependsOnFieldId
  split
  · rename_i kept
    rw [if_pos kept] at found
    exact evaluateCondition_congr py condition (by rw [answerTo, answerTo, found])
  · rename_i dropped
    rw [if_neg dropped] at found
    exact evaluateCondition_of_missing py condition (by rw [answerTo, found]; rfl)

theorem showsTarget_cleaned (rules : List ConditionalRule) :
    showsTarget py cleaned rules = stillShows py survey answers rules := by
  unfold showsTarget stillShows
  simp only [evaluateCondition_cleaned accepted]
  -- a rule that reads a dropped answer is false, as if it were not there
  rw [← anyTrue_filter fun rule : ConditionalRule => Kept py survey answers rule.dependsOnFieldId]
  rfl

theorem shown_of_stillShows {target : ConditionalRule → Option Nat} {rules : List ConditionalRule} {id : Nat}
    (result : stillShows py survey answers (rulesFor target rules id) = .ok true) :
    Shown py cleaned target rules id := by
  rw [← showsTarget_cleaned accepted] at result
  exact (showsTarget_ok_iff result).mp rfl

theorem stillShows_eq_true {target : ConditionalRule → Option Nat} {rules : List ConditionalRule} {id : Nat}
    {holds : Bool} (result : stillShows py survey answers (rulesFor target rules id) = .ok holds)
    (shown : Shown py cleaned target rules id) :
    stillShows py survey answers (rulesFor target rules id) = .ok true := by
  have again := result
  rw [← showsTarget_cleaned accepted] at again
  rw [result, (showsTarget_ok_iff again).mpr shown]

/-- What is shown on the kept answers was shown on all of them. -/
theorem shown_of_cleaned {target : ConditionalRule → Option Nat} {rules : List ConditionalRule} {id : Nat}
    (shown : Shown py cleaned target rules id) : Shown py answers target rules id := by
  cases shown with
  | inl none => exact Or.inl none
  | inr some =>
    obtain ⟨rule, member, isTrue⟩ := some
    rw [evaluateCondition_cleaned accepted] at isTrue
    split at isTrue
    · exact Or.inr ⟨rule, member, isTrue⟩
    · cases isTrue

theorem visible_of_cleaned {field : Field} (visible : Visible py survey cleaned field) :
    Visible py survey answers field :=
  ⟨shown_of_cleaned accepted visible.1, shown_of_cleaned accepted visible.2⟩

theorem activeModifications_cleaned (fieldId : Nat) :
    activeModifications py cleaned survey.dependencies fieldId ⊆
      activeModifications py answers survey.dependencies fieldId := by
  intro modification member
  simp only [activeModifications, List.mem_map, List.mem_filter, Bool.and_eq_true, decide_eq_true_eq,
    isActive_iff] at member ⊢
  obtain ⟨dep, ⟨inDependencies, sameField, active⟩, same⟩ := member
  rw [evaluateCondition_cleaned accepted] at active
  split at active
  · exact ⟨dep, ⟨inDependencies, sameField, active⟩, same⟩
  · cases active

/-- No field visible in the second run is faulty there. -/
theorem fieldError?_cleaned {field : Field} (member : field ∈ survey.fields)
    (visible : Visible py survey cleaned field) : fieldError? py survey cleaned field = .ok none := by
  have faultless := accepted.faultless field member (visible_of_cleaned accepted visible)
  unfold fieldError? at faultless ⊢
  rw [get?_cleaned accepted]
  by_cases kept : Kept py survey answers field.id
  · rw [if_pos kept]
    cases found : answers.get? (fieldIdStr field.id) with
    | none => rw [found] at faultless; exact faultless
    | some value =>
      simp only [found] at faultless ⊢
      split
      · rename_i blank
        rwa [if_pos blank] at faultless
      · rename_i notBlank
        rw [if_neg notBlank, valueError?_eq_none] at faultless
        obtain ⟨typed, ruled, allowed⟩ := faultless
        -- type and rules see the same value; fewer modifications are active
        exact valueError?_eq_none.mpr ⟨typed, ruled, fun modification active =>
          allowed modification (activeModifications_cleaned accepted field.id active)⟩
  · -- the field was visible, so its answer was dropped because it is blank
    have blank : isBlank py (answers.get? (fieldIdStr field.id)) = true := by
      by_contra answered
      rw [Bool.not_eq_true] at answered
      exact kept ⟨field, member, rfl, visible_of_cleaned accepted visible, answered⟩
    rw [if_neg kept]
    cases found : answers.get? (fieldIdStr field.id) with
    | none => rw [found] at faultless; exact faultless
    | some value =>
      rw [found] at blank
      simpa [found, blank] using faultless

/-- A second result equals the first when every kept field is visible again. -/
theorem same_cleaned_iff {cleaned' : Dict String Json} (accepted' : Accepted py survey cleaned cleaned') :
    cleaned'.Same cleaned ↔ ∀ field ∈ survey.fields, Visible py survey answers field →
      Answered py answers field → Visible py survey cleaned field := by
  constructor
  · intro same field member visible answered
    cases found : answers.get? (fieldIdStr field.id) with
    | none => rw [Answered, found] at answered; cases answered
    | some value =>
      have inFirst := (accepted.cleaned _ value).mpr ⟨found, field, member, visible, answered, rfl⟩
      obtain ⟨_, other, otherIn, visibleAgain, _, sameKey⟩ :=
        (accepted'.cleaned _ value).mp ((same _).trans inFirst)
      rwa [List.inj_on_of_nodup_map survey.fieldIds otherIn member
        (fieldIdStr_injective sameKey).symm] at visibleAgain
  · intro visibleAgain key
    cases found : cleaned.get? key with
    | some value =>
      obtain ⟨inAnswers, field, member, visible, answered, rfl⟩ := (accepted.cleaned key value).mp found
      -- a kept answer is the submitted one, so it is not blank either
      have answeredAgain : Answered py cleaned field := by
        rwa [Answered, found, ← inAnswers]
      exact (accepted'.cleaned _ value).mpr
        ⟨found, field, member, visibleAgain field member visible answered, answeredAgain, rfl⟩
    | none =>
      cases found' : cleaned'.get? key with
      | none => rfl
      | some value =>
        rw [((accepted'.cleaned key value).mp found').1] at found
        cases found

end SecondRun

/-! ## When both runs agree -/

variable (py survey answers) in
/-- Validating the kept answers returns them exactly when no kept field owes its
visibility to a dropped answer. -/
theorem validateSubmission_cleaned_iff (order order' : SetOrder) {cleaned : Dict String Json}
    (returned : validateSubmission py order survey answers = .ok cleaned) :
    (∃ cleaned', validateSubmission py order' survey cleaned = .ok cleaned' ∧ cleaned'.Same cleaned) ↔
      Stable py survey answers := by
  obtain ⟨outcome, ran, empty, rfl⟩ := validateSubmission_eq_ok returned
  have accepted := (runChecks_ok ran).accepted empty
  -- the first run evaluated every dependency; on a dropped answer it is false
  have evaluated : ∀ dep ∈ survey.dependencies, ∃ holds,
      evaluateCondition py dep.condition outcome.cleaned = .ok holds := by
    simp only [runChecks, bind_eq_ok] at ran
    obtain ⟨_, _, modifications, resolved, _⟩ := ran
    intro dep member
    rw [evaluateCondition_cleaned accepted]
    split
    · exact resolveDependencies_evaluated resolved dep member
    · exact ⟨false, rfl⟩
  have idsReturn := visibleFieldIds_returns_iff py survey outcome.cleaned
  simp only [showsTarget_cleaned accepted] at idsReturn
  constructor
  · intro holds
    obtain ⟨cleaned', returned', same⟩ := holds
    obtain ⟨outcome', ran', empty', rfl⟩ := validateSubmission_eq_ok returned'
    -- equal results mean that every kept field is visible in the second run
    have visibleAgain := (same_cleaned_iff accepted ((runChecks_ok ran').accepted empty')).mp same
    simp only [runChecks, bind_eq_ok] at ran'
    obtain ⟨ids, idsResult, _⟩ := ran'
    obtain ⟨sectionsReturn, fieldsReturn⟩ := idsReturn.mp ⟨ids, idsResult⟩
    refine ⟨sectionsReturn, fieldsReturn, ?_⟩
    intro field member visible answered
    obtain ⟨sectionShown, fieldShown⟩ := visibleAgain field member visible answered
    obtain ⟨parent, inSections, inSection⟩ := survey.placed field member
    obtain ⟨shown, sectionResult⟩ := sectionsReturn parent inSections
    rw [inSection] at sectionResult
    have sectionTrue := stillShows_eq_true accepted sectionResult sectionShown
    obtain ⟨shown, fieldResult⟩ := fieldsReturn field member sectionTrue
    exact ⟨sectionTrue, stillShows_eq_true accepted fieldResult fieldShown⟩
  · intro stable
    obtain ⟨ids, idsResult⟩ := idsReturn.mpr ⟨stable.sectionsReturn, stable.fieldsReturn⟩
    obtain ⟨modifications, resolved⟩ := resolveDependencies_returns evaluated
    obtain ⟨outcome', ran'⟩ := runChecks_returns order' idsResult resolved
      fun field member visible => ⟨none, fieldError?_cleaned accepted member visible⟩
    have checked' := runChecks_ok ran'
    -- the second run finds no fault, so it is accepted as well
    have empty' : outcome'.errors.isEmpty = true := by
      rw [checked'.isEmpty_iff]
      intro holds
      obtain ⟨field, message, member, visible, failed⟩ := holds
      have noError := (fieldError?_cleaned accepted member visible).symm.trans (fieldError?_eq_some.mpr failed)
      cases noError
    refine ⟨outcome'.cleaned, by simp [validateSubmission, ran', empty'], ?_⟩
    rw [same_cleaned_iff accepted (checked'.accepted empty')]
    intro field member visible answered
    obtain ⟨sectionTrue, fieldTrue⟩ := stable.keptShown field member visible answered
    exact ⟨shown_of_stillShows accepted sectionTrue, shown_of_stillShows accepted fieldTrue⟩

/-- Two answers kept, neither through a dropped one: the second run keeps both. -/
theorem validateSubmission_cleaned_iff_chain : ∃ cleaned,
    validateSubmission bareInterpreter .ascending chainSurvey (chainAnswers "yes" "b" "z") = .ok cleaned ∧
      ((∃ cleaned', validateSubmission bareInterpreter .ascending chainSurvey cleaned = .ok cleaned' ∧
        cleaned'.Same cleaned) ↔ Stable bareInterpreter chainSurvey (chainAnswers "yes" "b" "z")) :=
  ⟨_, rfl, validateSubmission_cleaned_iff bareInterpreter chainSurvey (chainAnswers "yes" "b" "z")
    .ascending .ascending rfl⟩

end Stability

/-! ## Definition order is not enough -/

/-- Every rule and dependency passes its ordering validator. -/
structure DefinitionOrder (survey : SurveyStructure) : Prop where
  rules : ∀ rule ∈ survey.sectionRules ++ survey.fieldRules, ∃ dependsOn,
    survey.field? rule.dependsOnFieldId = some dependsOn ∧
      validateOrderingConstraint dependsOn (rule.targetSectionId.bind survey.section?)
        (rule.targetFieldId.bind survey.field?) = .ok ()
  dependencies : ∀ dep ∈ survey.dependencies, ∃ dependsOn dependent,
    survey.field? dep.dependsOnFieldId = some dependsOn ∧
      survey.field? dep.dependentFieldId = some dependent ∧
      validateFdOrderingConstraint dependsOn dependent = .ok ()

theorem chain_definitionOrder : DefinitionOrder chainSurvey := by
  refine ⟨?_, ?_⟩
  · intro rule member
    simp only [chainSurvey, List.nil_append, List.mem_cons, List.not_mem_nil, or_false] at member
    cases member with
    | inl first => subst first; exact ⟨_, rfl, rfl⟩
    | inr second => subst second; exact ⟨_, rfl, rfl⟩
  · simp [chainSurvey]

/-- The second answer is dropped, yet it decides that the third is kept: a second
run no longer shows the third question. -/
theorem chain_not_stable : DefinitionOrder chainSurvey ∧ ∃ cleaned cleaned',
    validateSubmission bareInterpreter .ascending chainSurvey (chainAnswers "no" "a" "z") = .ok cleaned ∧
      validateSubmission bareInterpreter .ascending chainSurvey cleaned = .ok cleaned' ∧
      ¬ cleaned'.Same cleaned := by
  refine ⟨chain_definitionOrder, _, _, rfl, rfl, fun same => ?_⟩
  have third := congrArg Option.isSome (same "3")
  exact absurd third (by decide)

end SurveyPlatform.Verified

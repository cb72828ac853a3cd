import SurveyPlatform.Verified.SubmissionLoop

/-! # Submission validation is exact

`validate_submission` rejects with exactly the faulty visible fields, each under
its id with the message of its first failing check, and otherwise returns
exactly the answers of the visible, answered fields.
-/

namespace SurveyPlatform.Verified

open SurveyPlatform.Library SurveyPlatform.Python SurveyPlatform.Surveys SurveyPlatform.Responses

section Exactness

variable {py : Interpreter} {survey : SurveyStructure} {answers : Dict String Json}

/-- The first check that an answer fails, with the dependencies active on these answers. -/
inductive ValueFails (py : Interpreter) (survey : SurveyStructure) (answers : Dict String Json) (field : Field)
    (value : Json) (message : String) : Prop
  | fieldType (failed : validateFieldType py field value (py.str value) = .ok (some message))
  | rules (typed : validateFieldType py field value (py.str value) = .ok none)
      (failed : validateRules py field (py.str value) = .ok (some message))
  | dependencyOptions (typed : validateFieldType py field value (py.str value) = .ok none)
      (ruled : validateRules py field (py.str value) = .ok none)
      (failed : validateDependencyOptions py value (activeModifications py answers survey.dependencies field.id) =
        .ok (some message))

/-- A required field without an answer, or an answer that fails a check. -/
inductive AnswerFails (py : Interpreter) (survey : SurveyStructure) (answers : Dict String Json) (field : Field) :
    String → Prop
  | missing (required : field.required = true) (blank : isBlank py (answers.get? (fieldIdStr field.id)) = true) :
      AnswerFails py survey answers field "This field is required."
  | value {value : Json} {message : String} (found : answers.get? (fieldIdStr field.id) = some value)
      (notBlank : isBlank py (some value) = false) (fails : ValueFails py survey answers field value message) :
      AnswerFails py survey answers field message

/-- A visible field whose answer is missing though required, or fails a check. -/
structure Faulty (py : Interpreter) (survey : SurveyStructure) (answers : Dict String Json)
    (field : Field) (message : String) : Prop where
  member : field ∈ survey.fields
  visible : Visible py survey answers field
  failed : AnswerFails py survey answers field message

theorem valueError?_eq_some {field : Field} {value : Json} {message : String} :
    valueError? py field value (activeModifications py answers survey.dependencies field.id) = .ok (some message) ↔
      ValueFails py survey answers field value message := by
  constructor
  · intro failed
    simp only [valueError?, firstMessage, bind_eq_ok] at failed
    obtain ⟨typeError, typed, failed⟩ := failed
    cases typeError with
    | some found =>
      cases failed
      exact .fieldType typed
    | none =>
      simp only [bind_eq_ok] at failed
      obtain ⟨ruleError, ruled, failed⟩ := failed
      cases ruleError with
      | some found =>
        cases failed
        exact .rules typed ruled
      | none =>
        simp only [bind_eq_ok] at failed
        obtain ⟨optionError, restricted, failed⟩ := failed
        cases optionError with
        | some found =>
          cases failed
          exact .dependencyOptions typed ruled restricted
        | none => cases failed
  · intro fails
    cases fails with
    | fieldType failed => simp [valueError?, firstMessage, failed, bind, Except.bind, pure, Except.pure]
    | rules typed failed => simp [valueError?, firstMessage, typed, failed, bind, Except.bind, pure, Except.pure]
    | dependencyOptions typed ruled failed =>
      simp [valueError?, firstMessage, typed, ruled, failed, bind, Except.bind, pure, Except.pure]

/-- The error of the loop body is the message of the first check that fails. -/
theorem fieldError?_eq_some {field : Field} {message : String} :
    fieldError? py survey answers field = .ok (some message) ↔ AnswerFails py survey answers field message := by
  unfold fieldError?
  constructor
  · intro failed
    cases found : answers.get? (fieldIdStr field.id) with
    | none =>
      simp only [found, Except.ok.injEq] at failed
      split at failed
      · rename_i required
        cases failed
        exact .missing required (by rw [found]; rfl)
      · cases failed
    | some value =>
      simp only [found] at failed
      split at failed
      · rename_i blank
        rw [Except.ok.injEq] at failed
        split at failed
        · rename_i required
          cases failed
          exact .missing required (by rw [found]; exact blank)
        · cases failed
      · rename_i notBlank
        exact .value found (Bool.eq_false_iff.mpr notBlank) (valueError?_eq_some.mp failed)
  · intro fails
    cases fails with
    | missing required blank =>
      cases found : answers.get? (fieldIdStr field.id) with
      | none => simp only [required, if_true]
      | some value =>
        rw [found] at blank
        simp only [blank, required, if_true]
    | value found notBlank fails =>
      simp only [found, notBlank, Bool.false_eq_true, if_false]
      exact valueError?_eq_some.mpr fails

theorem showsTarget_rulesFor_returns {target : ConditionalRule → Option Nat} {rules : List ConditionalRule}
    (returns : ∀ rule ∈ rules, ∃ holds, evaluateCondition py rule.condition answers = .ok holds) (id : Nat) :
    ∃ visible, showsTarget py answers (rulesFor target rules id) = .ok visible :=
  showsTarget_returns fun rule member => returns rule (List.mem_of_mem_filter member)

/-- The errors dict is empty exactly when no field is faulty. -/
theorem Checked.isEmpty_iff {outcome : Outcome} (checked : Checked py survey answers outcome) :
    outcome.errors.isEmpty = true ↔ ¬ ∃ field message, Faulty py survey answers field message := by
  rw [Dict.isEmpty_eq_true_iff]
  constructor
  · intro empty holds
    obtain ⟨field, message, member, visible, failed⟩ := holds
    have present := (checked.errors (fieldIdStr field.id) message).mpr
      ⟨field, member, visible, rfl, fieldError?_eq_some.mpr failed⟩
    rw [empty] at present
    cases present
  · intro none key
    cases found : outcome.errors.get? key with
    | none => rfl
    | some message =>
      obtain ⟨field, member, visible, _, failed⟩ := (checked.errors key message).mp found
      exact absurd ⟨field, message, member, visible, fieldError?_eq_some.mp failed⟩ none

/-- With no errors, the check of every visible field passed. -/
theorem Checked.faultless {outcome : Outcome} (checked : Checked py survey answers outcome)
    (empty : outcome.errors.isEmpty = true) {field : Field} (member : field ∈ survey.fields)
    (visible : Visible py survey answers field) : fieldError? py survey answers field = .ok none := by
  obtain ⟨error, returned⟩ := checked.returned field member visible
  cases error with
  | none => exact returned
  | some message =>
    exact absurd ⟨field, message, member, visible, fieldError?_eq_some.mp returned⟩ (checked.isEmpty_iff.mp empty)

/-- Without errors the cleaned dict holds the answers of the visible, answered fields. -/
theorem Checked.cleaned_iff {outcome : Outcome} (checked : Checked py survey answers outcome)
    (empty : outcome.errors.isEmpty = true) (key : String) (value : Json) :
    outcome.cleaned.get? key = some value ↔ answers.get? key = some value ∧
      ∃ field ∈ survey.fields, Visible py survey answers field ∧ Answered py answers field ∧
        key = fieldIdStr field.id := by
  rw [checked.cleaned]
  constructor
  · intro holds
    obtain ⟨field, member, visible, sameKey, _, answered, found⟩ := holds
    exact ⟨found, field, member, visible, answered, sameKey⟩
  · intro holds
    obtain ⟨found, field, member, visible, answered, sameKey⟩ := holds
    exact ⟨field, member, visible, sameKey, checked.faultless empty member visible, answered, found⟩

variable (py survey answers) in
/-- Validation is exact: on inputs where no condition and no check of a visible
field raises, it rejects with exactly the faulty fields when there are some, and
otherwise returns exactly the answers of the visible, answered fields. -/
theorem validateSubmission_exact (order : SetOrder)
    (conditionsReturn : ∀ condition ∈ conditions survey, ∃ holds,
      evaluateCondition py condition answers = .ok holds)
    (checksReturn : ∀ field ∈ survey.fields, Visible py survey answers field →
      ∃ error, fieldError? py survey answers field = .ok error) :
    ((∃ field message, Faulty py survey answers field message) →
      ∃ errors, validateSubmission py order survey answers = .error (.invalid errors) ∧
        ∀ key message, errors.get? key = some message ↔
          ∃ field, Faulty py survey answers field message ∧ key = fieldIdStr field.id) ∧
    ((¬ ∃ field message, Faulty py survey answers field message) →
      ∃ cleaned, validateSubmission py order survey answers = .ok cleaned ∧
        ∀ key value, cleaned.get? key = some value ↔
          answers.get? key = some value ∧ ∃ field ∈ survey.fields,
            Visible py survey answers field ∧ Answered py answers field ∧ key = fieldIdStr field.id) := by
  have ruleReturns : ∀ rule ∈ survey.sectionRules ++ survey.fieldRules, ∃ holds,
      evaluateCondition py rule.condition answers = .ok holds := by
    intro rule member
    apply conditionsReturn
    rw [conditions, ← List.map_append]
    exact List.mem_append_left _ (List.mem_map_of_mem member)
  obtain ⟨ids, idsResult⟩ := (visibleFieldIds_returns_iff py survey answers).mpr
    ⟨fun current _ => showsTarget_rulesFor_returns
        (fun rule member => ruleReturns rule (List.mem_append_left _ member)) current.id,
      fun field _ _ => showsTarget_rulesFor_returns
        (fun rule member => ruleReturns rule (List.mem_append_right _ member)) field.id⟩
  -- all dependencies are resolved, also those of fields that are hidden
  have dependenciesReturn : ∀ dep ∈ survey.dependencies, ∃ holds,
      evaluateCondition py dep.condition answers = .ok holds := by
    intro dep member
    apply conditionsReturn
    exact List.mem_append_right _ (List.mem_map_of_mem (f := FieldDependency.condition) member)
  obtain ⟨modifications, resolved⟩ := resolveDependencies_returns dependenciesReturn
  obtain ⟨outcome, ran⟩ := runChecks_returns order idsResult resolved checksReturn
  -- the run completed, so `Checked` tells what both dicts hold
  have checked := runChecks_ok ran
  constructor
  · intro faulty
    have nonempty : outcome.errors.isEmpty = false := by
      rw [← Bool.not_eq_true, checked.isEmpty_iff, not_not]
      exact faulty
    refine ⟨outcome.errors, by simp [validateSubmission, ran, nonempty], ?_⟩
    intro key message
    rw [checked.errors]
    constructor
    · intro holds
      obtain ⟨field, member, visible, sameKey, failed⟩ := holds
      exact ⟨field, ⟨member, visible, fieldError?_eq_some.mp failed⟩, sameKey⟩
    · intro holds
      obtain ⟨field, ⟨member, visible, failed⟩, sameKey⟩ := holds
      exact ⟨field, member, visible, sameKey, fieldError?_eq_some.mpr failed⟩
  · intro none
    have empty : outcome.errors.isEmpty = true := checked.isEmpty_iff.mpr none
    exact ⟨outcome.cleaned, by simp [validateSubmission, ran, empty], checked.cleaned_iff empty⟩

end Exactness

/-! ## A chain of questions -/

def textField (id order : Nat) (label : String) : Field :=
  ⟨id, 1, label, .text, false, order, .list [], false, .object []⟩

/-- One section with three text fields: the second is shown when the first is
`"yes"`, the third when the second is `"a"`. -/
def chainSurvey : SurveyStructure where
  sections := [⟨1, 1, "About you", "", 1⟩]
  fields := [textField 1 1 "Do you smoke?", textField 2 2 "What?", textField 3 3 "How much?"]
  sectionRules := []
  fieldRules := [⟨1, 1, none, some 2, 1, .equals, .str "yes"⟩, ⟨2, 1, none, some 3, 2, .equals, .str "a"⟩]
  dependencies := []
  sectionIds := by decide
  fieldIds := by decide
  placed := by
    intro field member
    simp only [List.mem_cons, List.not_mem_nil, or_false] at member
    rcases member with rfl | rfl | rfl <;> exact ⟨_, List.mem_singleton_self _, rfl⟩

/-- Answers to the three questions of the chain. -/
def chainAnswers (first second third : String) : Dict String Json :=
  ((Dict.empty.set "1" (.str first)).set "2" (.str second)).set "3" (.str third)

theorem chain_conditionsReturn (answers : Dict String Json) :
    ∀ condition ∈ conditions chainSurvey, ∃ holds,
      evaluateCondition bareInterpreter condition answers = .ok holds := by
  intro condition member
  have equals : condition.operator = .equals := by
    simp only [conditions, chainSurvey, ConditionalRule.condition, List.map_cons, List.map_nil,
      List.nil_append, List.append_nil, List.mem_cons, List.not_mem_nil, or_false] at member
    rcases member with rfl | rfl <;> rfl
  unfold evaluateCondition
  cases answerTo answers condition.dependsOnFieldId with
  | none => exact ⟨false, rfl⟩
  | some answer => exact ⟨_, by rw [equals]; rfl⟩

theorem chain_checksReturn (answers : Dict String Json) :
    ∀ field ∈ chainSurvey.fields, fieldError? bareInterpreter chainSurvey answers field = .ok none := by
  intro field member
  have plain : field.required = false ∧ field.fieldType = .text ∧ field.validationRules = .object [] := by
    simp only [chainSurvey, List.mem_cons, List.not_mem_nil, or_false] at member
    rcases member with rfl | rfl | rfl <;> exact ⟨rfl, rfl, rfl⟩
  obtain ⟨optional, isText, noRules⟩ := plain
  unfold fieldError?
  cases answers.get? (fieldIdStr field.id) with
  | none => simp [optional]
  | some value =>
    simp only [optional, Bool.false_eq_true, if_false]
    split
    · rfl
    · simp [valueError?, validateFieldType, validateRules, isText, noRules, firstMessage, validateDependencyOptions,
        activeModifications, chainSurvey, Json.truthy, bind, Except.bind]

/-- With the first answer `"yes"` the first two are kept and the third is dropped. -/
theorem validateSubmission_exact_chain : ∃ cleaned,
    validateSubmission bareInterpreter .ascending chainSurvey (chainAnswers "yes" "b" "z") = .ok cleaned ∧
      ∀ key value, cleaned.get? key = some value ↔
        (chainAnswers "yes" "b" "z").get? key = some value ∧ ∃ field ∈ chainSurvey.fields,
          Visible bareInterpreter chainSurvey (chainAnswers "yes" "b" "z") field ∧
            Answered bareInterpreter (chainAnswers "yes" "b" "z") field ∧ key = fieldIdStr field.id :=
  (validateSubmission_exact bareInterpreter chainSurvey (chainAnswers "yes" "b" "z") .ascending
    (chain_conditionsReturn _) (fun field member _ => ⟨none, chain_checksReturn _ field member⟩)).2
    (by
      intro holds
      obtain ⟨field, message, member, _, failed⟩ := holds
      have noError := (chain_checksReturn _ field member).symm.trans (fieldError?_eq_some.mpr failed)
      cases noError)

end SurveyPlatform.Verified

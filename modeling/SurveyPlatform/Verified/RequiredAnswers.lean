import SurveyPlatform.Verified.StoredAnswers
import SurveyPlatform.Verified.SubmissionStability

/-! # Required answers

A required field asks for an answer whose `str` is not blank, before anything
looks at its type.  In an accepted submission the answers to required fields
are answers indeed, except where a value without a text of its own passes: an
empty list on a checkbox, and a boolean, a list or an object on a text field
(`requiredAnswered_iff`).
-/

namespace SurveyPlatform.Verified

open SurveyPlatform.Library SurveyPlatform.Python SurveyPlatform.Surveys SurveyPlatform.Responses

/-! ## Answers -/

/-- A text with a character that is no whitespace, or a number. -/
def HasContent (value : Json) : Prop :=
  (∃ text, value = .str text ∧ ∃ c ∈ text.toList, isSpace c = false) ∨ (∃ n, value = .int n) ∨ ∃ x, value = .float x

/-- A non-empty answer to a field of the type: an option, a list of at least one option, or content. -/
def IsAnswer (py : Interpreter) (field : Field) (value : Json) : Prop :=
  match field.fieldType with
  | .dropdown | .radio => ∃ offered, py.strs field.options = .ok offered ∧ py.str value ∈ offered
  | .checkbox => ∃ items offered, value = .list items ∧ items ≠ [] ∧ py.strs field.options = .ok offered ∧
      ∀ item ∈ items, py.str item ∈ offered
  | _ => HasContent value

/-- Every visible required field is in the result with an answer. -/
def RequiredAnswered (py : Interpreter) (survey : SurveyStructure) (answers cleaned : Dict String Json) : Prop :=
  ∀ field ∈ survey.fields, Visible py survey answers field → field.required = true →
    ∃ value, cleaned.get? (fieldIdStr field.id) = some value ∧ IsAnswer py field value

/-- A boolean, a list or an object. -/
def Textless : Json → Prop
  | .bool _ | .list _ | .object _ => True
  | _ => False

/-- A value that passes for an answer only because its `str` is not blank. -/
def StandsIn (fieldType : FieldType) (value : Json) : Prop :=
  match fieldType with
  | .text | .textarea | .email => Textless value
  | .checkbox => value = .list []
  | _ => False

/-- No visible required field is answered by one. -/
def NoStandIn (py : Interpreter) (survey : SurveyStructure) (answers : Dict String Json) : Prop :=
  ∀ field ∈ survey.fields, Visible py survey answers field → field.required = true →
    ∀ value, answers.get? (fieldIdStr field.id) = some value → ¬ StandsIn field.fieldType value

section

variable {py : Interpreter} {field : Field} {value : Json}

theorem hasContent_of_not_blank {text : String} (notBlank : isBlank py (some (.str text)) = false) :
    ∃ c ∈ text.toList, isSpace c = false := by
  by_contra allSpace
  have spaces : ∀ c ∈ text.toList, isSpace c = true := by simpa using allSpace
  have stripped : strip text = "" := by simp [strip, trimBoth, List.dropWhile_eq_nil_iff.mpr spaces]
  have blank : isBlank py (some (.str text)) = (strip text == "") := rfl
  rw [blank, stripped] at notBlank
  cases notBlank

theorem hasContent_iff (notBlank : isBlank py (some value) = false) : HasContent value ↔ ¬ Textless value := by
  cases value with
  | null => cases notBlank
  | str text => exact iff_of_true (Or.inl ⟨text, rfl, hasContent_of_not_blank notBlank⟩) not_false
  | int n => exact iff_of_true (Or.inr (Or.inl ⟨n, rfl⟩)) not_false
  | float x => exact iff_of_true (Or.inr (Or.inr ⟨x, rfl⟩)) not_false
  | _ => exact iff_of_false (by simp [HasContent]) (not_not.mpr trivial)

/-- No boolean, list or object has the text of a number or a date. -/
theorem not_textless (textOf : (∃ x, parseFloat (py.str value) = some x) ∨ DateShaped (py.str value)) :
    ¬ Textless value := by
  intro textless
  cases value with
  | bool flag =>
    obtain ⟨x, parsed⟩ | shaped := textOf
    · rw [parseFloat_bool] at parsed
      cases parsed
    · cases flag with
      | true => exact absurd (@DateShaped.startsWithDigit 'T' ['r', 'u', 'e'] shaped) (by decide)
      | false => exact absurd (@DateShaped.startsWithDigit 'F' ['a', 'l', 's', 'e'] shaped) (by decide)
  | list items =>
    obtain ⟨x, parsed⟩ | shaped := textOf
    · rw [(parseFloat_brackets py _).1 items rfl] at parsed
      cases parsed
    · exact not_dateShaped_brackets.1 items rfl shaped
  | object entries =>
    obtain ⟨x, parsed⟩ | shaped := textOf
    · rw [(parseFloat_brackets py _).2 entries rfl] at parsed
      cases parsed
    · exact not_dateShaped_brackets.2 entries rfl shaped
  | _ => exact textless

/-- One kept answer. -/
theorem isAnswer_iff (notBlank : isBlank py (some value) = false)
    (passes : validateFieldType py field value (py.str value) = .ok none) :
    IsAnswer py field value ↔ ¬ StandsIn field.fieldType value := by
  have content := hasContent_iff notBlank
  cases fieldType : field.fieldType with
  | text | textarea | email =>
    rw [IsAnswer, fieldType]
    exact content
  | number =>
    rw [IsAnswer, fieldType]
    exact iff_of_true (content.mpr (not_textless (Or.inl ((validateFieldType_number_iff fieldType).mp passes)))) not_false
  | date =>
    rw [IsAnswer, fieldType]
    exact iff_of_true (content.mpr (not_textless (Or.inr ((validateFieldType_date_iff fieldType).mp passes)))) not_false
  | dropdown =>
    rw [IsAnswer, fieldType]
    exact iff_of_true ((validateFieldType_choice_iff (Or.inl fieldType)).mp passes) not_false
  | radio =>
    rw [IsAnswer, fieldType]
    exact iff_of_true ((validateFieldType_choice_iff (Or.inr fieldType)).mp passes) not_false
  | checkbox =>
    obtain ⟨items, offered, rfl, isOffered, selected⟩ := (validateFieldType_checkbox_iff fieldType).mp passes
    rw [IsAnswer, fieldType]
    cases items with
    | nil =>
      refine iff_of_false ?_ fun notEmpty => notEmpty rfl
      rintro ⟨items, _, ⟨rfl⟩, nonempty, _⟩
      exact nonempty rfl
    | cons item rest => exact iff_of_true ⟨_, offered, rfl, List.cons_ne_nil _ _, isOffered, selected⟩ nofun

end

/-- An accepted submission answers its required fields exactly when no answer to one of them merely
stands in for one. -/
theorem requiredAnswered_iff (py : Interpreter) (order : SetOrder) (survey : SurveyStructure)
    (answers cleaned : Dict String Json) (accepted : validateSubmission py order survey answers = .ok cleaned) :
    RequiredAnswered py survey answers cleaned ↔ NoStandIn py survey answers := by
  obtain ⟨outcome, ran, empty, rfl⟩ := validateSubmission_eq_ok accepted
  have run := (runChecks_ok ran).accepted empty
  -- an accepted run has checked an answer that is not blank, and kept it
  have answered : ∀ field ∈ survey.fields, Visible py survey answers field → field.required = true →
      ∃ value, answers.get? (fieldIdStr field.id) = some value ∧
        outcome.cleaned.get? (fieldIdStr field.id) = some value ∧
        (IsAnswer py field value ↔ ¬ StandsIn field.fieldType value) := by
    intro field member visible required
    have faultless := run.faultless field member visible
    unfold fieldError? at faultless
    cases found : answers.get? (fieldIdStr field.id) with
    | none => simp [found, required] at faultless
    | some value =>
      cases blank : isBlank py (some value) with
      | true => simp [found, required, blank] at faultless
      | false =>
        simp only [found, blank, Bool.false_eq_true, if_false, valueError?_eq_none] at faultless
        have isAnswered : Answered py answers field := by rw [Answered, found, blank]
        exact ⟨value, rfl, (run.cleaned _ value).mpr ⟨found, field, member, visible, isAnswered, rfl⟩,
          isAnswer_iff blank faultless.1⟩
  constructor
  · intro holds field member visible required value found
    obtain ⟨value', found', inResult, answer_iff⟩ := answered field member visible required
    obtain ⟨value'', inResult', isAnswer⟩ := holds field member visible required
    cases found.symm.trans found'
    cases inResult.symm.trans inResult'
    exact answer_iff.mp isAnswer
  · intro holds field member visible required
    obtain ⟨value, found, inResult, answer_iff⟩ := answered field member visible required
    exact ⟨value, inResult, answer_iff.mpr (holds field member visible required value found)⟩

/-! ## A survey with two required fields -/

def nameField : Field := { textField 1 1 "Name" with required := true }

def habitsField : Field :=
  { textField 2 2 "Habits" with fieldType := .checkbox, required := true, options := .list [.str "tea", .str "coffee"] }

theorem profile_fieldIds : ([nameField, habitsField].map Field.id).Nodup := by decide

theorem profile_placed : ∀ field ∈ [nameField, habitsField],
    ∃ parent ∈ [(⟨1, 1, "About you", "", 1⟩ : Section)], parent.id = field.sectionId := by
  intro field member
  have sameSection : field.sectionId = 1 := by
    simp only [List.mem_cons, List.not_mem_nil, or_false] at member
    obtain rfl | rfl := member <;> rfl
  exact ⟨_, List.mem_singleton_self _, sameSection.symm⟩

def profileSurvey : SurveyStructure where
  sections := [⟨1, 1, "About you", "", 1⟩]
  fields := [nameField, habitsField]
  sectionRules := []
  fieldRules := []
  dependencies := []
  sectionIds := List.nodup_singleton _
  fieldIds := profile_fieldIds
  placed := profile_placed

def profileAnswers (name habits : Json) : Dict String Json := (Dict.empty.set "1" name).set "2" habits

/-- A name and a habit: both fields are answered. -/
theorem requiredAnswered_profile : ∃ cleaned,
    validateSubmission bareInterpreter .ascending profileSurvey (profileAnswers (.str "Ann") (.list [.str "tea"])) =
        .ok cleaned ∧
      (RequiredAnswered bareInterpreter profileSurvey (profileAnswers (.str "Ann") (.list [.str "tea"])) cleaned ↔
        NoStandIn bareInterpreter profileSurvey (profileAnswers (.str "Ann") (.list [.str "tea"]))) :=
  ⟨_, rfl, requiredAnswered_iff bareInterpreter .ascending profileSurvey _ _ rfl⟩

/-- An empty list is kept as the name, and another as the habits. -/
theorem not_requiredAnswered_empty : ∃ cleaned,
    validateSubmission bareInterpreter .ascending profileSurvey (profileAnswers (.list []) (.list [])) = .ok cleaned ∧
      ¬ RequiredAnswered bareInterpreter profileSurvey (profileAnswers (.list []) (.list [])) cleaned := by
  refine ⟨_, rfl, ?_⟩
  intro holds
  have visible : Visible bareInterpreter profileSurvey (profileAnswers (.list []) (.list [])) habitsField :=
    ⟨Or.inl rfl, Or.inl rfl⟩
  have member : habitsField ∈ profileSurvey.fields := List.mem_cons_of_mem _ (List.mem_singleton_self _)
  obtain ⟨value, inResult, items, _, isList, nonempty, _⟩ := holds habitsField member visible rfl
  cases inResult
  cases isList
  exact nonempty rfl

end SurveyPlatform.Verified

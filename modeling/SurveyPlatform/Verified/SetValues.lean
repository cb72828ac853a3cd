import SurveyPlatform.Python.ExactNumbers
import SurveyPlatform.Verified.DateForms
import SurveyPlatform.Verified.OptionChecks
import SurveyPlatform.Verified.OptionEdits

/-! # Values a dependency may set

`validate_action_value` decides what `set_value` may set, and the type check
what the field accepts.  They have a test each for numbers, addresses and
dates, and the accepted value is one for the field exactly when these tests
agree on it (`setValue_accepted_iff`).
-/

namespace SurveyPlatform.Verified

open SurveyPlatform.Python SurveyPlatform.Surveys SurveyPlatform.Responses

/-! ## Values that fit

The tests of the two sides, type by type. -/

/-- The values that may be set and that the field also accepts: a number that is no boolean, an
address by the pattern, a date that is not written in another ISO form. -/
def SetValueFits (fieldType : FieldType) (value : Json) : Prop :=
  match fieldType with
  | .number => ∀ flag, value ≠ .bool flag
  | .email => ∃ text, value = .str text ∧ EmailShaped text
  | .date => ∀ text, value = .str text → ¬ ∃ date, CompactAs text date ∨ WeekAs text date
  | _ => True

section

variable {py : Interpreter} {field : Field} {value : Json} {message : String}

/-- `float` reads the text of everything it takes but a boolean. -/
theorem setNumber_iff (accepted : requireNumeric value message = .ok ()) :
    (∃ x, parseFloat (py.str value) = some x) ↔ ∀ flag, value ≠ .bool flag := by
  cases value with
  | bool flag =>
    refine iff_of_false ?_ fun noBool => noBool flag rfl
    rintro ⟨x, parsed⟩
    rw [parseFloat_bool] at parsed
    cases parsed
  | int n =>
    have read : ∃ x, parseFloat (toString n) = some x := by
      rw [parseFloat_eq, readNumeral_toString]
      exact ⟨_, rfl⟩
    exact iff_of_true read nofun
  | float x => exact iff_of_true ⟨x, parseFloat_reprFloat x⟩ nofun
  | str text =>
    refine iff_of_true ?_ nofun
    change ∃ x, parseFloat text = some x
    cases parsed : parseFloat text with
    | some x => exact ⟨x, rfl⟩
    | none => simp [requireNumeric, Json.isNumber, Json.toFloat, parsed, tryExcept, bind, Except.bind, PyExn.isValueOrType,
        reject] at accepted
  | _ =>
    simp [requireNumeric, Json.isNumber, Json.toFloat, tryExcept, bind, Except.bind, PyExn.isValueOrType,
        reject] at accepted

/-- A date in another form has not the shape. -/
theorem DateShaped.noOther {s : String} (shaped : DateShaped s) : ¬ ∃ date, CompactAs s date ∨ WeekAs s date := by
  obtain ⟨y₁, y₂, y₃, y₄, m₁, m₂, d₁, d₂, digits, shape⟩ := shaped
  have noLetter : m₁ ≠ 'W' := by
    rintro rfl
    have digit : (digitValue? 'W').isSome = true := digits 'W' (by simp)
    exact absurd digit (by decide)
  have hyphen : ∃ rest, s.toList = y₁ :: y₂ :: y₃ :: y₄ :: '-' :: rest := by
    obtain shape | shape := shape
    · exact ⟨_, shape⟩
    · exact ⟨_, shape⟩
  obtain ⟨rest, hyphen⟩ := hyphen
  rintro ⟨date, ⟨_, _, _, _, m, _, _, _, _, other, _, read⟩ |
    ⟨_, _, _, _, _, _, ⟨other | other, _⟩ | ⟨_, other | ⟨_, other, _⟩, _⟩⟩⟩
  · -- a hyphen is no digit of a month
    have month := (isoDate_digits read).2.1 m List.mem_cons_self
    have same : m = '-' := by simp_all
    rw [same] at month
    cases month
  · simp [other] at hyphen
  · simp [other] at shape
  · simp [other] at shape
    exact noLetter shape.2.2.2.2.1.symm
  · simp [other] at hyphen

theorem setDate_iff (accepted : validateDateString value = .ok ()) :
    DateShaped (py.str value) ↔ ∀ text, value = .str text → ¬ ∃ date, CompactAs text date ∨ WeekAs text date := by
  cases value with
  | str text =>
    obtain ⟨date, dated | other⟩ := validateDateString_iff.mp accepted
    · refine iff_of_true dated.shaped ?_
      rintro _ ⟨rfl⟩
      exact dated.shaped.noOther
    · exact iff_of_false (fun shaped => shaped.noOther ⟨date, other⟩) fun noOther => noOther text rfl ⟨date, other⟩
  | _ => cases accepted

/-- An accepted choice field has options, so each lookup among them is made. -/
theorem offers_iff {option : String} (options : validateFieldOptions py field.fieldType field.options = .ok ())
    (choice : field.fieldType.isChoice = true) :
    Offers py field.options option ↔ ∃ offered, py.strs field.options = .ok offered ∧ option ∈ offered := by
  refine imp_iff_right ?_
  cases truthy : field.options.truthy with
  | true => rfl
  | false =>
    obtain ⟨message, refused⟩ := @validateFieldOptions_falsy py _ _ choice truthy
    rw [refused] at options
    cases options

end

/-- A value that `set_value` may set passes the type check of the field exactly when the tests of the
two sides agree on it: there is nothing to ask for on a text or a choice field. -/
theorem setValue_accepted_iff (py : Interpreter) (field : Field) (value : Json)
    (options : validateFieldOptions py field.fieldType field.options = .ok ())
    (accepted : validateActionValue py .setValue value field = .ok ()) :
    validateFieldType py field value (py.str value) = .ok none ↔ SetValueFits field.fieldType value := by
  have looksUp := (validateActionValue_eq_ok_iff.mp accepted).2
  obtain ⟨id, sectionId, label, fieldType, required, order, fieldOptions, isEncrypted, validationRules⟩ := field
  cases fieldType with
  | number => exact (validateFieldType_number_iff rfl).trans (setNumber_iff accepted)
  | email =>
    refine (validateFieldType_email_iff rfl).trans ?_
    cases value with
    | str text =>
      refine ⟨fun shaped => ⟨text, rfl, shaped⟩, ?_⟩
      rintro ⟨_, ⟨rfl⟩, shaped⟩
      exact shaped
    | _ => exact absurd accepted reject_ne_ok
  | date => exact (validateFieldType_date_iff rfl).trans (setDate_iff accepted)
  | dropdown =>
    refine iff_of_true ((validateFieldType_choice_iff (Or.inl rfl)).mpr ?_) trivial
    exact (offers_iff options rfl).mp (looksUp _ (List.mem_singleton_self _))
  | radio =>
    refine iff_of_true ((validateFieldType_choice_iff (Or.inr rfl)).mpr ?_) trivial
    exact (offers_iff options rfl).mp (looksUp _ (List.mem_singleton_self _))
  | checkbox =>
    refine iff_of_true ((validateFieldType_checkbox_iff rfl).mpr ?_) trivial
    obtain ⟨items, rfl, _⟩ := requireItems_eq_ok.mp accepted
    have each : ∀ item ∈ items, ∃ offered, py.strs fieldOptions = .ok offered ∧ py.str item ∈ offered :=
      fun item member => (offers_iff options rfl).mp (looksUp _ (List.mem_map_of_mem member))
    obtain ⟨offered, isOffered, _⟩ := options_offered options rfl
    refine ⟨items, offered, rfl, isOffered, ?_⟩
    intro item member
    obtain ⟨offered', isOffered', found⟩ := each item member
    cases isOffered.symm.trans isOffered'
    exact found
  | text | textarea => exact iff_of_true rfl trivial

def ageField : Field := { birthday with label := "Age", fieldType := .number }

def addressField : Field := { birthday with label := "Address", fieldType := .email }

/-- A numeric text may be set, and is accepted. -/
theorem setValue_accepted_five :
    validateFieldType bareInterpreter ageField (.str "5") (bareInterpreter.str (.str "5")) = .ok none ↔
      SetValueFits ageField.fieldType (.str "5") :=
  setValue_accepted_iff bareInterpreter ageField (.str "5") rfl (by decide +kernel)

/-- A value may be set, and is refused as an answer. -/
def SetButRefused (py : Interpreter) (field : Field) (value : Json) : Prop :=
  validateFieldOptions py field.fieldType field.options = .ok () ∧ validateActionValue py .setValue value field = .ok () ∧
    validateFieldType py field value (py.str value) ≠ .ok none

/-- So are `true` for a number, `a@b` for an address and `20240115` for a date. -/
theorem setValue_not_accepted :
    SetButRefused bareInterpreter ageField (.bool true) ∧ SetButRefused bareInterpreter addressField (.str "a@b") ∧
      SetButRefused bareInterpreter birthday (.str "20240115") :=
  ⟨⟨rfl, rfl, by decide +kernel⟩, ⟨rfl, by decide +kernel, by decide +kernel⟩, ⟨rfl, by decide +kernel, by decide +kernel⟩⟩

end SurveyPlatform.Verified

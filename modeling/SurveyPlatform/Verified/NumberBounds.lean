import SurveyPlatform.Python.ExactNumbers
import SurveyPlatform.Verified.RuleChecks
import SurveyPlatform.Verified.TypeChecks

/-! # Bounds of a number answer

A kept number answer is compared with `min` and `max` as a double.  It lies
within its bounds exactly when neither side is NaN, which passes every
comparison, and `float` does not round an answer beyond a bound onto that bound
(`withinBounds_iff`).
-/

namespace SurveyPlatform.Verified

open SurveyPlatform.Python SurveyPlatform.Surveys SurveyPlatform.Responses

/-- `_validate_field_type` and `_validate_rules` have nothing to say. -/
structure Passes (py : Interpreter) (field : Field) (value : Json) : Prop where
  type : validateFieldType py field value (py.str value) = .ok none
  rules : validateRules py field (py.str value) = .ok none

/-- A rule of the field, if it has it. -/
def ruleOf (field : Field) (key : String) : Option Json :=
  match field.validationRules with
  | .object entries => entries.lookup key
  | _ => none

/-- The number the answer denotes is at least `min` and at most `max`, whichever are there. -/
def WithinBounds (field : Field) (value : Json) : Prop :=
  ∃ number, value.denotes? = some number ∧
    (∀ low, ruleOf field "min" = some low → ∃ bound, low.denotes? = some bound ∧ bound.AtMost number) ∧
    (∀ high, ruleOf field "max" = some high → ∃ bound, high.denotes? = some bound ∧ number.AtMost bound)

/-- The answer is not beyond the bound with the same double, and neither is NaN. -/
def ToldApart (py : Interpreter) (beyond : Exact → Exact → Bool) (value bound : Json) : Prop :=
  ∀ number number' x x', value.denotes? = some number → bound.denotes? = some number' →
    parseFloat (py.str value) = some x → bound.toFloat = .ok x' →
    number ≠ .nan ∧ number' ≠ .nan ∧ ¬ (beyond number number' = true ∧ x.eq x' = true)

def BoundsTold (py : Interpreter) (field : Field) (value : Json) : Prop :=
  (∀ low, ruleOf field "min" = some low → ToldApart py (fun number bound => number.lt bound) value low) ∧
    ∀ high, ruleOf field "max" = some high → ToldApart py (fun number bound => bound.lt number) value high

section

variable {py : Interpreter} {field : Field} {value : Json}

/-! ## What the checks leave -/

theorem ruleOf_eq_some {key : String} {bound : Json} (given : ruleOf field key = some bound) :
    ∃ entries, field.validationRules = .object entries ∧ entries.lookup key = some bound ∧ entries ≠ [] := by
  unfold ruleOf at given
  split at given
  · rename_i entries isObject
    refine ⟨entries, isObject, given, ?_⟩
    rintro rfl
    cases given
  · cases given

/-- The two bounds of accepted rules are numbers. -/
theorem isNumber_of_accepted (accepted : validateValidationRules py field.fieldType field.validationRules = .ok ())
    {key : String} (isKey : key = "min" ∨ key = "max") {bound : Json} (given : ruleOf field key = some bound) :
    bound.isNumber = true := by
  obtain ⟨entries, isObject, found, nonempty⟩ := ruleOf_eq_some given
  rw [isObject, validateValidationRules_object_iff nonempty] at accepted
  obtain rfl | rfl := isKey
  · exact (accepted.bounds.low bound found).2
  · exact (accepted.bounds.high bound found).2

/-- Each rule of the chain was found not to be violated. -/
theorem rules_of_passes (passes : Passes py field value) {low : Json} :
    (ruleOf field "min" = some low → outOfRange (py.str value) (fun x limit => x.lt limit) low = .ok false) ∧
      (ruleOf field "max" = some low → outOfRange (py.str value) (fun x limit => limit.lt x) low = .ok false) := by
  have passesRules := passes.rules
  have chain : ∀ entries, field.validationRules = .object entries → entries ≠ [] →
      (∀ bound, entries.lookup "min" = some bound → outOfRange (py.str value) (fun x limit => x.lt limit) bound = .ok false) ∧
        ∀ bound, entries.lookup "max" = some bound → outOfRange (py.str value) (fun x limit => limit.lt x) bound = .ok false := by
    intro entries isObject nonempty
    have truthy : (Json.object entries).truthy = true := by simpa [Json.truthy] using nonempty
    simp only [validateRules, isObject, truthy, if_true, firstMessage_eq_none, List.forall_mem_cons,
      applyRule_eq_none] at passesRules
    exact ⟨passesRules.2.2.1, passesRules.2.2.2.1⟩
  constructor
  · intro given
    obtain ⟨entries, isObject, found, nonempty⟩ := ruleOf_eq_some given
    exact (chain entries isObject nonempty).1 low found
  · intro given
    obtain ⟨entries, isObject, found, nonempty⟩ := ruleOf_eq_some given
    exact (chain entries isObject nonempty).2 low found

theorem toFloat_of_isNumber {bound : Json} (isNumber : bound.isNumber = true) :
    (∃ x, bound.toFloat = .ok x) ∨ bound.toFloat = .error .overflowError := by
  have converted : ∀ n, (∃ x, floatOfInt n = .ok x) ∨ floatOfInt n = .error .overflowError :=
    fun n => (floatOfInt_cases n).symm.imp And.left And.left
  cases bound with
  | bool value => exact converted value.toInt
  | int value => exact converted value
  | float value => exact Or.inl ⟨value, rfl⟩
  | _ => cases isNumber

/-- A comparison that returned compared two doubles. -/
theorem outOfRange_eq_false {beyond : PyFloat → PyFloat → Bool} {bound : Json} {x : PyFloat}
    (parsed : parseFloat (py.str value) = some x) (isNumber : bound.isNumber = true)
    (inRange : outOfRange (py.str value) beyond bound = .ok false) :
    ∃ x', bound.toFloat = .ok x' ∧ beyond x x' = false := by
  have first : (Json.str (py.str value)).toFloat = .ok x := by simp [Json.toFloat, parsed]
  rw [outOfRange, first] at inRange
  obtain ⟨x', converted⟩ | overflows := toFloat_of_isNumber isNumber
  · refine ⟨x', converted, ?_⟩
    simpa [converted, bind, Except.bind, tryExcept, pure, Except.pure] using inRange
  -- an overflow is not caught
  · simp [overflows, bind, Except.bind, tryExcept, PyExn.isValueOrType] at inRange

/-- One bound of a kept answer. -/
theorem toldApart_iff {bound : Json} {number : Exact} {x : PyFloat} {inOrder : Exact → Exact → Prop}
    {beyond : PyFloat → PyFloat → Bool} {beyondExact : Exact → Exact → Bool}
    (denoted : value.denotes? = some number) (parsed : parseFloat (py.str value) = some x)
    (isNumber : bound.isNumber = true) (inRange : outOfRange (py.str value) beyond bound = .ok false)
    (told : ∀ number' x', Rounds number' x' → beyond x x' = false →
      (inOrder number number' ↔ number ≠ .nan ∧ number' ≠ .nan ∧ ¬ (beyondExact number number' = true ∧ x.eq x' = true))) :
    (∃ number', bound.denotes? = some number' ∧ inOrder number number') ↔ ToldApart py beyondExact value bound := by
  obtain ⟨x', converted, notBeyond⟩ := outOfRange_eq_false parsed isNumber inRange
  obtain ⟨number', denoted', rounds'⟩ := denotes_of_toFloat converted
  have ordered := told number' x' rounds' notBeyond
  constructor
  · intro holds
    obtain ⟨number'', same, inOrder⟩ := holds
    cases denoted'.symm.trans same
    intro m m' y y' isM isM' isY isY'
    cases denoted.symm.trans isM
    cases denoted'.symm.trans isM'
    cases parsed.symm.trans isY
    cases converted.symm.trans isY'
    exact ordered.mp inOrder
  · intro apart
    exact ⟨number', denoted', ordered.mpr (apart number number' x x' denoted denoted' parsed converted)⟩

end

/-- A kept number answer lies within its bounds exactly when none of the numbers is NaN and `float`
does not round the answer onto a bound it is beyond. -/
theorem withinBounds_iff (py : Interpreter) (field : Field) (value : Json) (number : field.fieldType = .number)
    (accepted : validateValidationRules py field.fieldType field.validationRules = .ok ())
    (passes : Passes py field value) : WithinBounds field value ↔ BoundsTold py field value := by
  obtain ⟨x, parsed⟩ := (validateFieldType_number_iff number).mp passes.type
  obtain ⟨denoted, isDenoted, rounds⟩ := denotes_of_parses parsed
  have low : ∀ bound, ruleOf field "min" = some bound →
      ((∃ e, bound.denotes? = some e ∧ e.AtMost denoted) ↔ ToldApart py (fun number bound => number.lt bound) value bound) := by
    intro bound given
    apply toldApart_iff isDenoted parsed (isNumber_of_accepted accepted (Or.inl rfl) given)
      ((rules_of_passes passes).1 given)
    intro number' x' rounds' notBeyond
    rw [atMost_iff_told rounds' rounds notBeyond, and_left_comm]
  have high : ∀ bound, ruleOf field "max" = some bound →
      ((∃ e, bound.denotes? = some e ∧ denoted.AtMost e) ↔ ToldApart py (fun number bound => bound.lt number) value bound) := by
    intro bound given
    apply toldApart_iff isDenoted parsed (isNumber_of_accepted accepted (Or.inr rfl) given)
      ((rules_of_passes passes).2 given)
    intro number' x' rounds' notBeyond
    rw [atMost_iff_told rounds rounds' notBeyond, PyFloat.eq_comm]
  constructor
  · intro within
    obtain ⟨number', same, aboveLow, belowHigh⟩ := within
    cases isDenoted.symm.trans same
    exact ⟨fun bound given => (low bound given).mp (aboveLow bound given),
      fun bound given => (high bound given).mp (belowHigh bound given)⟩
  · intro told
    exact ⟨denoted, isDenoted, fun bound given => (low bound given).mpr (told.1 bound given),
      fun bound given => (high bound given).mpr (told.2 bound given)⟩

/-! ## Two answers -/

def agedField : Field := { numberField 1 1 "Age" with validationRules := .object [("min", .int 18)] }

/-- `"21"` is at least 18, as the number it denotes. -/
theorem withinBounds_adult : WithinBounds agedField (.str "21") ↔ BoundsTold bareInterpreter agedField (.str "21") :=
  withinBounds_iff bareInterpreter agedField _ rfl rfl ⟨by decide +kernel, by decide +kernel⟩

/-- `"nan"` passes both checks of a field with a minimum, and is not at least it. -/
theorem withinBounds_not_nan :
    validateValidationRules bareInterpreter agedField.fieldType agedField.validationRules = .ok () ∧
      Passes bareInterpreter agedField (.str "nan") ∧ ¬ WithinBounds agedField (.str "nan") := by
  refine ⟨rfl, ⟨by decide +kernel, by decide +kernel⟩, ?_⟩
  rintro ⟨number, denoted, aboveLow, _⟩
  have isNaN : (Json.str "nan").denotes? = some .nan := by decide +kernel
  cases isNaN.symm.trans denoted
  obtain ⟨bound, _, ordered⟩ := aboveLow (.int 18) rfl
  exact ordered.2.1 rfl

end SurveyPlatform.Verified

import SurveyPlatform.Python.Decimals
import SurveyPlatform.Verified.DateForms

/-! # Comparisons of dates

The validator lets a rule on a date field compare with `greater_than` and
`less_than` against a date; the evaluator converts both sides with `float`, and a
date is no number.  So such a rule is never true, which is right only where the
answer is not strictly after, or before, the rule's date
(`dateComparison_chronological_iff`).
-/

namespace SurveyPlatform.Verified

open SurveyPlatform.Library SurveyPlatform.Python SurveyPlatform.Surveys SurveyPlatform.Responses

/-- The first date is strictly before the second. -/
def Earlier (date later : Date) : Prop :=
  date.year < later.year ∨
    date.year = later.year ∧ (date.month < later.month ∨ date.month = later.month ∧ date.day < later.day)

/-- What the operator says of the answer's date and the rule's. -/
def InOrder (operator : ComparisonOperator) (date ruleDate : Date) : Prop :=
  if operator = .greaterThan then Earlier ruleDate date else Earlier date ruleDate

/-- The date in a rule's value. -/
def IsRuleDate (value : Json) (date : Date) : Prop := ∃ text, value = .str text ∧ fromIsoFormat text = some date

section

variable {py : Interpreter} {text : String} {date : Date}

/-- Four digits and a hyphen are no numeral. -/
theorem parseFloat_of_dated (dated : DatedAs text date) : parseFloat text = none := by
  obtain ⟨y₁, y₂, y₃, y₄, m₁, m₂, d₁, d₂, shape, read⟩ := dated
  obtain ⟨year, month, day⟩ := isoDate_digits read
  have plain : ∀ c ∈ [y₁, y₂, y₃, y₄, '-', m₁, m₂, '-', d₁, d₂], isNumeralChar c = true := by
    have hyphen : isNumeralChar '-' = true := by decide
    simp only [List.forall_mem_cons] at year month day
    simp only [List.forall_mem_cons, hyphen, isNumeralChar_of_digit year.1, isNumeralChar_of_digit year.2.1,
      isNumeralChar_of_digit year.2.2.1, isNumeralChar_of_digit year.2.2.2.1, isNumeralChar_of_digit month.1,
      isNumeralChar_of_digit month.2.1, isNumeralChar_of_digit day.1, isNumeralChar_of_digit day.2.1, true_and]
    nofun
  have stops : ∀ c ∈ ['-', m₁, m₂, '-', d₁, d₂].head?, isAsciiDigit c = false ∧ c ≠ '.' := by
    rintro _ ⟨⟩
    decide
  have unread := readDecimal_whole year (List.cons_ne_nil y₁ _) stops false
  have noExponent : parseExponent ['-', m₁, m₂, '-', d₁, d₂] = none := rfl
  rw [noExponent, Option.map_none] at unread
  have isText : text = signString false ++ String.ofList [y₁, y₂, y₃, y₄, '-', m₁, m₂, '-', d₁, d₂] := by
    rw [← String.toList_inj, shape, String.toList_append, String.toList_ofList]
    rfl
  rw [parseFloat_eq, isText, readNumeral_signed false (year y₁ List.mem_cons_self) plain]
  exact congrArg (Option.map Numeral.round) unread

/-- A comparison with a date is false. -/
theorem compareAnswer_dated (dated : DatedAs text date) {operator : ComparisonOperator}
    (isOrder : operator = .greaterThan ∨ operator = .lessThan) (value : Json) :
    compareAnswer py operator (.str text) value = .ok false := by
  have noNumber : (Json.str text).toFloat = .error .valueError := by
    simp [Json.toFloat, parseFloat_of_dated dated]
  obtain rfl | rfl := isOrder <;>
    simp [compareAnswer, noNumber, tryExcept, bind, Except.bind, PyExn.isValueOrType]

theorem ruleDate_of_accepted {field : Field} (isDate : field.fieldType = .date) {operator : ComparisonOperator}
    (isOrder : operator = .greaterThan ∨ operator = .lessThan) {value : Json}
    (accepted : validateOperatorValue py field operator value = .ok ()) : ∃ ruleDate, IsRuleDate value ruleDate := by
  have isString : validateDateString value = .ok () := by
    rw [← accepted]
    cases field
    cases isDate
    obtain rfl | rfl := isOrder <;> rfl
  cases value with
  | str text =>
    simp only [validateDateString] at isString
    cases read : fromIsoFormat text with
    | some ruleDate => exact ⟨ruleDate, text, rfl, read⟩
    | none => simp [read] at isString
  | _ => simp [validateDateString] at isString

end

/-- A comparison with an accepted date is chronological exactly where it has to be false. -/
theorem dateComparison_chronological_iff (py : Interpreter) (field : Field) (operator : ComparisonOperator) (value : Json)
    (answers : Dict String Json) (text : String) (date : Date) (isDate : field.fieldType = .date)
    (isOrder : operator = .greaterThan ∨ operator = .lessThan)
    (accepted : validateOperatorValue py field operator value = .ok ())
    (answered : answers.get? (fieldIdStr field.id) = some (.str text)) (dated : DatedAs text date) :
    ∃ ruleDate, IsRuleDate value ruleDate ∧
      ((evaluateCondition py ⟨field.id, operator, value⟩ answers = .ok true ↔ InOrder operator date ruleDate) ↔
        ¬ InOrder operator date ruleDate) := by
  obtain ⟨ruleDate, isRuleDate⟩ := ruleDate_of_accepted isDate isOrder accepted
  have isFalse : evaluateCondition py ⟨field.id, operator, value⟩ answers = .ok false := by
    rw [evaluateCondition_of_answered answered rfl, compareAnswer_dated dated isOrder value]
  refine ⟨ruleDate, isRuleDate, ?_⟩
  rw [isFalse]
  simp

def birthdayAnswer (text : String) : Dict String Json := Dict.empty.set "1" (.str text)

theorem dateComparison_chronological_newYear : ∃ ruleDate, IsRuleDate (.str "2024-01-01") ruleDate ∧
    ((evaluateCondition bareInterpreter ⟨1, .greaterThan, .str "2024-01-01"⟩ (birthdayAnswer "2023-06-01") = .ok true ↔
        InOrder .greaterThan ⟨2023, 6, 1⟩ ruleDate) ↔ ¬ InOrder .greaterThan ⟨2023, 6, 1⟩ ruleDate) :=
  dateComparison_chronological_iff bareInterpreter birthday .greaterThan (.str "2024-01-01") (birthdayAnswer "2023-06-01")
    "2023-06-01" ⟨2023, 6, 1⟩ rfl (Or.inl rfl) rfl rfl ⟨'2', '0', '2', '3', '0', '6', '0', '1', rfl, rfl⟩

/-- 1 June 2024 is after 1 January 2024, and the rule that asks for it is false. -/
theorem dateComparison_not_chronological :
    validateOperatorValue bareInterpreter birthday .greaterThan (.str "2024-01-01") = .ok () ∧
      DatedAs "2024-06-01" ⟨2024, 6, 1⟩ ∧ IsRuleDate (.str "2024-01-01") ⟨2024, 1, 1⟩ ∧
      InOrder .greaterThan ⟨2024, 6, 1⟩ ⟨2024, 1, 1⟩ ∧
      evaluateCondition bareInterpreter ⟨1, .greaterThan, .str "2024-01-01"⟩ (birthdayAnswer "2024-06-01") = .ok false := by
  have later : InOrder .greaterThan ⟨2024, 6, 1⟩ ⟨2024, 1, 1⟩ := by simp [InOrder, Earlier]
  exact ⟨rfl, ⟨'2', '0', '2', '4', '0', '6', '0', '1', rfl, rfl⟩, ⟨_, rfl, rfl⟩, later, by decide +kernel⟩

end SurveyPlatform.Verified

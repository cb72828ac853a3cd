import SurveyPlatform.Python.ExactNumbers
import SurveyPlatform.Verified.SubmissionSafety
import SurveyPlatform.Verified.TypeChecks

/-! # Conditions on a number field

The order operators compare doubles and `equals` and `in` compare text forms.
On numbers that are doubles the order operators are exact, and equal texts are
texts of one number, so at most one of the three comparisons is true
(`numberConditions_coherent`); `5` and `"05"` are one number with two texts.
-/

namespace SurveyPlatform.Verified

open SurveyPlatform.Library SurveyPlatform.Python SurveyPlatform.Surveys SurveyPlatform.Responses

/-- The value denotes a number that `float` represents exactly. -/
def DenotesDouble (value : Json) (number : Rat) : Prop :=
  value.denotes? = some (.ratio number) ∧ ∃ x : Binary64, x.value = number

section

variable {py : Interpreter} {field : Field} {answers : Dict String Json} {a v : Json} {p q : Rat}

section Conversions

-- the rounding must not be unfolded on a variable
attribute [local irreducible] PyFloat.ofRatio

theorem floatOfInt_of_double {n : Int} {x : Binary64} (same : x.value = n) :
    ∃ y, floatOfInt n = .ok y ∧ y.exact = .ratio n := by
  have rounds : Rounds (.ratio n) (.ofRatio (decide (n < 0)) n.natAbs 1) :=
    ⟨decide (n < 0), n.natAbs, 1, Nat.one_pos, (signedRatio_int n).symm, rfl⟩
  rw [← same] at rounds
  have isExact := rounds.exact_eq
  rw [same] at isExact
  rw [floatOfInt_eq]
  beta_reduce
  generalize PyFloat.ofRatio (decide (n < 0)) n.natAbs 1 = y at isExact
  cases y with
  | infinity negative => cases isExact
  | _ => exact ⟨_, rfl, isExact⟩

/-- `float(x)` is the number, where that is a double. -/
theorem toFloat_of_double (denoted : DenotesDouble v q) : ∃ y, v.toFloat = .ok y ∧ y.exact = .ratio q := by
  obtain ⟨denoted, x, isDouble⟩ := denoted
  cases v with
  | bool value =>
    obtain rfl : (value.toInt : Rat) = q := by simpa [Json.denotes?, Json.number?, Number.exact] using denoted
    exact floatOfInt_of_double isDouble
  | int n =>
    obtain rfl : (n : Rat) = q := by simpa [Json.denotes?, Json.number?, Number.exact] using denoted
    exact floatOfInt_of_double isDouble
  | float y => exact ⟨y, rfl, by simpa [Json.denotes?, Json.number?, Number.exact] using denoted⟩
  | str text =>
    obtain ⟨numeral, read, isNumber⟩ := Option.map_eq_some_iff.mp denoted
    have rounds := numeral.rounds
    rw [isNumber, ← isDouble] at rounds
    refine ⟨numeral.round, by simp [Json.toFloat, parseFloat_eq, read], ?_⟩
    rw [rounds.exact_eq, isDouble]
  | _ => cases denoted

/-- A text that is one of a number is a text of that number only. -/
theorem number_of_text (denoted : DenotesDouble a p) (denoted' : DenotesDouble v q)
    (parses : ∃ x, parseFloat (py.str a) = some x) (same : py.str a = py.str v) : p = q := by
  obtain ⟨x, parsed⟩ := parses
  have exact_of : ∀ {value : Json} {number : Rat}, DenotesDouble value number → py.str value = py.str a →
      x.exact = .ratio number := by
    intro value number denoted sameText
    rw [← sameText] at parsed
    obtain ⟨e, isNumber, rounds⟩ := denotes_of_parses parsed
    obtain ⟨denoted, y, rfl⟩ := denoted
    cases isNumber.symm.trans denoted
    exact rounds.exact_eq
  have ratios := (exact_of denoted rfl).symm.trans (exact_of denoted' same.symm)
  injection ratios

end Conversions

/-- The order operators compare the numbers. -/
theorem compareAnswer_order (denoted : DenotesDouble a p) (denoted' : DenotesDouble v q) :
    compareAnswer py .lessThan a v = .ok (decide (p < q)) ∧ compareAnswer py .greaterThan a v = .ok (decide (q < p)) := by
  obtain ⟨x, converted, isExact⟩ := toFloat_of_double denoted
  obtain ⟨y, converted', isExact'⟩ := toFloat_of_double denoted'
  constructor
  · simp [compareAnswer, converted, converted', tryExcept, bind, Except.bind, pure, Except.pure, PyFloat.lt_eq, isExact,
      isExact', Exact.lt]
  · simp [compareAnswer, converted, converted', tryExcept, bind, Except.bind, pure, Except.pure, PyFloat.lt_eq, isExact,
      isExact', Exact.lt]

theorem notNone_of_parses (parses : ∃ x, parseFloat (py.str a) = some x) : a.isNone = false := by
  cases a with
  | null =>
    obtain ⟨x, parsed⟩ := parses
    have noNumber : parseFloat "None" = none := by decide
    exact absurd (noNumber.symm.trans parsed) nofun
  | _ => rfl

/-- Of three comparisons that are true on smaller, on larger and only on equal numbers, one is true
unless the numbers are equal and the last one is not. -/
theorem existsUnique_operator_iff {isTrue : ComparisonOperator → Prop} {sameText : Prop}
    (less : isTrue .lessThan ↔ p < q) (greater : isTrue .greaterThan ↔ q < p) (equals : isTrue .equals ↔ sameText)
    (sameNumber : sameText → p = q) :
    (∃! operator, operator ∈ [.equals, .lessThan, .greaterThan] ∧ isTrue operator) ↔ p ≠ q ∨ sameText := by
  have cases_of : ∀ operator : ComparisonOperator, operator ∈ [.equals, .lessThan, .greaterThan] →
      operator = .equals ∨ operator = .lessThan ∨ operator = .greaterThan := by
    intro operator member
    simpa using member
  rcases lt_trichotomy p q with below | same | above
  · refine iff_of_true ⟨.lessThan, ⟨by simp, less.mpr below⟩, ?_⟩ (Or.inl below.ne)
    rintro operator ⟨member, holds⟩
    obtain rfl | rfl | rfl := cases_of operator member
    · exact absurd (sameNumber (equals.mp holds)) below.ne
    · rfl
    · exact absurd (greater.mp holds) below.not_gt
  · constructor
    · intro exactlyOne
      obtain ⟨operator, ⟨member, holds⟩, _⟩ := exactlyOne
      obtain rfl | rfl | rfl := cases_of operator member
      · exact Or.inr (equals.mp holds)
      · exact absurd same (less.mp holds).ne
      · exact absurd same (greater.mp holds).ne'
    · intro apart
      refine ⟨.equals, ⟨by simp, equals.mpr (apart.resolve_left (not_not.mpr same))⟩, ?_⟩
      rintro operator ⟨member, holds⟩
      obtain rfl | rfl | rfl := cases_of operator member
      · rfl
      · exact absurd same (less.mp holds).ne
      · exact absurd same (greater.mp holds).ne'
  · refine iff_of_true ⟨.greaterThan, ⟨by simp, greater.mpr above⟩, ?_⟩ (Or.inl above.ne')
    rintro operator ⟨member, holds⟩
    obtain rfl | rfl | rfl := cases_of operator member
    · exact absurd (sameNumber (equals.mp holds)) above.ne'
    · exact absurd (less.mp holds) above.not_gt
    · rfl

end

/-- The three comparisons with one value, and `in` with a list of values: the order operators compare
the numbers, `equals` and `in` the texts, and texts are equal only for one number.  So exactly one of
the three is true, or none, on one number with two texts. -/
theorem numberConditions_coherent (py : Interpreter) (field : Field) (answers : Dict String Json) (a v : Json) (p q : Rat)
    (items : List Json) (number : field.fieldType = .number) (answered : answers.get? (fieldIdStr field.id) = some a)
    (accepted : validateFieldType py field a (py.str a) = .ok none) (denoted : DenotesDouble a p)
    (denoted' : DenotesDouble v q) (denotedItems : ∀ item ∈ items, ∃ r, DenotesDouble item r) :
    evaluateCondition py ⟨field.id, .lessThan, v⟩ answers = .ok (decide (p < q)) ∧
      evaluateCondition py ⟨field.id, .greaterThan, v⟩ answers = .ok (decide (q < p)) ∧
      evaluateCondition py ⟨field.id, .equals, v⟩ answers = .ok (decide (py.str a = py.str v)) ∧
      (py.str a = py.str v → p = q) ∧
      ((∃! operator, operator ∈ [.equals, .lessThan, .greaterThan] ∧
        evaluateCondition py ⟨field.id, operator, v⟩ answers = .ok true) ↔ p ≠ q ∨ py.str a = py.str v) ∧
      evaluateCondition py ⟨field.id, .isIn, .list items⟩ answers = .ok (decide (∃ item ∈ items, py.str a = py.str item)) ∧
      ∀ item ∈ items, py.str a = py.str item → DenotesDouble item p := by
  have parses := (validateFieldType_number_iff number).mp accepted
  have compared : ∀ operator value, evaluateCondition py ⟨field.id, operator, value⟩ answers =
      compareAnswer py operator a value :=
    fun _ _ => evaluateCondition_of_answered answered (notNone_of_parses parses)
  obtain ⟨less, greater⟩ := @compareAnswer_order py _ _ _ _ denoted denoted'
  rw [← compared] at less greater
  have equals : evaluateCondition py ⟨field.id, .equals, v⟩ answers = .ok (decide (py.str a = py.str v)) := by
    rw [compared, compareAnswer]
    rfl
  have sameNumber := number_of_text denoted denoted' parses
  have isIn : evaluateCondition py ⟨field.id, .isIn, .list items⟩ answers =
      .ok (decide (∃ item ∈ items, py.str a = py.str item)) := by
    rw [compared]
    simp only [compareAnswer, Except.ok.injEq]
    rw [Bool.eq_iff_iff]
    simp [eq_comm]
  have itemNumber : ∀ item ∈ items, py.str a = py.str item → DenotesDouble item p := by
    intro item member same
    obtain ⟨r, denotedItem⟩ := denotedItems item member
    rwa [number_of_text denoted denotedItem parses same]
  have exactlyOne := @existsUnique_operator_iff p q
    (fun operator => evaluateCondition py ⟨field.id, operator, v⟩ answers = .ok true) (py.str a = py.str v)
    (by simp [less]) (by simp [greater]) (by simp [equals]) sameNumber
  exact ⟨less, greater, equals, sameNumber, exactlyOne, isIn, itemNumber⟩

/-! ## One number in two texts -/

theorem mul_two_pow_lt {n bits shift width : Nat} (small : n ≤ 2 ^ bits) (fits : bits + shift < width) :
    n * 2 ^ shift < 2 ^ width := by
  calc n * 2 ^ shift ≤ 2 ^ bits * 2 ^ shift := Nat.mul_le_mul_right _ small
    _ = 2 ^ (bits + shift) := (Nat.pow_add 2 bits shift).symm
    _ < 2 ^ width := Nat.pow_lt_pow_right (by omega) fits

/-- Integers of 53 bits are doubles. -/
theorem exists_double {n : Nat} (small : n ≤ 2 ^ 53) : ∃ x : Binary64, x.value = n := by
  have bounded : n * 2 ^ 1074 < 2 ^ 2098 := mul_two_pow_lt small (by omega)
  refine ⟨⟨false, n * 2 ^ 1074, spaced_mul_two_pow small, bounded⟩, ?_⟩
  have unit : (2 : Rat) ^ 1074 ≠ 0 := by positivity
  rw [Binary64.value, Binary64.signedUnits, if_neg Bool.false_ne_true, Int.cast_natCast, Nat.cast_mul, Nat.cast_pow]
  exact mul_div_cancel_right₀ _ unit

def ageAnswer (age : Json) : Dict String Json := Dict.empty.set "1" age

theorem denotes_five : DenotesDouble (.int 5) 5 ∧ DenotesDouble (.str "05") 5 ∧ DenotesDouble (.str "5") 5 := by
  have isDouble : ∃ x : Binary64, x.value = 5 := exists_double (show 5 ≤ 2 ^ 53 by omega)
  exact ⟨⟨by decide +kernel, isDouble⟩, ⟨by decide +kernel, isDouble⟩, ⟨by decide +kernel, isDouble⟩⟩

theorem numberConditions_coherent_five :
    evaluateCondition bareInterpreter ⟨1, .equals, .int 5⟩ (ageAnswer (.str "5")) = .ok true :=
  (numberConditions_coherent bareInterpreter (numberField 1 1 "Age") (ageAnswer (.str "5")) (.str "5") (.int 5) 5 5 [.int 5]
    rfl rfl (by decide +kernel) denotes_five.2.2 denotes_five.1
    (List.forall_mem_singleton.mpr ⟨5, denotes_five.1⟩)).2.2.1

/-- `"05"` is the number 5, and none of `equals 5`, `less_than 5`, `greater_than 5` and `in [5]` is true on it. -/
theorem numberConditions_not_coherent :
    validateFieldType bareInterpreter (numberField 1 1 "Age") (.str "05") "05" = .ok none ∧
      DenotesDouble (.str "05") 5 ∧ DenotesDouble (.int 5) 5 ∧
      (∀ operator ∈ [.equals, .lessThan, .greaterThan],
        validateOperatorValue bareInterpreter (numberField 1 1 "Age") operator (.int 5) = .ok () ∧
          evaluateCondition bareInterpreter ⟨1, operator, .int 5⟩ (ageAnswer (.str "05")) = .ok false) ∧
      validateOperatorValue bareInterpreter (numberField 1 1 "Age") .isIn (.list [.int 5]) = .ok () ∧
      evaluateCondition bareInterpreter ⟨1, .isIn, .list [.int 5]⟩ (ageAnswer (.str "05")) = .ok false :=
  ⟨by decide +kernel, denotes_five.2.1, denotes_five.1, by decide +kernel, by decide +kernel, by decide +kernel⟩

end SurveyPlatform.Verified

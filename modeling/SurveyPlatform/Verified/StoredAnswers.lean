import SurveyPlatform.Python.Renderings
import SurveyPlatform.Responses.Storage
import SurveyPlatform.Verified.NumberBounds
import SurveyPlatform.Verified.SetValues

/-! # Stored answers

The checks of an answer look at its `str`, and a list is stored as JSON.  All
other values are stored as they were checked; numbers and dates are never
lists, and an address stays one.  What is left are the options of a choice
field and the length and pattern rules, which the JSON text of a list has to
meet once more (`storedAnswer_passes_iff`).
-/

namespace SurveyPlatform.Verified

open SurveyPlatform.Library SurveyPlatform.Python SurveyPlatform.Surveys SurveyPlatform.Responses

/-! ## Rules on a text -/

/-- The text has the length and the pattern the rules of the field ask for. -/
structure KeepsTextRules (py : Interpreter) (field : Field) (text : String) : Prop where
  shortest : ∀ bound n, ruleOf field "min_length" = some bound → bound.number? = some (.int n) → n ≤ text.length
  longest : ∀ bound n, ruleOf field "max_length" = some bound → bound.number? = some (.int n) → text.length ≤ n
  regex : ∀ pattern, ruleOf field "regex" = some (.str pattern) → py.reMatches pattern text = true

/-- A choice field offers the text. -/
def OffersText (py : Interpreter) (field : Field) (text : String) : Prop :=
  field.fieldType.isChoice = true → ∃ offered, py.strs field.options = .ok offered ∧ text ∈ offered

/-- The JSON text of a list meets the options, the lengths and the pattern. -/
def JsonTextFits (py : Interpreter) (field : Field) (value : Json) : Prop :=
  ∀ items, value = .list items →
    OffersText py field (Json.list items).dumps ∧ KeepsTextRules py field (Json.list items).dumps

section

variable {py : Interpreter} {field : Field}

theorem ruleOf_of_falsy (falsy : field.validationRules.truthy = false) (key : String) : ruleOf field key = none := by
  cases found : ruleOf field key with
  | none => rfl
  | some bound =>
    obtain ⟨entries, isObject, _, nonempty⟩ := ruleOf_eq_some found
    cases entries with
    | nil => exact absurd rfl nonempty
    | cons =>
      rw [isObject] at falsy
      cases falsy

theorem ltNumber_of_ints {x y : Json} {m n : Int} (left : x.number? = some (.int m)) (right : y.number? = some (.int n)) :
    x.ltNumber y = .ok (decide (m < n)) := by
  rw [Json.ltNumber, left, right]
  rfl

/-- The two length rules compare integers. -/
theorem lengthRules_iff {bound : Json} (isLength : IsLength bound) {length : Nat} :
    ((Json.int length).ltNumber bound = .ok false ↔ ∀ n, bound.number? = some (.int n) → n ≤ length) ∧
      (bound.ltNumber (.int length) = .ok false ↔ ∀ n, bound.number? = some (.int n) → length ≤ n) := by
  obtain ⟨n, number⟩ := isLength
  have ofLength : (Json.int length).number? = some (.int length) := rfl
  rw [ltNumber_of_ints ofLength number, ltNumber_of_ints number ofLength]
  simp [number]

theorem regexHolds_iff {pattern text : String} (compiled : py.reCompile pattern = .ok ()) :
    ((!·) <$> py.reMatch (.str pattern) text) = .ok false ↔ py.reMatches pattern text = true := by
  simp [Interpreter.reMatch, compiled, bind, Except.bind, pure, Except.pure, Functor.map, Except.map]

/-- A field that is no number field has no other rules. -/
theorem validateRules_text_iff (accepted : validateValidationRules py field.fieldType field.validationRules = .ok ())
    (notNumber : field.fieldType.isNumeric = false) {text : String} :
    validateRules py field text = .ok none ↔ KeepsTextRules py field text := by
  cases truthy : field.validationRules.truthy with
  | false =>
    have noRule := @ruleOf_of_falsy field truthy
    refine iff_of_true (by simp [validateRules, truthy]) ⟨?_, ?_, ?_⟩ <;> simp [noRule]
  | true =>
    obtain ⟨entries, isObject, _⟩ := validateValidationRules_eq_ok accepted truthy
    have nonempty : entries ≠ [] := by
      rintro rfl
      rw [isObject] at truthy
      cases truthy
    have fits : RulesFit py field.fieldType entries := by
      rw [isObject] at accepted
      obtain fits | isNaN := (validateValidationRules_object_fits nonempty).mp accepted
      · exact fits
      · rw [isNaN.1] at notNumber
        cases notNumber
    have truthy' : (Json.object entries).truthy = true := isObject ▸ truthy
    simp only [validateRules, isObject, truthy', if_true, firstMessage_eq_none, List.forall_mem_cons, applyRule_eq_none]
    have rules : ∀ key bound, ruleOf field key = some bound ↔ entries.lookup key = some bound := by
      intro key bound
      rw [ruleOf, isObject]
    constructor
    · intro passes
      obtain ⟨shortest, longest, _, _, regex, _⟩ := passes
      refine ⟨?_, ?_, ?_⟩
      · intro bound n given number
        rw [rules] at given
        exact (lengthRules_iff (fits.shortest bound given).2).1.mp (shortest bound given) n number
      · intro bound n given number
        rw [rules] at given
        exact (lengthRules_iff (fits.longest bound given).2).2.mp (longest bound given) n number
      · intro pattern given
        rw [rules] at given
        obtain ⟨_, _, ⟨rfl⟩, compiled⟩ := fits.regex _ given
        exact (regexHolds_iff compiled).mp (regex _ given)
    · intro keeps
      refine ⟨?_, ?_, ?_, ?_, ?_, by simp⟩
      · intro bound given
        exact (lengthRules_iff (fits.shortest bound given).2).1.mpr fun n =>
          keeps.shortest bound n ((rules _ _).mpr given)
      · intro bound given
        exact (lengthRules_iff (fits.longest bound given).2).2.mpr fun n =>
          keeps.longest bound n ((rules _ _).mpr given)
      -- bounds are for numbers
      · intro bound given
        rw [(fits.low bound given).1] at notNumber
        cases notNumber
      · intro bound given
        rw [(fits.high bound given).1] at notNumber
        cases notNumber
      · intro pattern given
        obtain ⟨_, text, rfl, compiled⟩ := fits.regex pattern given
        exact (regexHolds_iff compiled).mpr (keeps.regex text ((rules _ _).mpr given))

/-! ## Lists -/

theorem AddressChars.alike {chars chars' : List Char} (address : AddressChars chars)
    (alike : Alike Ordinary chars chars') : AddressChars chars' := by
  obtain ⟨name, host, rest, nameNonempty, hostNonempty, restNonempty, plain, shape⟩ := address
  have noAt : ¬ Ordinary '@' := by decide
  have noDot : ¬ Ordinary '.' := by decide
  obtain ⟨name', domain', rfl, nameAlike, domainAlike⟩ := alike.split noAt shape
  obtain ⟨host', rest', rfl, hostAlike, restAlike⟩ := domainAlike.split noDot rfl
  have parts := nameAlike.append (hostAlike.append restAlike)
  have stays : ∀ c, Ordinary c → c ≠ '@' ∧ isSpace c = false := fun _ ordinary => ⟨ordinary.1, ordinary.2.2⟩
  exact ⟨name', host', rest', nameAlike.ne_nil nameNonempty, hostAlike.ne_nil hostNonempty,
    restAlike.ne_nil restNonempty, parts.forall_mem stays plain, rfl⟩

theorem AddressChars.noSpace {chars : List Char} (address : AddressChars chars) : ∀ c ∈ chars, isSpace c = false := by
  obtain ⟨name, host, rest, _, _, _, plain, rfl⟩ := address
  have marks : isSpace '@' = false ∧ isSpace '.' = false := by decide
  simp only [List.forall_mem_append, List.forall_mem_cons] at plain ⊢
  exact ⟨fun c member => (plain.1 c member).2, marks.1, fun c member => (plain.2.1 c member).2, marks.2,
    fun c member => (plain.2.2 c member).2⟩

/-- The text of a list ends with its bracket, so the pattern's `$` is the end of the text. -/
theorem addressChars_of_list {items : List Json} (shaped : EmailShaped (py.str (.list items))) :
    AddressChars (py.repr (.list items)).toList := by
  obtain ⟨name, host, rest, nameNonempty, hostNonempty, restNonempty, plain, chars | chars⟩ := shaped
  · exact ⟨name, host, rest, nameNonempty, hostNonempty, restNonempty, plain, chars⟩
  · have last : (py.repr (.list items)).toList.getLast? = some ']' := by
      rw [Interpreter.repr, String.toList_append]
      exact List.getLast?_concat
    have text : (py.repr (.list items)).toList = name ++ '@' :: (host ++ '.' :: rest) ++ [Char.ofNat 10] := chars
    rw [text, List.getLast?_concat] at last
    exact absurd last (by decide)

theorem emailShaped_dumps {items : List Json} (shaped : EmailShaped (py.str (.list items))) :
    EmailShaped (Json.list items).dumps := by
  have address := addressChars_of_list shaped
  obtain ⟨name, host, rest, nameNonempty, hostNonempty, restNonempty, plain, chars⟩ :=
    address.alike (repr_alike_dumps py _ address.noSpace)
  exact ⟨name, host, rest, nameNonempty, hostNonempty, restNonempty, plain, Or.inl chars⟩

/-- Dates start with a digit, lists and objects with a bracket. -/
theorem not_dateShaped_brackets {value : Json} :
    (∀ items, value = .list items → ¬ DateShaped (py.str value)) ∧
      ∀ entries, value = .object entries → ¬ DateShaped (py.str value) := by
  constructor
  · intro items isList shaped
    obtain ⟨rest, text⟩ := (str_brackets py value).1 items isList
    rw [text] at shaped
    exact absurd shaped.startsWithDigit (by decide)
  · intro entries isObject shaped
    obtain ⟨rest, text⟩ := (str_brackets py value).2 entries isObject
    rw [text] at shaped
    exact absurd shaped.startsWithDigit (by decide)

theorem offersText_iff {text : String} (choice : field.fieldType.isChoice = true) :
    OffersText py field text ↔ ∃ offered, py.strs field.options = .ok offered ∧ text ∈ offered :=
  imp_iff_right choice

theorem offersText_of_noChoice {text : String} (noChoice : field.fieldType.isChoice = false) : OffersText py field text := by
  intro choice
  rw [noChoice] at choice
  cases choice

theorem notNumeric_of_list {items : List Json}
    (passes : validateFieldType py field (.list items) (py.str (.list items)) = .ok none) :
    field.fieldType.isNumeric = false := by
  cases fieldType : field.fieldType with
  | number =>
    obtain ⟨x, parsed⟩ := (validateFieldType_number_iff fieldType).mp passes
    rw [(parseFloat_brackets py _).1 items rfl] at parsed
    cases parsed
  | _ => rfl

/-- The type check of a list that passed it as it was submitted. -/
theorem storedType_iff (notCheckbox : field.fieldType ≠ .checkbox) {items : List Json}
    (passes : validateFieldType py field (.list items) (py.str (.list items)) = .ok none) :
    validateFieldType py field (.str (Json.list items).dumps) (Json.list items).dumps = .ok none ↔
      OffersText py field (Json.list items).dumps := by
  have notNumeric := notNumeric_of_list passes
  cases fieldType : field.fieldType with
  | number =>
    rw [fieldType] at notNumeric
    cases notNumeric
  | date => exact absurd ((validateFieldType_date_iff fieldType).mp passes) (not_dateShaped_brackets.1 items rfl)
  | checkbox => exact absurd fieldType notCheckbox
  | email =>
    have noChoice : field.fieldType.isChoice = false := by simp only [fieldType, FieldType.isChoice]
    have shaped := emailShaped_dumps ((validateFieldType_email_iff fieldType).mp passes)
    exact iff_of_true ((validateFieldType_email_iff fieldType).mpr shaped) (offersText_of_noChoice noChoice)
  | dropdown =>
    have choice : field.fieldType.isChoice = true := by simp only [fieldType, FieldType.isChoice]
    rw [validateFieldType_choice_iff (Or.inl fieldType), offersText_iff choice]
  | radio =>
    have choice : field.fieldType.isChoice = true := by simp only [fieldType, FieldType.isChoice]
    rw [validateFieldType_choice_iff (Or.inr fieldType), offersText_iff choice]
  | text | textarea =>
    have noChoice : field.fieldType.isChoice = false := by simp only [fieldType, FieldType.isChoice]
    have takesAll : validateFieldType py field (.str (Json.list items).dumps) (Json.list items).dumps = .ok none := by
      simp only [validateFieldType, fieldType]
    exact iff_of_true takesAll (offersText_of_noChoice noChoice)

end

/-- The stored text of an answer passes the checks the answer has passed exactly when the answer is no
list, or the JSON text of the list meets the options, the lengths and the pattern of the field. -/
theorem storedAnswer_passes_iff (py : Interpreter) (field : Field) (value : Json)
    (notCheckbox : field.fieldType ≠ .checkbox)
    (accepted : validateValidationRules py field.fieldType field.validationRules = .ok ())
    (passes : Passes py field value) :
    Passes py field (.str (serializeValue py value)) ↔ JsonTextFits py field value := by
  cases value with
  | list items =>
    have type_iff := storedType_iff notCheckbox passes.type
    have rules_iff := @validateRules_text_iff py field accepted (notNumeric_of_list passes.type) (Json.list items).dumps
    constructor
    · intro stored
      obtain ⟨type, rules⟩ := stored
      rintro _ ⟨rfl⟩
      exact ⟨type_iff.mp type, rules_iff.mp rules⟩
    · intro fits
      obtain ⟨offered, keeps⟩ := fits items rfl
      exact ⟨type_iff.mpr offered, rules_iff.mpr keeps⟩
  | _ =>
    -- stored as it was checked
    refine iff_of_true ⟨?_, passes.rules⟩ nofun
    rw [validateFieldType_text notCheckbox _ _ _]
    exact passes.type

/-! ## Two answers -/

def shortField : Field :=
  { birthday with label := "Nickname", fieldType := .text, validationRules := .object [("max_length", .int 7)] }

/-- A list of one text with a double quote in it: seven characters as `str`, eight as JSON. -/
def quotedAnswer : Json := .list [.str (String.ofList ['a', Char.ofNat 34, 'b'])]

theorem storedAnswer_passes_short :
    Passes bareInterpreter shortField (.str (serializeValue bareInterpreter (.str "Bo"))) ↔
      JsonTextFits bareInterpreter shortField (.str "Bo") :=
  storedAnswer_passes_iff bareInterpreter shortField (.str "Bo") (by decide) rfl ⟨by decide +kernel, by decide +kernel⟩

/-- The list is within the maximum when it is checked, and beyond it as it is stored. -/
theorem storedAnswer_not_passes :
    validateValidationRules bareInterpreter shortField.fieldType shortField.validationRules = .ok () ∧
      Passes bareInterpreter shortField quotedAnswer ∧
      ¬ Passes bareInterpreter shortField (.str (serializeValue bareInterpreter quotedAnswer)) := by
  refine ⟨rfl, ⟨by decide +kernel, by decide +kernel⟩, ?_⟩
  intro stored
  have tooLong : validateRules bareInterpreter shortField (serializeValue bareInterpreter quotedAnswer) ≠ .ok none := by
    decide +kernel
  exact tooLong stored.rules

end SurveyPlatform.Verified

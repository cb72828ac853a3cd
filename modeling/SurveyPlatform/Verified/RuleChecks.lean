import SurveyPlatform.Verified.FieldRaces
import SurveyPlatform.Verified.SubmissionSafety

/-! # The rules a field may have

`validate_validation_rules` over every decoded JSON value, from one lemma for
each of its three groups: when the group leaves no error, and that it always
returns.  The bounds are compared as `min > max`, which a NaN never satisfies
(`validateValidationRules_exact_iff`).
-/

namespace SurveyPlatform.Verified

open SurveyPlatform.Python SurveyPlatform.Surveys

/-! ## What fits -/

/-- The rules a field of the type may have. -/
structure RulesFit (py : Interpreter) (fieldType : FieldType) (entries : List (String × Json)) : Prop where
  known : ∀ name ∈ entries.map Prod.fst, name ∈ validationRuleKeys
  low : ∀ bound, entries.lookup "min" = some bound → fieldType.isNumeric = true ∧ bound.isNumber = true
  high : ∀ bound, entries.lookup "max" = some bound → fieldType.isNumeric = true ∧ bound.isNumber = true
  bounds : ∀ low high, entries.lookup "min" = some low → entries.lookup "max" = some high → AtMost low high
  shortest : ∀ bound, entries.lookup "min_length" = some bound → fieldType.isText = true ∧ IsLength bound
  longest : ∀ bound, entries.lookup "max_length" = some bound → fieldType.isText = true ∧ IsLength bound
  lengths : ∀ low high, entries.lookup "min_length" = some low → entries.lookup "max_length" = some high →
    AtMost low high
  regex : ∀ pattern, entries.lookup "regex" = some pattern →
    fieldType.isText = true ∧ ∃ text, pattern = .str text ∧ py.reCompile text = .ok ()

/-- The validator lets through what fits, and answers the rest with a `ValidationError`. -/
def RulesExact (py : Interpreter) (fieldType : FieldType) (rules : Json) : Prop :=
  (validateValidationRules py fieldType rules = .ok () ↔
      rules.truthy = false ∨ ∃ entries, rules = .object entries ∧ RulesFit py fieldType entries) ∧
    ∀ exn, validateValidationRules py fieldType rules = .error exn →
      ∃ message, exn = .validationErrorDict "validation_rules" message

/-- Exactly the two bounds, of a number field, and one of them a NaN. -/
def BoundedByNaN (fieldType : FieldType) (rules : Json) : Prop :=
  fieldType.isNumeric = true ∧ ∃ entries low high, rules = .object entries ∧
    (∀ name ∈ entries.map Prod.fst, name = "min" ∨ name = "max") ∧
    entries.lookup "min" = some low ∧ entries.lookup "max" = some high ∧
    low.isNumber = true ∧ high.isNumber = true ∧ (low = .float .nan ∨ high = .float .nan)

section Rules

variable {py : Interpreter} {fieldType : FieldType}

theorem lookup_of_mem_names {entries : List (String × Json)} {name : String} (member : name ∈ entries.map Prod.fst) :
    ∃ value, entries.lookup name = some value := by
  rw [← Option.isSome_iff_exists, List.lookup_isSome_iff]
  obtain ⟨entry, member', rfl⟩ := List.mem_map.mp member
  exact ⟨entry, member', beq_self_eq_true _⟩

theorem mem_names_of_lookup {entries : List (String × Json)} {name : String} {value : Json}
    (found : entries.lookup name = some value) : name ∈ entries.map Prod.fst := by
  have isSome : (entries.lookup name).isSome = true := by rw [found]; rfl
  obtain ⟨entry, member, same⟩ := List.lookup_isSome_iff.mp isSome
  rw [eq_of_beq same]
  exact List.mem_map_of_mem member

theorem regexError_returns (onlyReError : ∀ pattern error, py.patternError? pattern = some error → error = .invalid)
    (pattern? : Option Json) (error? : Option String) : ∃ error?', regexError py fieldType pattern? error? = .ok error?' := by
  cases pattern? with
  | none => exact ⟨_, rfl⟩
  | some pattern =>
    cases text : fieldType.isText with
    | false => simp [regexError, text]
    | true =>
      cases pattern with
      | str pattern =>
        cases refused : py.patternError? pattern with
        | none => simp [regexError, text, Interpreter.reCompile, refused, tryExcept, bind, Except.bind]
        | some error =>
          cases onlyReError pattern error refused
          simp [regexError, text, Interpreter.reCompile, refused, tryExcept, bind, Except.bind, PatternError.exn]
      | _ => simp [regexError, text]

/-- A NaN among the two bounds is the one way past the comparison. -/
theorem validateValidationRules_object_fits {entries : List (String × Json)} (nonempty : entries ≠ []) :
    validateValidationRules py fieldType (.object entries) = .ok () ↔
      RulesFit py fieldType entries ∨ BoundedByNaN fieldType (.object entries) := by
  rw [validateValidationRules_object_iff nonempty]
  constructor
  · intro passes
    obtain ⟨known, ⟨low, high, bounds⟩, ⟨shortest, longest, lengths⟩, regex⟩ := passes
    have lengths' : ∀ low high, entries.lookup "min_length" = some low → entries.lookup "max_length" = some high →
        AtMost low high := fun bound bound' isLow isHigh =>
      (ltNumber_length_iff (shortest _ isLow).2 (longest _ isHigh).2).mp (lengths _ _ isLow isHigh)
    by_cases ordered : ∀ low high, entries.lookup "min" = some low → entries.lookup "max" = some high → AtMost low high
    · exact Or.inl ⟨known, low, high, ordered, shortest, longest, lengths', regex⟩
    · simp only [not_forall] at ordered
      obtain ⟨bound, bound', isLow, isHigh, unordered⟩ := ordered
      obtain ⟨numeric, lowNumber⟩ := low _ isLow
      have highNumber := (high _ isHigh).2
      have noText : ¬ fieldType.isText = true := fun text => by
        rw [not_isNumeric_of_isText text] at numeric
        cases numeric
      have isNaN := ((ltNumber_eq_false_iff lowNumber highNumber).mp (bounds _ _ isLow isHigh)).resolve_left unordered
      refine Or.inr ⟨numeric, entries, bound, bound', rfl, fun name member => ?_, isLow, isHigh, lowNumber, highNumber, isNaN⟩
      -- a number field has no other key
      obtain ⟨value, found⟩ := lookup_of_mem_names member
      have isKey := known name member
      simp only [validationRuleKeys, List.mem_cons, List.not_mem_nil, or_false] at isKey
      obtain rfl | rfl | rfl | rfl | rfl := isKey
      · exact Or.inl rfl
      · exact Or.inr rfl
      · exact absurd (shortest _ found).1 noText
      · exact absurd (longest _ found).1 noText
      · exact absurd (regex _ found).1 noText
  · intro fits
    obtain fits | isNaN := fits
    · have bounds : ∀ low high, entries.lookup "min" = some low → entries.lookup "max" = some high →
          high.ltNumber low = .ok false := fun low high isLow isHigh =>
        (ltNumber_eq_false_iff (fits.low _ isLow).2 (fits.high _ isHigh).2).mpr (Or.inl (fits.bounds _ _ isLow isHigh))
      have lengths : ∀ low high, entries.lookup "min_length" = some low → entries.lookup "max_length" = some high →
          high.ltNumber low = .ok false := fun low high isLow isHigh =>
        (ltNumber_length_iff (fits.shortest _ isLow).2 (fits.longest _ isHigh).2).mpr (fits.lengths _ _ isLow isHigh)
      exact ⟨fits.known, ⟨fits.low, fits.high, bounds⟩, ⟨fits.shortest, fits.longest, lengths⟩, fits.regex⟩
    · obtain ⟨numeric, _, low, high, same, names, isLow, isHigh, lowNumber, highNumber, isNaN⟩ := isNaN
      cases same
      have known : ∀ name ∈ entries.map Prod.fst, name ∈ validationRuleKeys := by
        intro name member
        obtain rfl | rfl := names name member <;> decide
      have absent : ∀ name, name ≠ "min" → name ≠ "max" → ∀ bound, entries.lookup name ≠ some bound := by
        intro name notMin notMax bound found
        exact (names name (mem_names_of_lookup found)).elim notMin notMax
      have bounds : high.ltNumber low = .ok false := (ltNumber_eq_false_iff lowNumber highNumber).mpr (Or.inr isNaN)
      refine ⟨known, ⟨?_, ?_, ?_⟩, ⟨?_, ?_, ?_⟩, ?_⟩
      · intro bound found
        cases isLow.symm.trans found
        exact ⟨numeric, lowNumber⟩
      · intro bound found
        cases isHigh.symm.trans found
        exact ⟨numeric, highNumber⟩
      · intro bound bound' found found'
        cases isLow.symm.trans found
        cases isHigh.symm.trans found'
        exact bounds
      · exact fun bound found => absurd found (absent _ (by decide) (by decide) bound)
      · exact fun bound found => absurd found (absent _ (by decide) (by decide) bound)
      · exact fun bound _ found => absurd found (absent _ (by decide) (by decide) bound)
      · exact fun bound found => absurd found (absent _ (by decide) (by decide) bound)

/-- Every refusal is a `ValidationError`, as long as `re.compile` only raises `re.error`. -/
theorem validateValidationRules_raises {rules : Json} {exn : PyExn}
    (onlyReError : ∀ pattern error, py.patternError? pattern = some error → error = .invalid)
    (raised : validateValidationRules py fieldType rules = .error exn) :
    ∃ message, exn = .validationErrorDict "validation_rules" message := by
  simp only [validateValidationRules] at raised
  split at raised
  · cases raised
  · cases rules with
    | object entries =>
      dsimp only at raised
      split at raised
      · exact ⟨_, (Except.error.inj raised).symm⟩
      · obtain ⟨bounds, isBounds, _⟩ := @boundsError_spec fieldType (entries.lookup "min") (entries.lookup "max")
        obtain ⟨lengths, isLengths, _⟩ := @lengthsError_spec fieldType (entries.lookup "min_length")
          (entries.lookup "max_length") bounds
        obtain ⟨regex, isRegex⟩ := @regexError_returns py fieldType onlyReError (entries.lookup "regex") lengths
        simp only [isBounds, isLengths, isRegex, bind, Except.bind] at raised
        split at raised
        · exact ⟨_, (Except.error.inj raised).symm⟩
        · cases raised
    | _ => exact ⟨_, (Except.error.inj raised).symm⟩

theorem not_rulesFit_of_boundedByNaN {entries : List (String × Json)}
    (isNaN : BoundedByNaN fieldType (.object entries)) : ¬ RulesFit py fieldType entries := by
  intro fits
  obtain ⟨_, _, low, high, same, _, isLow, isHigh, _, _, isNaN⟩ := isNaN
  cases same
  obtain ⟨x, y, lowNumber, highNumber, ordered⟩ := fits.bounds low high isLow isHigh
  have unordered : x = .float .nan ∨ y = .float .nan := by
    obtain rfl | rfl := isNaN
    · exact Or.inl (Option.some.inj lowNumber).symm
    · exact Or.inr (Option.some.inj highNumber).symm
  obtain rfl | rfl := unordered
  · cases y <;> simp [Number.lt, Number.eq, PyFloat.lt, PyFloat.eq] at ordered
  · cases x with
    | int => simp [Number.lt, Number.eq] at ordered
    | float x => cases x <;> simp [Number.lt, Number.eq, PyFloat.lt, PyFloat.eq] at ordered

end Rules

/-- `validate_validation_rules` accepts exactly the rules that fit and raises nothing but
`ValidationError`, unless the rules are two bounds of a number field and one is NaN. -/
theorem validateValidationRules_exact_iff (py : Interpreter) (fieldType : FieldType) (rules : Json)
    (onlyReError : ∀ pattern error, py.patternError? pattern = some error → error = .invalid) :
    RulesExact py fieldType rules ↔ ¬ BoundedByNaN fieldType rules := by
  have raises : ∀ exn, validateValidationRules py fieldType rules = .error exn →
      ∃ message, exn = .validationErrorDict "validation_rules" message :=
    fun _ => validateValidationRules_raises onlyReError
  rw [RulesExact, and_iff_left raises]
  cases truthy : rules.truthy with
  | false =>
    have noBounds : ¬ BoundedByNaN fieldType rules := by
      rintro ⟨_, entries, low, high, rfl, _, isLow, _⟩
      cases entries with
      | nil => cases isLow
      | cons => cases truthy
    exact iff_of_true (iff_of_true (by simp [validateValidationRules, truthy]) (Or.inl rfl)) noBounds
  | true =>
    cases rules with
    | object entries =>
      have nonempty : entries ≠ [] := by simpa [Json.truthy] using truthy
      have accepted_iff := @validateValidationRules_object_fits py fieldType entries nonempty
      simp only [accepted_iff, Bool.true_eq_false, false_or, Json.object.injEq, exists_eq_left']
      constructor
      · intro exactly isNaN
        exact not_rulesFit_of_boundedByNaN isNaN (exactly.mp (Or.inr isNaN))
      · intro noNaN
        exact or_iff_left noNaN
    | _ =>
      refine iff_of_true (iff_of_false ?_ ?_) ?_
      · simp [validateValidationRules, truthy]
      · simp
      · rintro ⟨_, _, _, _, same, _⟩
        cases same

theorem validateValidationRules_exact_text :
    RulesExact bareInterpreter .text (.object [("min_length", .int 2), ("regex", .str "a")]) ↔
      ¬ BoundedByNaN .text (.object [("min_length", .int 2), ("regex", .str "a")]) :=
  validateValidationRules_exact_iff bareInterpreter .text _ nofun

/-- `min` NaN with `max` 5 is let through. -/
theorem validateValidationRules_not_exact :
    ¬ RulesExact bareInterpreter .number (.object [("min", .float .nan), ("max", .int 5)]) := by
  intro exactly
  obtain falsy | ⟨entries, same, fits⟩ := exactly.1.mp (by decide)
  · cases falsy
  · cases same
    obtain ⟨x, y, isLow, isHigh, ordered⟩ := fits.bounds _ _ rfl rfl
    cases isLow
    cases isHigh
    obtain below | equal := ordered
    · cases below
    · cases equal

end SurveyPlatform.Verified

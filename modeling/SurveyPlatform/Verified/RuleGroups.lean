import SurveyPlatform.Surveys.Validators

/-! # Groups of validation rules

`validate_validation_rules` looks at its keys in three groups, and each hands an
error on to the next.  One lemma for each group says when it leaves no error;
the first two always return, the last where `re.compile` does.
-/

namespace SurveyPlatform.Verified

open SurveyPlatform.Python SurveyPlatform.Surveys

/-! ## Numbers -/

/-- `low <= high` between two numbers; false with a NaN. -/
def AtMost (low high : Json) : Prop :=
  ∃ x y, low.number? = some x ∧ high.number? = some y ∧ (x.lt y = true ∨ x.eq y = true)

/-- A non-negative integer. -/
def IsLength (bound : Json) : Prop := ∃ n : Nat, bound.number? = some (.int n)

theorem isNumber_iff {value : Json} : value.isNumber = true ↔ ∃ x, value.number? = some x := by
  cases value <;> simp [Json.isNumber, Json.number?]

theorem number?_eq_nan_iff {value : Json} : value.number? = some (.float .nan) ↔ value = .float .nan := by
  cases value <;> simp [Json.number?]

theorem decide_not_lt_iff {m n : Int} : decide (n < m) = false ↔ decide (m < n) = true ∨ decide (m = n) = true := by
  rw [decide_eq_false_iff_not, decide_eq_true_eq, decide_eq_true_eq, Int.not_lt, Int.le_iff_lt_or_eq]

/-- `not (x > y)` is `x <= y`, or one of the two is NaN. -/
theorem not_lt_iff {x y : Number} :
    y.lt x = false ↔ (x.lt y = true ∨ x.eq y = true) ∨ x = .float .nan ∨ y = .float .nan := by
  cases x with
  | int m =>
    cases y with
    | int n => simpa [Number.lt, Number.eq] using @decide_not_lt_iff m n
    | float y =>
      cases y with
      | nan => simp [Number.lt]
      | infinity negative => cases negative <;> simp [Number.lt, Number.eq]
      | finite y => simpa only [Number.lt, Number.eq, Number.float.injEq, reduceCtorEq, or_false] using decide_not_lt_iff
  | float x =>
    cases y with
    | int n =>
      cases x with
      | nan => simp [Number.lt]
      | infinity negative => cases negative <;> simp [Number.lt, Number.eq]
      | finite x =>
        have compared := @decide_not_lt_iff x.signedUnits (n * 2 ^ 1074)
        rw [@decide_eq_true_iff (x.signedUnits = n * 2 ^ 1074), @eq_comm Int] at compared
        simpa only [Number.lt, Number.eq, Number.float.injEq, reduceCtorEq, or_false, decide_eq_true_eq] using compared
    | float y =>
      cases x with
      | nan => cases y <;> simp [Number.lt, PyFloat.lt]
      | infinity negative =>
        cases y with
        | nan => cases negative <;> simp [Number.lt, PyFloat.lt]
        | infinity negative' => cases negative <;> cases negative' <;> simp [Number.lt, Number.eq, PyFloat.lt, PyFloat.eq]
        | finite y => cases negative <;> simp [Number.lt, Number.eq, PyFloat.lt, PyFloat.eq]
      | finite x =>
        cases y with
        | nan => simp [Number.lt, PyFloat.lt]
        | infinity negative => cases negative <;> simp [Number.lt, Number.eq, PyFloat.lt, PyFloat.eq]
        | finite y =>
          simpa only [Number.lt, Number.eq, PyFloat.lt, PyFloat.eq, Number.float.injEq, reduceCtorEq, or_false] using
            decide_not_lt_iff

theorem ltNumber_eq_false_iff {low high : Json} (lowNumber : low.isNumber = true) (highNumber : high.isNumber = true) :
    high.ltNumber low = .ok false ↔ AtMost low high ∨ low = .float .nan ∨ high = .float .nan := by
  obtain ⟨x, isLow⟩ := isNumber_iff.mp lowNumber
  obtain ⟨y, isHigh⟩ := isNumber_iff.mp highNumber
  rw [← number?_eq_nan_iff, ← number?_eq_nan_iff]
  simp [Json.ltNumber, AtMost, isLow, isHigh, not_lt_iff]

theorem ltNumber_returns {x y : Json} (left : x.isNumber = true) (right : y.isNumber = true) :
    ∃ holds, x.ltNumber y = .ok holds := by
  obtain ⟨m, isX⟩ := isNumber_iff.mp left
  obtain ⟨n, isY⟩ := isNumber_iff.mp right
  exact ⟨m.lt n, by simp [Json.ltNumber, isX, isY]⟩

theorem badLength_spec (bound : Json) : ∃ bad, badLength bound = .ok bad ∧ (bad = false ↔ IsLength bound) := by
  have natural : ∀ n : Int, 0 ≤ n ↔ ∃ m : Nat, n = m := fun n =>
    ⟨fun nonneg => ⟨n.toNat, (Int.toNat_of_nonneg nonneg).symm⟩, fun ⟨m, same⟩ => same ▸ Int.natCast_nonneg m⟩
  cases bound <;> simp [badLength, Json.isInt, Json.ltNumber, Json.number?, Number.lt, IsLength, natural]

theorem isNumber_of_isLength {bound : Json} (isLength : IsLength bound) : bound.isNumber = true := by
  obtain ⟨n, number⟩ := isLength
  exact isNumber_iff.mpr ⟨_, number⟩

/-- Lengths are never NaN. -/
theorem ltNumber_length_iff {low high : Json} (lowLength : IsLength low) (highLength : IsLength high) :
    high.ltNumber low = .ok false ↔ AtMost low high := by
  rw [ltNumber_eq_false_iff (isNumber_of_isLength lowLength) (isNumber_of_isLength highLength), ← number?_eq_nan_iff,
    ← number?_eq_nan_iff]
  obtain ⟨m, isLow⟩ := lowLength
  obtain ⟨n, isHigh⟩ := highLength
  simp [isLow, isHigh]

theorem isInt_of_isLength {bound : Json} (isLength : IsLength bound) : bound.isInt = true := by
  obtain ⟨n, number⟩ := isLength
  cases bound with
  | bool | int => rfl
  | _ => cases number

/-! ## Groups -/

/-- A smallest and a largest value, each good where it is given, and in order. -/
structure PairFits (good : Json → Prop) (min? max? : Option Json) : Prop where
  low : ∀ bound, min? = some bound → good bound
  high : ∀ bound, max? = some bound → good bound
  ordered : ∀ low high, min? = some low → max? = some high → high.ltNumber low = .ok false

section Pairs

variable {good : Json → Prop} {low high : Json}

theorem pairFits_none : PairFits good none none := ⟨nofun, nofun, nofun⟩

theorem pairFits_low : PairFits good (some low) none ↔ good low := by
  constructor
  · exact fun fits => fits.low low rfl
  · intro isGood
    refine ⟨?_, nofun, nofun⟩
    rintro _ ⟨rfl⟩
    exact isGood

theorem pairFits_high : PairFits good none (some high) ↔ good high := by
  constructor
  · exact fun fits => fits.high high rfl
  · intro isGood
    refine ⟨nofun, ?_, nofun⟩
    rintro _ ⟨rfl⟩
    exact isGood

theorem pairFits_both : PairFits good (some low) (some high) ↔ good low ∧ good high ∧ high.ltNumber low = .ok false := by
  constructor
  · exact fun fits => ⟨fits.low low rfl, fits.high high rfl, fits.ordered low high rfl rfl⟩
  · intro both
    obtain ⟨isGood, isGood', ordered⟩ := both
    refine ⟨?_, ?_, ?_⟩
    · rintro _ ⟨rfl⟩
      exact isGood
    · rintro _ ⟨rfl⟩
      exact isGood'
    · rintro _ _ ⟨rfl⟩ ⟨rfl⟩
      exact ordered

end Pairs

section Groups

variable {py : Interpreter} {fieldType : FieldType}

theorem boundsError_spec (min? max? : Option Json) : ∃ error?, boundsError fieldType min? max? = .ok error? ∧
    (error? = none ↔ PairFits (fun bound => fieldType.isNumeric = true ∧ bound.isNumber = true) min? max?) := by
  cases min? with
  | none =>
    cases max? with
    | none => exact ⟨none, rfl, iff_of_true rfl pairFits_none⟩
    | some high =>
      rw [pairFits_high]
      cases numeric : fieldType.isNumeric <;> cases number : high.isNumber <;> simp [boundsError, numeric, number]
  | some low =>
    cases max? with
    | none =>
      rw [pairFits_low]
      cases numeric : fieldType.isNumeric <;> cases number : low.isNumber <;> simp [boundsError, numeric, number]
    | some high =>
      rw [pairFits_both]
      cases numeric : fieldType.isNumeric with
      | false => simp [boundsError, numeric]
      | true =>
        cases highNumber : high.isNumber with
        | false => simp [boundsError, numeric, highNumber]
        | true =>
          cases lowNumber : low.isNumber with
          | false => simp [boundsError, numeric, highNumber, lowNumber]
          | true =>
            -- two numbers can be compared
            obtain ⟨below, compared⟩ := ltNumber_returns highNumber lowNumber
            cases below <;>
              simp [boundsError, numeric, highNumber, lowNumber, compared, bind, Except.bind, pure, Except.pure]

theorem lengthsError_spec (min? max? : Option Json) (error? : Option String) :
    ∃ error?', lengthsError fieldType min? max? error? = .ok error?' ∧ (error?' = none ↔
      error? = none ∧ PairFits (fun bound => fieldType.isText = true ∧ IsLength bound) min? max?) := by
  cases min? with
  | none =>
    cases max? with
    | none => exact ⟨error?, rfl, (and_iff_left pairFits_none).symm⟩
    | some high =>
      obtain ⟨maxBad, checked, isLength⟩ := badLength_spec high
      rw [pairFits_high, ← isLength]
      cases text : fieldType.isText <;> cases maxBad <;> simp [lengthsError, text, checked, bind, Except.bind]
  | some low =>
    obtain ⟨minBad, checked, isLength⟩ := badLength_spec low
    cases max? with
    | none =>
      rw [pairFits_low, ← isLength]
      cases text : fieldType.isText <;> cases minBad <;> simp [lengthsError, text, checked, bind, Except.bind]
    | some high =>
      obtain ⟨maxBad, checked', isLength'⟩ := badLength_spec high
      rw [pairFits_both, ← isLength, ← isLength']
      cases text : fieldType.isText with
      | false => simp [lengthsError, text]
      | true =>
        cases minBad with
        | true => cases maxBad <;> simp [lengthsError, text, checked, checked', bind, Except.bind]
        | false =>
          cases maxBad with
          | true => simp [lengthsError, text, checked, checked', bind, Except.bind]
          | false =>
            obtain ⟨below, compared⟩ :=
              ltNumber_returns (isNumber_of_isLength (isLength'.mp rfl)) (isNumber_of_isLength (isLength.mp rfl))
            -- the lengths are compared only when there is no error so far
            cases error? <;> cases below <;>
              simp [lengthsError, text, checked, checked', compared, bind, Except.bind, pure, Except.pure]

theorem regexError_eq_none_iff {pattern? : Option Json} {error? : Option String} :
    regexError py fieldType pattern? error? = .ok none ↔ error? = none ∧ ∀ pattern, pattern? = some pattern →
      fieldType.isText = true ∧ ∃ text, pattern = .str text ∧ py.reCompile text = .ok () := by
  cases pattern? with
  | none => simp [regexError]
  | some pattern =>
    cases text : fieldType.isText with
    | false => simp [regexError, text]
    | true =>
      cases pattern with
      | str pattern =>
        cases compiled : py.reCompile pattern with
        | ok => simp [regexError, text, compiled, tryExcept, bind, Except.bind]
        | error exn =>
          -- caught or not, it leaves no success
          by_cases isReError : exn = .reError <;>
            simp [regexError, text, compiled, isReError, tryExcept, bind, Except.bind]
      | _ => simp [regexError, text]

/-- The keys are known, and no group leaves an error. -/
structure GroupsFit (py : Interpreter) (fieldType : FieldType) (entries : List (String × Json)) : Prop where
  known : ∀ name ∈ entries.map Prod.fst, name ∈ validationRuleKeys
  bounds : PairFits (fun bound => fieldType.isNumeric = true ∧ bound.isNumber = true) (entries.lookup "min")
    (entries.lookup "max")
  lengths : PairFits (fun bound => fieldType.isText = true ∧ IsLength bound) (entries.lookup "min_length")
    (entries.lookup "max_length")
  regex : ∀ pattern, entries.lookup "regex" = some pattern →
    fieldType.isText = true ∧ ∃ text, pattern = .str text ∧ py.reCompile text = .ok ()

theorem validateValidationRules_object_iff {entries : List (String × Json)} (nonempty : entries ≠ []) :
    validateValidationRules py fieldType (.object entries) = .ok () ↔ GroupsFit py fieldType entries := by
  have truthy : (Json.object entries).truthy = true := by simpa [Json.truthy] using nonempty
  have unknown_iff : (entries.map Prod.fst).filter (!validationRuleKeys.contains ·) = [] ↔
      ∀ name ∈ entries.map Prod.fst, name ∈ validationRuleKeys := by
    simp [List.filter_eq_nil_iff]
  obtain ⟨bounds, isBounds, boundsFit⟩ := @boundsError_spec fieldType (entries.lookup "min") (entries.lookup "max")
  obtain ⟨lengths, isLengths, lengthsFit⟩ :=
    @lengthsError_spec fieldType (entries.lookup "min_length") (entries.lookup "max_length") bounds
  simp only [validateValidationRules, truthy, Bool.not_true, Bool.false_eq_true, if_false, isBounds, isLengths,
    bind, Except.bind]
  split
  · rename_i unknown
    exact iff_of_false nofun fun fits => unknown (unknown_iff.mpr fits.known)
  · rename_i known
    have groups_iff : regexError py fieldType (entries.lookup "regex") lengths = .ok none ↔
        GroupsFit py fieldType entries := by
      rw [regexError_eq_none_iff, lengthsFit, boundsFit]
      constructor
      · intro fits
        obtain ⟨⟨bounds, lengths⟩, regex⟩ := fits
        exact ⟨unknown_iff.mp (not_not.mp known), bounds, lengths, regex⟩
      · intro fits
        exact ⟨⟨fits.bounds, fits.lengths⟩, fits.regex⟩
    rw [← groups_iff]
    cases regexError py fieldType (entries.lookup "regex") lengths with
    | error exn => simp
    | ok error? => cases error? <;> simp

end Groups

end SurveyPlatform.Verified

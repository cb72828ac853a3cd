import SurveyPlatform.Python.ReadBack
import Mathlib.Algebra.Order.Ring.Rat

/-! # Numbers before rounding

`Exact` is a number as the text or the value says it, and `Rounds` relates it to
the double `float` makes of it.  Comparisons of Python numbers are comparisons
of exact ones; rounding keeps their order and fixes the doubles
(`Rounds.lt_eq_false`, `Rounds.exact_eq`).
-/

namespace SurveyPlatform.Python

/-! ## Exact numbers -/

inductive Exact where
  | nan
  | infinity (negative : Bool)
  | ratio (value : Rat)
  deriving DecidableEq

/-- `x < y`; false whenever one side is NaN. -/
def Exact.lt : Exact → Exact → Bool
  | .ratio x, .ratio y => decide (x < y)
  | .infinity negative, .ratio _ => negative
  | .ratio _, .infinity negative => !negative
  | .infinity negative, .infinity negative' => negative && !negative'
  | .nan, _ => false
  | _, .nan => false

/-- `x <= y`; false whenever one side is NaN. -/
def Exact.AtMost (x y : Exact) : Prop := x ≠ .nan ∧ y ≠ .nan ∧ y.lt x = false

instance (x y : Exact) : Decidable (x.AtMost y) := inferInstanceAs (Decidable (_ ∧ _ ∧ _))

def Binary64.value (x : Binary64) : Rat := x.signedUnits / 2 ^ 1074

def PyFloat.exact : PyFloat → Exact
  | .nan => .nan
  | .infinity negative => .infinity negative
  | .finite x => .ratio x.value

def Number.exact : Number → Exact
  | .int n => .ratio n
  | .float x => x.exact

/-- `± num / den` -/
def signedRatio (negative : Bool) (num den : Nat) : Rat := if negative then -(num / den : Rat) else num / den

def Numeral.exact : Numeral → Exact
  | .nan => .nan
  | .infinity negative => .infinity negative
  | .decimal negative significand exponent =>
    .ratio (signedRatio negative (significand * 10 ^ exponent.toNat) (10 ^ (-exponent).toNat))

/-- The number a value denotes; a text denotes what `float` reads in it, before rounding. -/
def Json.denotes? : Json → Option Exact
  | .str text => (readNumeral text).map Numeral.exact
  | value => value.number?.map Number.exact

/-! ## Comparisons are exact -/

theorem value_lt_iff {x y : Binary64} : x.value < y.value ↔ x.signedUnits < y.signedUnits := by
  have positive : (0 : Rat) < 2 ^ 1074 := by positivity
  rw [Binary64.value, Binary64.value, div_lt_div_iff_of_pos_right positive, Int.cast_lt]

theorem PyFloat.lt_eq (x y : PyFloat) : x.lt y = x.exact.lt y.exact := by
  cases x with
  | nan => cases y <;> rfl
  | infinity negative => cases y <;> rfl
  | finite x =>
    cases y with
    | finite y => simp only [PyFloat.lt, PyFloat.exact, Exact.lt, value_lt_iff]
    | _ => rfl

/-- Integers are compared with doubles as they are. -/
theorem Number.lt_eq (x y : Number) : x.lt y = x.exact.lt y.exact := by
  have positive : (0 : Rat) < 2 ^ 1074 := by positivity
  have cast : ∀ n : Int, (n : Rat) * 2 ^ 1074 = ((n * 2 ^ 1074 : Int) : Rat) := fun n => by push_cast; rfl
  cases x with
  | int m =>
    cases y with
    | int n => simp [Number.lt, Number.exact, Exact.lt]
    | float y =>
      cases y with
      | finite y =>
        simp only [Number.lt, Number.exact, PyFloat.exact, Exact.lt, Binary64.value, lt_div_iff₀ positive, cast,
          Int.cast_lt]
      | _ => rfl
  | float x =>
    cases y with
    | float y => simp only [Number.lt, Number.exact, PyFloat.lt_eq]
    | int n =>
      cases x with
      | finite x =>
        simp only [Number.lt, Number.exact, PyFloat.exact, Exact.lt, Binary64.value, div_lt_iff₀ positive, cast,
          Int.cast_lt]
      | _ => rfl

/-! ## Rounding -/

/-- `float` makes `x` of the number. -/
def Rounds : Exact → PyFloat → Prop
  | .nan, x => x = .nan
  | .infinity negative, x => x = .infinity negative
  | .ratio value, x => ∃ negative num den, 0 < den ∧ value = signedRatio negative num den ∧
    x = .ofRatio negative num den

theorem Numeral.rounds (numeral : Numeral) : Rounds numeral.exact numeral.round := by
  cases numeral with
  | decimal negative significand exponent => exact ⟨negative, _, _, Nat.pow_pos (by omega), rfl, rfl⟩
  | _ => rfl

theorem signedRatio_zero (negative : Bool) (den : Nat) : signedRatio negative 0 den = 0 := by
  cases negative <;> simp [signedRatio]

theorem signedRatio_int (n : Int) : signedRatio (decide (n < 0)) n.natAbs 1 = n := by
  cases Int.lt_or_le n 0 with
  | inl negative =>
    have magnitude : (n.natAbs : Int) = -n := by omega
    have cast : (n.natAbs : Rat) = -n := by rw [← Int.cast_natCast, magnitude, Int.cast_neg]
    simp [signedRatio, negative, cast]
  | inr nonneg =>
    have magnitude : (n.natAbs : Int) = n := by omega
    have cast : (n.natAbs : Rat) = n := by rw [← Int.cast_natCast, magnitude]
    simp [signedRatio, Int.not_lt.mpr nonneg, cast]

theorem rounds_floatOfInt {n : Int} {x : PyFloat} (converted : floatOfInt n = .ok x) : Rounds (.ratio n) x := by
  rw [floatOfInt_eq] at converted
  beta_reduce at converted
  have isRounded : x = PyFloat.ofRatio (decide (n < 0)) n.natAbs 1 := by
    generalize PyFloat.ofRatio (decide (n < 0)) n.natAbs 1 = rounded at converted ⊢
    cases rounded with
    | infinity negative => cases converted
    | _ => cases converted; rfl
  exact ⟨decide (n < 0), n.natAbs, 1, Nat.one_pos, (signedRatio_int n).symm, isRounded⟩

theorem roundUnits_double (x : Binary64) : roundUnits (x.units * 2 ^ 1074) (2 ^ 1074) = x.units :=
  roundUnits_of_spaced (Nat.two_pow_pos 1074) x.spaced

theorem value_eq (x : Binary64) : x.value = signedRatio x.negative x.units (2 ^ 1074) := by
  rw [Binary64.value, Binary64.signedUnits, signedRatio]
  have cast : ((2 ^ 1074 : Nat) : Rat) = 2 ^ 1074 := Nat.cast_pow 2 1074
  rw [cast]
  split
  · rw [Int.cast_neg, Int.cast_natCast, neg_div]
  · rw [Int.cast_natCast]

/-- A double is its own rounding. -/
theorem PyFloat.rounds (x : PyFloat) : Rounds x.exact x := by
  cases x with
  | finite x =>
    exact ⟨x.negative, x.units, 2 ^ 1074, Nat.two_pow_pos 1074, value_eq x, (ofRatio_eq_finite (roundUnits_double x)).symm⟩
  | _ => rfl

/-! ### Order -/

theorem signedRatio_le_iff {negative : Bool} {num den num' den' : Nat} (positive : 0 < den) (positive' : 0 < den') :
    signedRatio negative num den ≤ signedRatio negative num' den' ↔
      if negative then num' * den ≤ num * den' else num * den' ≤ num' * den := by
  have den_pos : (0 : Rat) < den := by exact_mod_cast positive
  have den_pos' : (0 : Rat) < den' := by exact_mod_cast positive'
  cases negative with
  | true =>
    simp only [signedRatio, if_true, neg_le_neg_iff, div_le_div_iff₀ den_pos' den_pos]
    exact_mod_cast Iff.rfl
  | false =>
    simp only [signedRatio, Bool.false_eq_true, if_false, div_le_div_iff₀ den_pos den_pos']
    exact_mod_cast Iff.rfl

theorem ofRatio_not_lt {negative : Bool} {num den num' den' : Nat} (positive : 0 < den) (positive' : 0 < den')
    (ordered : signedRatio negative num den ≤ signedRatio negative num' den') :
    (PyFloat.ofRatio negative num' den').lt (.ofRatio negative num den) = false := by
  rw [signedRatio_le_iff positive positive'] at ordered
  have scaled : ∀ {a b c d : Nat}, a * d ≤ c * b → 0 < b → 0 < d →
      roundUnits (a * 2 ^ 1074) b ≤ roundUnits (c * 2 ^ 1074) d := by
    intro a b c d ordered positive positive'
    apply roundUnits_mono positive positive'
    rw [Nat.mul_right_comm, Nat.mul_right_comm c]
    exact Nat.mul_le_mul_right _ ordered
  cases negative with
  | false =>
    have rounded := scaled ordered positive positive'
    simp only [PyFloat.ofRatio]
    split
    · split
      · simp only [PyFloat.lt, Binary64.signedUnits, Bool.false_eq_true, if_false, decide_eq_false_iff_not]
        omega
      · omega
    · split <;> rfl
  | true =>
    have rounded := scaled ordered positive' positive
    simp only [PyFloat.ofRatio]
    split
    · split
      · simp only [PyFloat.lt, Binary64.signedUnits, if_true, decide_eq_false_iff_not]
        omega
      · rfl
    · split
      · omega
      · rfl

theorem ofRatio_zero (negative : Bool) (den : Nat) :
    ∃ x : Binary64, PyFloat.ofRatio negative 0 den = .finite x ∧ x.units = 0 := by
  have zero : roundUnits (0 * 2 ^ 1074) den = 0 := by rw [Nat.zero_mul, roundUnits_zero]
  have bounded : roundUnits (0 * 2 ^ 1074) den < 2 ^ 2098 := by
    rw [zero]
    exact Nat.two_pow_pos 2098
  exact ⟨⟨negative, _, roundUnits_spaced _ _, bounded⟩, dif_pos bounded, zero⟩

theorem ofRatio_cases (negative : Bool) (num den : Nat) :
    (∃ x : Binary64, PyFloat.ofRatio negative num den = .finite x) ∨
      PyFloat.ofRatio negative num den = .infinity negative := by
  rw [PyFloat.ofRatio]
  split
  · exact Or.inl ⟨_, rfl⟩
  · exact Or.inr rfl

/-- A positive ratio is never rounded below a negative one. -/
theorem ofRatio_not_lt_of_signs (num den num' den' : Nat) :
    (PyFloat.ofRatio false num' den').lt (.ofRatio true num den) = false := by
  simp only [PyFloat.ofRatio]
  split
  · split
    · simp only [PyFloat.lt, Binary64.signedUnits, Bool.false_eq_true, if_false, if_true, decide_eq_false_iff_not]
      omega
    · rfl
  · split <;> rfl

theorem num_eq_zero {num den : Nat} (positive : 0 < den) (zero : (num : Rat) / den = 0) : num = 0 := by
  have nonzero : (den : Rat) ≠ 0 := by exact_mod_cast (show den ≠ 0 by omega)
  exact_mod_cast (div_eq_zero_iff.mp zero).resolve_right nonzero

theorem Exact.atMost_of_lt {e e' : Exact} (below : e.lt e' = true) : e.AtMost e' := by
  cases e with
  | nan => cases below
  | infinity negative =>
    cases e' with
    | nan => cases negative <;> cases below
    | infinity negative' => cases negative <;> cases negative' <;> simp_all [Exact.AtMost, Exact.lt]
    | ratio y => cases negative <;> simp_all [Exact.AtMost, Exact.lt]
  | ratio x =>
    cases e' with
    | nan => cases below
    | infinity negative => cases negative <;> simp_all [Exact.AtMost, Exact.lt]
    | ratio y =>
      have ordered : x < y := by simpa [Exact.lt] using below
      simp [Exact.AtMost, Exact.lt, ordered.le]

theorem PyFloat.eq_comm (x y : PyFloat) : x.eq y = y.eq x := by
  cases x with
  | nan => cases y <;> rfl
  | infinity negative =>
    cases y with
    | infinity negative' => exact Bool.beq_comm
    | _ => rfl
  | finite x =>
    cases y with
    | finite y => exact decide_eq_decide.mpr ⟨Eq.symm, Eq.symm⟩
    | _ => rfl

theorem eq_of_not_lt {x y : PyFloat} (number : x ≠ .nan) (number' : y ≠ .nan) (notBelow : x.lt y = false)
    (notAbove : y.lt x = false) : x.eq y = true := by
  cases x with
  | nan => exact absurd rfl number
  | infinity negative =>
    cases y with
    | nan => exact absurd rfl number'
    | infinity negative' => cases negative <;> cases negative' <;> simp_all [PyFloat.lt, PyFloat.eq]
    | finite y => cases negative <;> simp_all [PyFloat.lt]
  | finite x =>
    cases y with
    | nan => exact absurd rfl number'
    | infinity negative => cases negative <;> simp_all [PyFloat.lt]
    | finite y =>
      simp only [PyFloat.lt, decide_eq_false_iff_not] at notBelow notAbove
      simp only [PyFloat.eq, decide_eq_true_eq]
      omega

section Order

-- the rounding must not be unfolded on a variable
attribute [local irreducible] PyFloat.ofRatio

/-- Rounding keeps the order. -/
theorem Rounds.lt_eq_false {e e' : Exact} {x x' : PyFloat} (rounds : Rounds e x) (rounds' : Rounds e' x')
    (ordered : e.AtMost e') : x'.lt x = false := by
  obtain ⟨number, number', notBelow⟩ := ordered
  cases e with
  | nan => exact absurd rfl number
  | infinity negative =>
    cases rounds
    cases e' with
    | nan => exact absurd rfl number'
    | infinity negative' =>
      cases rounds'
      exact notBelow
    | ratio value' =>
      obtain ⟨sign, num, den, _, _, rfl⟩ := rounds'
      obtain ⟨y, isFinite⟩ | isInfinite := ofRatio_cases sign num den
      · rw [isFinite]
        exact notBelow
      · rw [isInfinite]
        cases negative with
        | false => cases notBelow
        | true => exact Bool.and_false _
  | ratio value =>
    obtain ⟨sign, num, den, positive, rfl, rfl⟩ := rounds
    cases e' with
    | nan => exact absurd rfl number'
    | infinity negative' =>
      cases rounds'
      cases negative' with
      | true => cases notBelow
      | false =>
        obtain ⟨y, isFinite⟩ | isInfinite := ofRatio_cases sign num den
        · rw [isFinite]
          rfl
        · rw [isInfinite]
          rfl
    | ratio value' =>
      obtain ⟨sign', num', den', positive', rfl, rfl⟩ := rounds'
      simp only [Exact.lt, decide_eq_false_iff_not, not_lt] at notBelow
      cases sign with
      | true =>
        cases sign' with
        | true => exact ofRatio_not_lt positive positive' notBelow
        | false => exact ofRatio_not_lt_of_signs num den num' den'
      | false =>
        cases sign' with
        | false => exact ofRatio_not_lt positive positive' notBelow
        -- both are zero
        | true =>
          have nonneg : (0 : Rat) ≤ (num : Rat) / den := div_nonneg (Nat.cast_nonneg _) (Nat.cast_nonneg _)
          have nonneg' : (0 : Rat) ≤ (num' : Rat) / den' := div_nonneg (Nat.cast_nonneg _) (Nat.cast_nonneg _)
          simp only [signedRatio, Bool.false_eq_true, if_false, if_true] at notBelow
          have zero : (num : Rat) / den = 0 := by linarith
          have zero' : (num' : Rat) / den' = 0 := by linarith
          rw [num_eq_zero positive zero, num_eq_zero positive' zero']
          obtain ⟨x, isX, units⟩ := ofRatio_zero false den
          obtain ⟨x', isX', units'⟩ := ofRatio_zero true den'
          rw [isX, isX']
          simp [PyFloat.lt, Binary64.signedUnits, units, units']

/-- A number that is a double is its own rounding, up to the sign of zero. -/
theorem Rounds.exact_eq {y : Binary64} {x : PyFloat} (rounds : Rounds (.ratio y.value) x) :
    x.exact = .ratio y.value := by
  obtain ⟨negative, num, den, positive, same, rfl⟩ := rounds
  rw [value_eq] at same ⊢
  by_cases zero : y.units = 0
  · have isZero : signedRatio y.negative y.units (2 ^ 1074) = 0 := by rw [zero, signedRatio_zero]
    rw [isZero] at same ⊢
    have numZero : num = 0 := by
      apply num_eq_zero positive
      cases negative with
      | true => simpa [signedRatio] using same.symm
      | false => simpa [signedRatio] using same.symm
    rw [numZero]
    obtain ⟨x, isX, units⟩ := ofRatio_zero negative den
    rw [isX, PyFloat.exact, Binary64.value, Binary64.signedUnits, units]
    simp
  · have y_pos : 0 < y.units := Nat.pos_of_ne_zero zero
    have unit_pos : (0 : Rat) < (2 ^ 1074 : Nat) := by exact_mod_cast Nat.two_pow_pos 1074
    have den_pos : (0 : Rat) < den := by exact_mod_cast positive
    have magnitude : (0 : Rat) < y.units / (2 ^ 1074 : Nat) := div_pos (by exact_mod_cast y_pos) unit_pos
    have nonneg : (0 : Rat) ≤ (num : Rat) / den := div_nonneg (Nat.cast_nonneg _) (Nat.cast_nonneg _)
    -- a double that is not zero has one sign
    have sameSign : y.negative = negative ∧ (y.units : Rat) / (2 ^ 1074 : Nat) = num / den := by
      cases isNegative : y.negative <;> cases negative <;>
        simp only [isNegative, signedRatio, Bool.false_eq_true, if_false, if_true, neg_inj] at same <;>
        first | exact ⟨rfl, same⟩ | linarith
    obtain ⟨rfl, ratios⟩ := sameSign
    rw [div_eq_div_iff unit_pos.ne' den_pos.ne'] at ratios
    have cross : y.units * den = num * 2 ^ 1074 := by exact_mod_cast ratios
    have rounded : roundUnits (num * 2 ^ 1074) den = y.units := by
      rw [← cross]
      exact roundUnits_of_spaced positive y.spaced
    rw [ofRatio_eq_finite rounded, PyFloat.exact, value_eq]

theorem Rounds.ne_nan {e : Exact} {x : PyFloat} (rounds : Rounds e x) (number : e ≠ .nan) : x ≠ .nan := by
  rintro rfl
  cases e with
  | nan => exact number rfl
  | infinity negative => cases rounds
  | ratio value =>
    obtain ⟨negative, num, den, _, _, isNaN⟩ := rounds
    obtain ⟨y, isFinite⟩ | isInfinite := ofRatio_cases negative num den
    · rw [isFinite] at isNaN
      cases isNaN
    · rw [isInfinite] at isNaN
      cases isNaN

/-- Doubles in order come from numbers in order, unless both have become one. -/
theorem atMost_iff_told {e e' : Exact} {x x' : PyFloat} (rounds : Rounds e x) (rounds' : Rounds e' x')
    (notBelow : x'.lt x = false) :
    e.AtMost e' ↔ e ≠ .nan ∧ e' ≠ .nan ∧ ¬ (e'.lt e = true ∧ x'.eq x = true) := by
  constructor
  · intro ordered
    obtain ⟨number, number', notAbove⟩ := ordered
    refine ⟨number, number', fun conflated => ?_⟩
    rw [conflated.1] at notAbove
    cases notAbove
  · intro told
    obtain ⟨number, number', apart⟩ := told
    refine ⟨number, number', ?_⟩
    cases above : e'.lt e with
    | false => rfl
    | true =>
      have notAbove := Rounds.lt_eq_false rounds' rounds (Exact.atMost_of_lt above)
      exact absurd ⟨above, eq_of_not_lt (rounds'.ne_nan number') (rounds.ne_nan number) notBelow notAbove⟩ apart

end Order

/-! ## Texts of values -/

theorem trimBoth_cons {dropped : Char → Bool} {c : Char} (kept : dropped c = false) (rest : List Char) :
    ∃ rest', trimBoth dropped (c :: rest) = c :: rest' := by
  have first : (c :: rest).dropWhile dropped = c :: rest := by simp [kept]
  rw [trimBoth, first, List.reverse_cons, List.dropWhile_append]
  split
  · exact ⟨[], by simp [kept]⟩
  · exact ⟨(rest.reverse.dropWhile dropped).reverse, by simp⟩

/-- A character that starts no numeral. -/
structure StartsNoNumeral (c : Char) : Prop where
  ascii : c.toNat < 127
  notSpace : isAsciiSpace c = false
  notUnderscore : c ≠ '_'
  notSign : c ≠ '-' ∧ c ≠ '+'
  notDigit : isAsciiDigit c = false
  notPoint : c ≠ '.'
  notWord : c.toLower ≠ 'i' ∧ c.toLower ≠ 'n'

theorem readNumeral_eq_none {c : Char} (starts : StartsNoNumeral c) (rest : List Char) :
    readNumeral (String.ofList (c :: rest)) = none := by
  have notWord : ∀ (negative : Bool) (rest : List Char), readSpecial negative (c :: rest) = none := by
    intro negative rest
    have differs : ∀ (word : String) (first : Char) (letters : List Char), word.toList = first :: letters →
        first = 'i' ∨ first = 'n' → String.ofList ((c :: rest).map Char.toLower) ≠ word := by
      rintro word first letters spelled letter rfl
      rw [String.toList_ofList, List.map_cons] at spelled
      rw [← (List.cons.inj spelled).1] at letter
      exact letter.elim starts.notWord.1 starts.notWord.2
    simp only [readSpecial, differs "inf" 'i' _ rfl (Or.inl rfl), differs "infinity" 'i' _ rfl (Or.inl rfl),
      differs "nan" 'n' _ rfl (Or.inr rfl), or_self, if_false]
  have notDecimal : ∀ (negative : Bool) (rest : List Char), readDecimal negative (c :: rest) = none := by
    intro negative rest
    simp [readDecimal, starts.notDigit, starts.notPoint]
  have unsigned : ∀ rest, splitSign (c :: rest) = (false, c :: rest) := by
    intro rest
    simp [splitSign, starts.notSign.1, starts.notSign.2]
  cases converted : toAsciiNumber rest with
  | none =>
    have failed : toAsciiNumber (c :: rest) = none := by
      simp only [toAsciiNumber] at converted ⊢
      simp [List.mapM_cons, starts.ascii, converted]
    simp [readNumeral, failed]
  | some ascii =>
    have kept : toAsciiNumber (c :: rest) = some (c :: ascii) := by
      simp only [toAsciiNumber] at converted ⊢
      simp [List.mapM_cons, starts.ascii, converted]
    obtain ⟨trimmed, isTrimmed⟩ := trimBoth_cons starts.notSpace ascii
    have first : (Char.ofNat 0 = '_') = False := by simp
    cases dropped : dropUnderscores c trimmed with
    | none => simp [readNumeral, kept, isTrimmed, dropUnderscores, starts.notUnderscore, first, dropped]
    | some chars =>
      simp [readNumeral, kept, isTrimmed, dropUnderscores, starts.notUnderscore, first, dropped, unsigned, notWord,
        notDecimal]

/-- The text of a list or an object starts with its bracket. -/
theorem str_brackets (py : Interpreter) (value : Json) :
    (∀ items, value = .list items → ∃ rest, py.str value = String.ofList ('[' :: rest)) ∧
      ∀ entries, value = .object entries → ∃ rest, py.str value = String.ofList (Char.ofNat 123 :: rest) := by
  have split : ∀ (c : Char) (first rest : String), first.toList = [c] →
      first ++ rest = String.ofList (c :: rest.toList) := by
    intro c first rest single
    rw [← String.toList_inj, String.toList_append, single, String.toList_ofList]
    rfl
  constructor
  · rintro items rfl
    rw [Interpreter.str, Interpreter.repr, String.append_assoc]
    · exact ⟨_, split '[' _ _ rfl⟩
    · nofun
  · rintro entries rfl
    rw [Interpreter.str, Interpreter.repr, String.append_assoc]
    · exact ⟨_, split _ _ _ rfl⟩
    · nofun

/-- Lists and objects are no numbers. -/
theorem parseFloat_brackets (py : Interpreter) (value : Json) :
    (∀ items, value = .list items → parseFloat (py.str value) = none) ∧
      ∀ entries, value = .object entries → parseFloat (py.str value) = none := by
  constructor
  · intro items isList
    obtain ⟨rest, text⟩ := (str_brackets py value).1 items isList
    have starts : StartsNoNumeral '[' :=
      ⟨by decide, by decide, by decide, by decide, by decide, by decide, by decide⟩
    rw [parseFloat_eq, text, readNumeral_eq_none starts, Option.map_none]
  · intro entries isObject
    obtain ⟨rest, text⟩ := (str_brackets py value).2 entries isObject
    have starts : StartsNoNumeral (Char.ofNat 123) :=
      ⟨by decide, by decide, by decide, by decide, by decide, by decide, by decide⟩
    rw [parseFloat_eq, text, readNumeral_eq_none starts, Option.map_none]

theorem parseFloat_bool (py : Interpreter) (flag : Bool) : parseFloat (py.str (.bool flag)) = none := by
  have noNumbers : parseFloat "True" = none ∧ parseFloat "False" = none := by decide
  cases flag with
  | true => exact noNumbers.1
  | false => exact noNumbers.2

/-- What `float` reads in the text of a value is the value, rounded. -/
theorem denotes_of_parses {py : Interpreter} {value : Json} {x : PyFloat} (parsed : parseFloat (py.str value) = some x) :
    ∃ e, value.denotes? = some e ∧ Rounds e x := by
  cases value with
  | null =>
    have noNumber : parseFloat "None" = none := by decide
    exact absurd (noNumber.symm.trans parsed) nofun
  | bool value => exact absurd ((parseFloat_bool py value).symm.trans parsed) nofun
  | int n =>
    have read : parseFloat (toString n) = some x := parsed
    rw [parseFloat_eq, readNumeral_toString, Option.map_some, Option.some.injEq] at read
    have rounds := (Numeral.decimal (decide (n < 0)) n.natAbs 0).rounds
    have isInt : (Numeral.decimal (decide (n < 0)) n.natAbs 0).exact = .ratio n := by
      rw [← signedRatio_int n]
      simp [Numeral.exact]
    rw [isInt, read] at rounds
    exact ⟨.ratio n, rfl, rounds⟩
  | float x' =>
    have read : parseFloat (reprFloat x') = some x := parsed
    rw [parseFloat_reprFloat, Option.some.injEq] at read
    rw [← read]
    exact ⟨x'.exact, rfl, x'.rounds⟩
  | str text =>
    have read : parseFloat text = some x := parsed
    rw [parseFloat_eq] at read
    obtain ⟨numeral, isNumeral, rfl⟩ := Option.map_eq_some_iff.mp read
    exact ⟨numeral.exact, by simp [Json.denotes?, isNumeral], numeral.rounds⟩
  | list items =>
    rw [(parseFloat_brackets py _).1 items rfl] at parsed
    cases parsed
  | object entries =>
    rw [(parseFloat_brackets py _).2 entries rfl] at parsed
    cases parsed

/-- `float(x)` rounds the value. -/
theorem denotes_of_toFloat {value : Json} {x : PyFloat} (converted : value.toFloat = .ok x) :
    ∃ e, value.denotes? = some e ∧ Rounds e x := by
  cases value with
  | bool value => exact ⟨.ratio value.toInt, rfl, rounds_floatOfInt converted⟩
  | int n => exact ⟨.ratio n, rfl, rounds_floatOfInt converted⟩
  | float x' =>
    rw [← Except.ok.inj converted]
    exact ⟨x'.exact, rfl, x'.rounds⟩
  | str text =>
    have parsed : parseFloat (bareInterpreter.str (.str text)) = some x := by
      simp only [Json.toFloat] at converted
      cases read : parseFloat text with
      | none => simp [read] at converted
      | some x' =>
        simp only [read, Except.ok.injEq] at converted
        rw [← converted]
        exact read
    exact denotes_of_parses parsed
  | _ => cases converted

end SurveyPlatform.Python

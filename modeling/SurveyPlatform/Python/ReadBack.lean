import SurveyPlatform.Python.Decimals
import Mathlib.Data.List.TakeWhile

/-! # What `repr` prints reads back

Seventeen digits single out a double: the nearest decimal of that length is
closer to it than half the gap to its neighbours, so the search of `repr` always
ends, and `float(repr(x))` is `x` (`parseFloat_reprFloat`).
-/

namespace SurveyPlatform.Python

/-! ## The digits of a double -/

/-- The digit before the decimal point of the printed number is there. -/
theorem decimalPoint_le {units : Nat} (nonzero : units ≠ 0) :
    2 ^ 1074 * 10 ^ (decimalPoint units - 1).toNat ≤ units * 10 ^ (1 - decimalPoint units).toNat := by
  have positive := Nat.two_pow_pos 1074
  rw [decimalPoint, decimalLength, decimalLength]
  generalize 2 ^ 1074 = one at positive ⊢
  split
  · rename_i large
    have quotient : 1 ≤ units / one := (Nat.one_le_div_iff positive).mpr large
    have someDigit : 0 < (Nat.toDigits 10 (units / one)).length := Nat.length_toDigits_pos
    have lowest : 10 ^ ((Nat.toDigits 10 (units / one)).length - 1) ≤ units / one := by
      cases Nat.eq_zero_or_pos ((Nat.toDigits 10 (units / one)).length - 1) with
      | inl single => rwa [single, Nat.pow_zero]
      | inr several =>
        have longer : ¬ (Nat.toDigits 10 (units / one)).length ≤ (Nat.toDigits 10 (units / one)).length - 1 := by omega
        rw [Nat.length_toDigits_le_iff (by omega) several] at longer
        exact Nat.not_lt.mp longer
    have left : (((Nat.toDigits 10 (units / one)).length : Int) - 1).toNat =
        (Nat.toDigits 10 (units / one)).length - 1 := by omega
    have right : (1 - ((Nat.toDigits 10 (units / one)).length : Int)).toNat = 0 := by omega
    rw [left, right, Nat.pow_zero, Nat.mul_one, Nat.mul_comm]
    exact (Nat.le_div_iff_mul_le positive).mp lowest
  · have left : (1 - ((Nat.toDigits 10 ((one + units - 1) / units - 1)).length : Int) - 1).toNat = 0 := by omega
    have right : (1 - (1 - ((Nat.toDigits 10 ((one + units - 1) / units - 1)).length : Int))).toNat =
        (Nat.toDigits 10 ((one + units - 1) / units - 1)).length := by omega
    have fits : (one + units - 1) / units - 1 < 10 ^ (Nat.toDigits 10 ((one + units - 1) / units - 1)).length :=
      (Nat.length_toDigits_le_iff (by omega) Nat.length_toDigits_pos).mp (Nat.le_refl _)
    have ceiling := Nat.div_add_mod (one + units - 1) units
    have remainder := Nat.mod_lt (one + units - 1) (Nat.pos_of_ne_zero nonzero)
    rw [left, right, Nat.pow_zero, Nat.mul_one]
    calc one ≤ units * ((one + units - 1) / units) := by omega
      _ ≤ units * 10 ^ (Nat.toDigits 10 ((one + units - 1) / units - 1)).length := Nat.mul_le_mul_left _ (by omega)

/-- Seventeen digits before the rounding of the last one. -/
theorem seventeen_digits {units : Nat} (nonzero : units ≠ 0) :
    10 ^ 16 * (2 ^ 1074 * 10 ^ (-(17 - decimalPoint units)).toNat) ≤
      units * 10 ^ (17 - decimalPoint units).toNat := by
  have lowest := decimalPoint_le nonzero
  generalize decimalPoint units = point at lowest ⊢
  generalize 2 ^ 1074 = one at lowest ⊢
  cases Int.lt_or_le 1 point with
  | inr small =>
    have exponents : (17 - point).toNat = (1 - point).toNat + 16 ∧ (point - 1).toNat = 0 ∧ (-(17 - point)).toNat = 0 := by
      omega
    obtain ⟨scale, noScale, noScale'⟩ := exponents
    rw [noScale, Nat.pow_zero, Nat.mul_one] at lowest
    rw [scale, noScale', Nat.pow_zero, Nat.mul_one, Nat.pow_add, ← Nat.mul_assoc, Nat.mul_comm (10 ^ 16)]
    exact Nat.mul_le_mul_right _ lowest
  | inl large =>
    have noScale : (1 - point).toNat = 0 := by omega
    rw [noScale, Nat.pow_zero, Nat.mul_one] at lowest
    cases Int.lt_or_le point 17 with
    | inl few =>
      have exponents : (17 - point).toNat + (point - 1).toNat = 16 ∧ (-(17 - point)).toNat = 0 := by omega
      obtain ⟨sixteen, noScale'⟩ := exponents
      rw [noScale', Nat.pow_zero, Nat.mul_one, ← sixteen, Nat.pow_add, Nat.mul_comm units]
      calc 10 ^ (17 - point).toNat * 10 ^ (point - 1).toNat * one
          = 10 ^ (17 - point).toNat * (one * 10 ^ (point - 1).toNat) := by ring
        _ ≤ 10 ^ (17 - point).toNat * units := Nat.mul_le_mul_left _ lowest
    | inr many =>
      have exponents : 16 + (-(17 - point)).toNat = (point - 1).toNat ∧ (17 - point).toNat = 0 := by omega
      obtain ⟨sixteen, noScale'⟩ := exponents
      rw [noScale', Nat.pow_zero, Nat.mul_one]
      calc 10 ^ 16 * (one * 10 ^ (-(17 - point)).toNat)
          = one * 10 ^ (16 + (-(17 - point)).toNat) := by ring
        _ ≤ units := by rwa [sixteen]

/-- The two decimals on either side, nearest first. -/
def nearestFirst (num den : Nat) : List Nat :=
  if 2 * (num % den) < den ∨ (2 * (num % den) = den ∧ num / den % 2 = 0) then [num / den, num / den + 1]
  else [num / den + 1, num / den]

def readsBack (units : Nat) (scale : Int) (n : Nat) : Bool :=
  roundUnits (n * 10 ^ (-scale).toNat * 2 ^ 1074) (10 ^ scale.toNat) == units

theorem shortestCandidate_eq (units : Nat) (point : Int) (digits : Nat) : shortestCandidate units point digits =
    (nearestFirst (units * 10 ^ ((digits : Int) - point).toNat)
      (2 ^ 1074 * 10 ^ (-((digits : Int) - point)).toNat)).find? (readsBack units (digits - point)) := rfl

/-- The first of the two is within half a step. -/
theorem nearestFirst_near (num : Nat) {den : Nat} (positive : 0 < den) :
    ∃ first rest, nearestFirst num den = first :: rest ∧ 2 * |((num : Nat) : Int) - (first * den : Nat)| ≤ den := by
  have parts := Nat.div_add_mod num den
  have remainder := Nat.mod_lt num positive
  rw [Nat.mul_comm] at parts
  unfold nearestFirst
  split
  · refine ⟨_, _, rfl, ?_⟩
    rw [abs_of_nonneg (by omega)]
    omega
  · have next : (num / den + 1) * den = num / den * den + den := Nat.succ_mul _ _
    refine ⟨_, _, rfl, ?_⟩
    rw [abs_of_nonpos (by omega)]
    omega

/-- Seventeen digits read back. -/
theorem shortestCandidate_seventeen {units : Nat} (nonzero : units ≠ 0) (spaced : Spaced units) :
    ∃ n, shortestCandidate units (decimalPoint units) 17 = some n := by
  have digits := seventeen_digits nonzero
  have positive := Nat.mul_pos (Nat.two_pow_pos 1074) (Nat.pow_pos (n := (-(17 - decimalPoint units)).toNat) (show 0 < 10 by omega))
  rw [shortestCandidate_eq]
  obtain ⟨first, rest, isFirst, near⟩ := nearestFirst_near (units * 10 ^ (17 - decimalPoint units).toNat) positive
  have reads : readsBack units (17 - decimalPoint units) first = true := by
    rw [readsBack, beq_iff_eq]
    apply roundUnits_of_near (Nat.pow_pos (by omega)) spaced
    have regroup : first * 10 ^ (-(17 - decimalPoint units)).toNat * 2 ^ 1074 =
        first * (2 ^ 1074 * 10 ^ (-(17 - decimalPoint units)).toNat) := by
      rw [Nat.mul_assoc, Nat.mul_comm (10 ^ _)]
    rw [regroup]
    generalize 2 ^ 1074 * 10 ^ (-(17 - decimalPoint units)).toNat = den at digits near ⊢
    generalize units * 10 ^ (17 - decimalPoint units).toNat = num at digits near ⊢
    have digits' : (10 : Int) ^ 16 * den ≤ num := by exact_mod_cast digits
    omega
  refine ⟨first, ?_⟩
  have asCast : ((17 : Nat) : Int) = 17 := rfl
  rw [asCast, isFirst, List.find?_cons, reads]

theorem roundUnits_zero (den : Nat) : roundUnits 0 den = 0 := by simp [roundUnits, roundHalfEven]

theorem shortestDigits_of_found {units digits n : Nat} (found : ((List.range 17).findSome? fun k =>
    shortestCandidate units (decimalPoint units) (k + 1) |>.map (k + 1, ·)) = some (digits, n)) :
    shortestDigits units = (((Nat.toDigits 10 n).reverse.dropWhile (· = '0')).reverse,
      decimalPoint units + ((Nat.toDigits 10 n).length - digits : Int)) := by
  unfold shortestDigits
  generalize decimalPoint units = point at found ⊢
  simp only [found]

/-- The digits of `repr` are those of a decimal that reads back. -/
theorem shortestDigits_spec {units : Nat} (nonzero : units ≠ 0) (spaced : Spaced units) : ∃ n scale,
    readsBack units scale n = true ∧ (shortestDigits units).1 ≠ [] ∧
      (∀ c ∈ (shortestDigits units).1, isAsciiDigit c = true) ∧
      (digitsValue (shortestDigits units).1 : Rat) * 10 ^ ((shortestDigits units).2 - (shortestDigits units).1.length) =
        n * 10 ^ (-scale) := by
  cases search : (List.range 17).findSome? fun k =>
      shortestCandidate units (decimalPoint units) (k + 1) |>.map (k + 1, ·) with
  | none =>
    obtain ⟨n, found⟩ := shortestCandidate_seventeen nonzero spaced
    have missing := List.findSome?_eq_none_iff.mp search 16 (by decide)
    rw [found] at missing
    cases missing
  | some found =>
    obtain ⟨k, _, candidate⟩ := List.exists_of_findSome?_eq_some search
    obtain ⟨n, isCandidate, rfl⟩ := Option.map_eq_some_iff.mp candidate
    rw [shortestCandidate_eq] at isCandidate
    have reads := List.find?_some isCandidate
    -- the zeros at the end are dropped, and the point stays where it is
    have trailing := @List.takeWhile_append_dropWhile Char (· = '0') (Nat.toDigits 10 n).reverse
    generalize kept : (Nat.toDigits 10 n).reverse.dropWhile (· = '0') = rest at trailing
    obtain ⟨zeros, isZeros⟩ : ∃ zeros, (Nat.toDigits 10 n).reverse.takeWhile (· = '0') = List.replicate zeros '0' := by
      refine ⟨_, List.eq_replicate_of_mem fun c member => ?_⟩
      simpa using List.mem_takeWhile_imp member
    have shape : Nat.toDigits 10 n = rest.reverse ++ List.replicate zeros '0' := by
      rw [isZeros] at trailing
      rw [← List.reverse_inj, ← trailing]
      simp
    have value : n = digitsValue rest.reverse * 10 ^ zeros := by
      rw [← digitsValue_append_zeros, ← shape, digitsValue_toDigits]
    have result := shortestDigits_of_found search
    rw [kept] at result
    have someDigit : rest.reverse ≠ [] := by
      intro empty
      rw [empty] at value
      -- zero would read back as zero
      have zero : n = 0 := by simpa [digitsValue] using value
      rw [zero, readsBack, beq_iff_eq, Nat.zero_mul, Nat.zero_mul] at reads
      exact nonzero (reads.symm.trans (roundUnits_zero _))
    refine ⟨n, (k + 1 : Nat) - decimalPoint units, reads, ?_⟩
    rw [result]
    refine ⟨someDigit, fun c member => isAsciiDigit_toDigits n c (by rw [shape]; exact List.mem_append_left _ member), ?_⟩
    have length : ((Nat.toDigits 10 n).length : Int) = rest.reverse.length + zeros := by
      rw [shape, List.length_append, List.length_replicate]
      rfl
    have exponent : decimalPoint units + ((Nat.toDigits 10 n).length - ((k + 1 : Nat) : Int)) - rest.reverse.length =
        zeros + -(((k + 1 : Nat) : Int) - decimalPoint units) := by omega
    have ten : (10 : Rat) ≠ 0 := by norm_num
    dsimp only
    have cast : (n : Rat) = digitsValue rest.reverse * 10 ^ zeros := by exact_mod_cast value
    rw [exponent, zpow_add₀ ten, zpow_natCast, ← mul_assoc, ← cast]

/-! ## Round trips -/

/-- A decimal as a quotient of two integers. -/
theorem scaled_eq (significand : Nat) (exponent : Int) :
    (significand : Rat) * 10 ^ exponent = (significand * 10 ^ exponent.toNat : Nat) / (10 ^ (-exponent).toNat : Nat) := by
  cases Int.le_total 0 exponent with
  | inl nonneg =>
    obtain ⟨count, rfl⟩ := Int.eq_ofNat_of_zero_le nonneg
    have none : (-(count : Int)).toNat = 0 := by omega
    rw [none, Int.toNat_natCast, zpow_natCast]
    simp
  | inr nonpos =>
    obtain ⟨count, rfl⟩ := Int.exists_eq_neg_ofNat nonpos
    have none : (-(count : Int)).toNat = 0 := by omega
    rw [none, neg_neg, Int.toNat_natCast, zpow_neg, zpow_natCast]
    simp [div_eq_mul_inv]

theorem ofRatio_eq_finite {x : Binary64} {num den : Nat} (rounded : roundUnits (num * 2 ^ 1074) den = x.units) :
    PyFloat.ofRatio x.negative num den = .finite x := by
  obtain ⟨negative, units, spaced, bounded⟩ := x
  subst rounded
  exact dif_pos bounded

/-- `float(repr(x))` is `x`. -/
theorem parseFloat_reprFloat (x : PyFloat) : parseFloat (reprFloat x) = some x := by
  cases x with
  | nan => rfl
  | infinity negative => cases negative <;> rfl
  | finite x =>
    by_cases zero : x.units = 0
    · obtain ⟨negative, units, spaced, bounded⟩ := x
      cases zero
      have read : readNumeral (signString negative ++ "0.0") = some (.decimal negative 0 (-1)) := by
        cases negative <;> decide +kernel
      have rounded : roundUnits (0 * 10 ^ Int.toNat (-1) * 2 ^ 1074) (10 ^ (- -1 : Int).toNat) = 0 := by
        rw [Nat.zero_mul, Nat.zero_mul]
        exact roundUnits_zero _
      rw [parseFloat_eq, reprFloat, if_pos rfl, read, Option.map_some, Numeral.round]
      exact congrArg some (@ofRatio_eq_finite ⟨negative, 0, spaced, bounded⟩ _ _ rounded)
    · obtain ⟨n, scale, reads, nonempty, areDigits, value⟩ := shortestDigits_spec zero x.spaced
      rw [parseFloat_eq, reprFloat_finite zero]
      generalize (shortestDigits x.units).1 = digits at nonempty areDigits value ⊢
      generalize (shortestDigits x.units).2 = point at value ⊢
      obtain ⟨significand, exponent, read, value'⟩ := readDecimal_printedDigits areDigits nonempty x.negative point
      have plain := printedDigits_plain areDigits point
      obtain ⟨c, rest, isPrinted, digit⟩ := printedDigits_head areDigits nonempty point
      rw [isPrinted] at read plain ⊢
      rw [readNumeral_signed x.negative digit plain, read]
      have same : (significand : Rat) * 10 ^ exponent = n * 10 ^ (-scale) := value'.trans value
      have positive : ∀ exponent : Nat, ((10 ^ exponent : Nat) : Rat) ≠ 0 := fun exponent => by positivity
      rw [scaled_eq, scaled_eq, div_eq_div_iff (positive _) (positive _), neg_neg] at same
      have same' : significand * 10 ^ exponent.toNat * 10 ^ scale.toNat =
          n * 10 ^ (-scale).toNat * 10 ^ (-exponent).toNat := by exact_mod_cast same
      rw [readsBack, beq_iff_eq] at reads
      have rounded : roundUnits (significand * 10 ^ exponent.toNat * 2 ^ 1074) (10 ^ (-exponent).toNat) = x.units := by
        rw [← reads]
        apply roundUnits_congr (Nat.pow_pos (by omega)) (Nat.pow_pos (by omega))
        rw [Nat.mul_right_comm, same', Nat.mul_right_comm]
      rw [Option.map_some, Numeral.round, ofRatio_eq_finite rounded]

end SurveyPlatform.Python

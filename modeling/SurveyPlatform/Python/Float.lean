import SurveyPlatform.Python.Text
import Mathlib.Data.Nat.Log
import Mathlib.Tactic.Common
import Mathlib.Tactic.Ring

/-! # Python floats

Binary64 without bit patterns: every finite double is an integer number of units
of `2⁻¹⁰⁷⁴`, so order is the order of integers and rounding is a division with
remainder.  `Binary64` carries the proof that its count of units is one of
those the format has; `roundUnits` is IEEE rounding to nearest, ties to even,
and `roundUnits_spaced` the proof that it lands on the format.

`parseFloat` is `float(s)` (spaces, digits of any script, underscores between
digits, `inf` and `nan`), `reprFloat` the shortest decimal that reads back.
-/

namespace SurveyPlatform.Python

/-! ## The format -/

/-- At most 53 significant bits: the spacing of doubles near `units` divides it. -/
def Spaced (units : Nat) : Prop := 2 ^ (units.log2 - 52) ∣ units

instance (units : Nat) : Decidable (Spaced units) := by unfold Spaced; infer_instance

structure Binary64 where
  negative : Bool
  units : Nat
  spaced : Spaced units
  bounded : units < 2 ^ 2098
  deriving DecidableEq

inductive PyFloat where
  | nan
  | infinity (negative : Bool)
  | finite (x : Binary64)
  deriving DecidableEq

def roundHalfEven (num den : Nat) : Nat :=
  let q := num / den
  let r := num % den
  if 2 * r > den ∨ (2 * r = den ∧ q % 2 = 1) then q + 1 else q

/-- The count of units nearest to `num / den` units, before the overflow test. -/
def roundUnits (num den : Nat) : Nat :=
  let shift := (num / den).log2 - 52
  roundHalfEven num (den * 2 ^ shift) * 2 ^ shift

theorem roundHalfEven_le (num den : Nat) : roundHalfEven num den ≤ num / den + 1 := by
  unfold roundHalfEven
  dsimp only
  split <;> omega

theorem spaced_mul_two_pow {significand shift : Nat} (bounded : significand ≤ 2 ^ 53) :
    Spaced (significand * 2 ^ shift) := by
  unfold Spaced
  cases Nat.eq_zero_or_pos significand with
  | inl zero => simp [zero]
  | inr positive =>
    have nonzero : significand * 2 ^ shift ≠ 0 :=
      Nat.mul_ne_zero (by omega) (Nat.two_pow_pos shift).ne'
    cases Nat.lt_or_eq_of_le bounded with
    -- fewer than 53 bits: the spacing divides the power of two
    | inl below =>
      have small : significand * 2 ^ shift < 2 ^ (53 + shift) := by
        rw [Nat.pow_add]
        exact Nat.mul_lt_mul_of_pos_right below (Nat.two_pow_pos shift)
      have exponent : (significand * 2 ^ shift).log2 - 52 ≤ shift := by
        have := (Nat.log2_lt nonzero).mpr small
        omega
      exact (Nat.pow_dvd_pow 2 exponent).trans (Nat.dvd_mul_left _ _)
    -- rounding up may reach the next power of two, which needs one bit
    | inr top =>
      subst top
      rw [← Nat.pow_add, Nat.log2_two_pow]
      exact Nat.pow_dvd_pow 2 (by omega)

/-- The shift leaves at most 53 bits of the quotient. -/
theorem shifted_lt (num den : Nat) : num / (den * 2 ^ ((num / den).log2 - 52)) < 2 ^ 53 := by
  rw [← Nat.div_div_eq_div_mul]
  apply Nat.div_lt_of_lt_mul
  rw [← Nat.pow_add]
  cases Nat.eq_zero_or_pos (num / den) with
  | inl zero => rw [zero]; exact Nat.two_pow_pos _
  | inr positive =>
    exact (Nat.log2_lt (by omega)).mp (by omega)

/-- Rounding lands on the format. -/
theorem roundUnits_spaced (num den : Nat) : Spaced (roundUnits num den) := by
  unfold roundUnits
  apply spaced_mul_two_pow
  have quotient := shifted_lt num den
  have rounded := roundHalfEven_le num (den * 2 ^ ((num / den).log2 - 52))
  omega

/-- The double nearest to `± num / den`; beyond the range it is an infinity. -/
def PyFloat.ofRatio (negative : Bool) (num den : Nat) : PyFloat :=
  if bounded : roundUnits (num * 2 ^ 1074) den < 2 ^ 2098 then
    .finite ⟨negative, roundUnits (num * 2 ^ 1074) den, roundUnits_spaced _ _, bounded⟩
  else .infinity negative

/-! ## Overflow of an integer -/

theorem le_roundUnits {num bits : Nat} (large : 2 ^ bits ≤ num) : 2 ^ bits ≤ roundUnits num 1 := by
  have nonzero : num ≠ 0 := by
    have := Nat.two_pow_pos bits
    omega
  have exponent : bits ≤ num.log2 := (Nat.le_log2 nonzero).mpr large
  have floor : num / 2 ^ (num.log2 - 52) ≤ roundHalfEven num (2 ^ (num.log2 - 52)) := by
    unfold roundHalfEven
    dsimp only
    split <;> omega
  have quotient : 2 ^ (num.log2 - (num.log2 - 52)) ≤ num / 2 ^ (num.log2 - 52) := by
    rw [Nat.le_div_iff_mul_le (Nat.two_pow_pos _), ← Nat.pow_add]
    have := (Nat.le_log2 nonzero).mp (Nat.le_refl num.log2)
    rwa [show num.log2 - (num.log2 - 52) + (num.log2 - 52) = num.log2 by omega]
  unfold roundUnits
  simp only [Nat.div_one, Nat.one_mul]
  calc 2 ^ bits ≤ 2 ^ num.log2 := Nat.pow_le_pow_right (by omega) exponent
    _ = 2 ^ (num.log2 - (num.log2 - 52)) * 2 ^ (num.log2 - 52) := by
        rw [← Nat.pow_add]
        congr 1
        omega
    _ ≤ roundHalfEven num (2 ^ (num.log2 - 52)) * 2 ^ (num.log2 - 52) :=
        Nat.mul_le_mul_right _ (quotient.trans floor)

theorem roundUnits_le {num bits : Nat} (bound : 52 ≤ bits) (small : num < 2 ^ (bits + 1)) :
    roundUnits num 1 ≤ 2 ^ (bits + 1) := by
  unfold roundUnits
  simp only [Nat.div_one, Nat.one_mul]
  have exponent : num.log2 ≤ bits := by
    cases Nat.eq_zero_or_pos num with
    | inl zero => simp [zero]
    | inr positive =>
      have := (Nat.log2_lt (by omega)).mpr small
      omega
  have quotient : num / 2 ^ (num.log2 - 52) < 2 ^ 53 := by simpa using shifted_lt num 1
  have rounded := roundHalfEven_le num (2 ^ (num.log2 - 52))
  calc roundHalfEven num (2 ^ (num.log2 - 52)) * 2 ^ (num.log2 - 52)
      ≤ 2 ^ 53 * 2 ^ (bits - 52) := Nat.mul_le_mul (by omega) (Nat.pow_le_pow_right (by omega) (by omega))
    _ = 2 ^ (bits + 1) := by
        rw [← Nat.pow_add]
        congr 1
        omega

theorem roundHalfEven_mul_right (num den : Nat) {scale : Nat} (positive : 0 < scale) :
    roundHalfEven (num * scale) (den * scale) = roundHalfEven num den := by
  unfold roundHalfEven
  simp only [Nat.mul_div_mul_right _ _ positive, Nat.mul_mod_mul_right]
  have more : 2 * (num % den * scale) > den * scale ↔ 2 * (num % den) > den := by
    rw [← Nat.mul_assoc]
    exact Nat.mul_lt_mul_right positive
  have tie : 2 * (num % den * scale) = den * scale ↔ 2 * (num % den) = den := by
    rw [← Nat.mul_assoc]
    exact Nat.mul_left_inj (by omega)
  simp only [more, tie]

/-- Rounding to `2 ^ 53` steps of `2 * half` ends below the last one. -/
theorem roundHalfEven_lt_iff {n half : Nat} (positive : 0 < half) (bounded : n < 2 ^ 53 * (2 * half)) :
    roundHalfEven n (2 * half) < 2 ^ 53 ↔ n < (2 ^ 54 - 1) * half := by
  have parts := Nat.div_add_mod n (2 * half)
  have remainder := Nat.mod_lt n (show 0 < 2 * half by omega)
  have quotient : n / (2 * half) < 2 ^ 53 := Nat.div_lt_of_lt_mul (by rwa [Nat.mul_comm])
  unfold roundHalfEven
  dsimp only
  cases Nat.lt_or_eq_of_le (show n / (2 * half) ≤ 2 ^ 53 - 1 by omega) with
  | inl below =>
    have product := Nat.mul_le_mul_left (2 * half) (show n / (2 * half) ≤ 2 ^ 53 - 2 by omega)
    have left : (if 2 * (n % (2 * half)) > 2 * half ∨ (2 * (n % (2 * half)) = 2 * half ∧ n / (2 * half) % 2 = 1) then
        n / (2 * half) + 1 else n / (2 * half)) < 2 ^ 53 := by
      split <;> omega
    exact iff_of_true left (by omega)
  | inr last =>
    rw [last] at parts ⊢
    split <;> omega

/-- With `a + u + 1` bits below the leading 53, an integer of `2 ^ u` units is
rounded past them from half a step below the next power of two. -/
theorem roundUnits_lt_iff (n a u : Nat) :
    roundUnits (n * 2 ^ u) 1 < 2 ^ (54 + a + u) ↔ n < (2 ^ 54 - 1) * 2 ^ a := by
  have low : 2 ^ 53 * 2 ^ a * 2 ^ u = 2 ^ (53 + a + u) := by rw [← Nat.pow_add, ← Nat.pow_add]
  have high : 2 ^ 54 * 2 ^ a * 2 ^ u = 2 ^ (54 + a + u) := by rw [← Nat.pow_add, ← Nat.pow_add]
  have spacing : 2 * 2 ^ a * 2 ^ u = 2 ^ (53 + a + u - 52) := by
    rw [← Nat.pow_succ', ← Nat.pow_add]
    congr 1
    omega
  have format : 2 ^ 53 * 2 ^ (53 + a + u - 52) = 2 ^ (54 + a + u) := by
    rw [← Nat.pow_add]
    congr 1
    omega
  have positive := Nat.two_pow_pos a
  have unit := Nat.two_pow_pos u
  cases Nat.lt_or_ge n (2 ^ 53 * 2 ^ a) with
  | inl small =>
    have below : n * 2 ^ u < 2 ^ (52 + a + u + 1) := by
      rw [show 52 + a + u + 1 = 53 + a + u by omega, ← low]
      exact Nat.mul_lt_mul_of_pos_right small unit
    have rounded := roundUnits_le (by omega) below
    have next : 2 ^ (52 + a + u + 1) < 2 ^ (54 + a + u) := Nat.pow_lt_pow_right (by omega) (by omega)
    exact iff_of_true (Nat.lt_of_le_of_lt rounded next) (by omega)
  | inr least =>
    cases Nat.lt_or_ge n (2 ^ 54 * 2 ^ a) with
    | inr large =>
      have above : 2 ^ (54 + a + u) ≤ n * 2 ^ u := by
        rw [← high]
        exact Nat.mul_le_mul_right _ large
      exact iff_of_false (Nat.not_lt.mpr (le_roundUnits above)) (by omega)
    | inl top =>
      -- one binade is left, and its spacing is `2 ^ (a + 1)`
      have exponent : (n * 2 ^ u).log2 = 53 + a + u := by
        have lower : 2 ^ (53 + a + u) ≤ n * 2 ^ u := by
          rw [← low]
          exact Nat.mul_le_mul_right _ least
        have upper : n * 2 ^ u < 2 ^ (53 + a + u + 1) := by
          rw [show 53 + a + u + 1 = 54 + a + u by omega, ← high]
          exact Nat.mul_lt_mul_of_pos_right top unit
        have nonzero : n * 2 ^ u ≠ 0 := (Nat.lt_of_lt_of_le (Nat.two_pow_pos _) lower).ne'
        exact (Nat.log2_eq_iff nonzero).mpr ⟨lower, upper⟩
      have rounded : roundUnits (n * 2 ^ u) 1 = roundHalfEven n (2 * 2 ^ a) * 2 ^ (53 + a + u - 52) := by
        unfold roundUnits
        simp only [Nat.div_one, exponent, Nat.one_mul]
        rw [← spacing, roundHalfEven_mul_right _ _ unit]
      rw [rounded, ← format, Nat.mul_lt_mul_right (Nat.two_pow_pos _)]
      exact roundHalfEven_lt_iff positive (by omega)

/-- `float(n)` overflows from halfway past the largest double on. -/
theorem ofRatio_one_eq_infinity {negative : Bool} {n : Nat} :
    PyFloat.ofRatio negative n 1 = .infinity negative ↔ (2 ^ 54 - 1) * 2 ^ 970 ≤ n := by
  have bound := roundUnits_lt_iff n 970 1074
  rw [show 54 + 970 + 1074 = 2098 from rfl] at bound
  unfold PyFloat.ofRatio
  split
  · rename_i bounded
    simp only [reduceCtorEq, false_iff, Nat.not_le]
    exact bound.mp bounded
  · rename_i unbounded
    simp only [true_iff]
    exact Nat.not_lt.mp fun small => unbounded (bound.mpr small)

theorem PyFloat.sign_of_ofRatio {negative sign : Bool} {num den : Nat}
    (infinite : PyFloat.ofRatio negative num den = .infinity sign) : sign = negative := by
  unfold PyFloat.ofRatio at infinite
  split at infinite
  · cases infinite
  · cases infinite; rfl

/-! ## Order -/

def Binary64.signedUnits (x : Binary64) : Int := if x.negative then -x.units else x.units

/-- `x < y`; false whenever one side is NaN. -/
def PyFloat.lt : PyFloat → PyFloat → Bool
  | .finite x, .finite y => decide (x.signedUnits < y.signedUnits)
  | .infinity negative, .finite _ => negative
  | .finite _, .infinity negative => !negative
  | .infinity negative, .infinity negative' => negative && !negative'
  | .nan, _ => false
  | _, .nan => false

def PyFloat.eq : PyFloat → PyFloat → Bool
  | .finite x, .finite y => decide (x.signedUnits = y.signedUnits)
  | .infinity negative, .infinity negative' => negative == negative'
  | _, _ => false

/-! ## `float(s)` -/

/-- Digits of any script become ASCII and other spaces blanks; `none` on any other non-ASCII. -/
def toAsciiNumber (chars : List Char) : Option (List Char) :=
  chars.mapM fun c =>
    if c.toNat < 127 then some c
    else if isSpace c then some ' '
    else (digitValue? c).map fun d => Char.ofNat (48 + d)

def isAsciiSpace (c : Char) : Bool := (9 ≤ c.toNat && c.toNat ≤ 13) || c.toNat == 32

/-- Underscores are dropped, and must stand between two digits. -/
def dropUnderscores : Char → List Char → Option (List Char)
  | previous, [] => if previous = '_' then none else some []
  | previous, c :: rest =>
    if c = '_' then if isAsciiDigit previous then dropUnderscores c rest else none
    else if previous = '_' && !isAsciiDigit c then none
    else (dropUnderscores c rest).map (c :: ·)

def splitSign : List Char → Bool × List Char
  | '-' :: rest => (true, rest)
  | '+' :: rest => (false, rest)
  | chars => (false, chars)

def digitsValue (digits : List Char) : Nat := digits.foldl (fun n c => 10 * n + asciiDigitValue c) 0

/-- The exponent part: empty, or `e` with a signed run of digits up to the end. -/
def parseExponent : List Char → Option Int
  | [] => some 0
  | e :: rest =>
    if e = 'e' ∨ e = 'E' then
      let (negative, digits) := splitSign rest
      if digits ≠ [] ∧ digits.all isAsciiDigit then
        some (if negative then -(digitsValue digits : Int) else digitsValue digits)
      else none
    else none

/-- `digits[.digits][e±digits]` with at least one digit before the exponent. -/
def parseDecimal (negative : Bool) (chars : List Char) : Option PyFloat :=
  let (whole, afterWhole) := chars.span isAsciiDigit
  let (fraction, tail) := match afterWhole with
    | '.' :: rest => rest.span isAsciiDigit
    | rest => ([], rest)
  if whole = [] ∧ fraction = [] then none
  else
    (parseExponent tail).map fun exponent =>
      -- the fraction only moves the exponent, so one division rounds once
      let significand := digitsValue (whole ++ fraction)
      let scale : Int := exponent - fraction.length
      .ofRatio negative (significand * 10 ^ scale.toNat) (10 ^ (-scale).toNat)

def parseSpecial (negative : Bool) (chars : List Char) : Option PyFloat :=
  let word := String.ofList (chars.map Char.toLower)
  if word = "inf" ∨ word = "infinity" then some (.infinity negative)
  else if word = "nan" then some .nan
  else none

/-- `float(s)` for a string; `none` is `ValueError`. -/
def parseFloat (s : String) : Option PyFloat := do
  let ascii ← toAsciiNumber s.toList
  let chars ← dropUnderscores (Char.ofNat 0) (trimBoth isAsciiSpace ascii)
  let (negative, body) := splitSign chars
  -- `inf` and `nan` take a sign too
  (parseSpecial negative body).orElse fun _ => parseDecimal negative body

/-! ## `repr(x)` -/

def decimalLength (n : Nat) : Nat := (Nat.toDigits 10 n).length

/-- The `p` with `10 ^ (p - 1) ≤ units / 2 ^ 1074 < 10 ^ p`, for positive `units`. -/
def decimalPoint (units : Nat) : Int :=
  if 2 ^ 1074 ≤ units then decimalLength (units / 2 ^ 1074)
  else 1 - decimalLength ((2 ^ 1074 + units - 1) / units - 1)

/-- The `digits`-digit decimals on either side, kept when they read back, nearest first. -/
def shortestCandidate (units : Nat) (point : Int) (digits : Nat) : Option Nat :=
  let scale := (digits : Int) - point
  let num := units * 10 ^ scale.toNat
  let den := 2 ^ 1074 * 10 ^ (-scale).toNat
  let below := num / den
  let readsBack := fun n : Nat =>
    roundUnits (n * 10 ^ (-scale).toNat * 2 ^ 1074) (10 ^ scale.toNat) == units
  -- a tie goes to the even digit
  let belowFirst := 2 * (num % den) < den ∨ (2 * (num % den) = den ∧ below % 2 = 0)
  let candidates := if belowFirst then [below, below + 1] else [below + 1, below]
  candidates.find? readsBack

/-- The fewest digits that read back, with the position of the decimal point. -/
def shortestDigits (units : Nat) : List Char × Int :=
  let point := decimalPoint units
  match (List.range 17).findSome? fun k => shortestCandidate units point (k + 1) |>.map (k + 1, ·) with
  | none => ([], 0)
  | some (digits, n) =>
    let chars := Nat.toDigits 10 n
    ((chars.reverse.dropWhile (· = '0')).reverse, point + (chars.length - digits : Int))

def signString (negative : Bool) : String := if negative then "-" else ""

/-- `repr(x)`, also `str(x)`. -/
def reprFloat : PyFloat → String
  | .nan => "nan"
  | .infinity negative => signString negative ++ "inf"
  | .finite x =>
    if x.units = 0 then signString x.negative ++ "0.0"
    else
      let (digits, point) := shortestDigits x.units
      let count : Int := digits.length
      let zeros := fun n : Int => List.replicate n.toNat '0'
      signString x.negative ++ String.ofList (
        -- scientific notation below `1e-4` and from `1e16` on
        if point ≤ -4 ∨ 16 < point then
          let exponent := point - 1
          let shown := Nat.toDigits 10 exponent.natAbs
          digits.take 1 ++ (if 1 < count then '.' :: digits.drop 1 else []) ++
            ['e', if exponent < 0 then '-' else '+'] ++ List.replicate (2 - shown.length) '0' ++ shown
        else if point ≤ 0 then ['0', '.'] ++ zeros (-point) ++ digits
        else if count ≤ point then digits ++ zeros (point - count) ++ ['.', '0']
        else digits.take point.toNat ++ '.' :: digits.drop point.toNat)

end SurveyPlatform.Python

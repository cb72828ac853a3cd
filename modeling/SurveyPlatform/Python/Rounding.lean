import SurveyPlatform.Python.Float
import Mathlib.Tactic.Linarith
import Mathlib.Algebra.Order.Ring.Abs

/-! # Rounding to nearest

The order theory of `roundUnits`: it lands on a nearest number of the format, it
is monotone, a number of the format is its own rounding, and so is every ratio
within 10⁻¹⁶ of half of it, which is what seventeen digits give.
-/

namespace SurveyPlatform.Python

/-! ## One division -/

theorem roundHalfEven_bounds (num : Nat) {den : Nat} (positive : 0 < den) :
    2 * (roundHalfEven num den * den) ≤ 2 * num + den ∧ 2 * num ≤ 2 * (roundHalfEven num den * den) + den := by
  have parts := Nat.div_add_mod num den
  have remainder := Nat.mod_lt num positive
  rw [Nat.mul_comm] at parts
  simp only [roundHalfEven]
  split
  · have next : (num / den + 1) * den = num / den * den + den := Nat.succ_mul _ _
    omega
  · omega

theorem roundHalfEven_mono {num num' : Nat} (den : Nat) (ordered : num ≤ num') :
    roundHalfEven num den ≤ roundHalfEven num' den := by
  have quotients : num / den ≤ num' / den := Nat.div_le_div_right ordered
  cases Nat.lt_or_eq_of_le quotients with
  | inl below =>
    have rounded := roundHalfEven_le num den
    have floor : num' / den ≤ roundHalfEven num' den := by
      simp only [roundHalfEven]
      split <;> omega
    omega
  | inr same =>
    have parts := Nat.div_add_mod num den
    have parts' := Nat.div_add_mod num' den
    rw [same] at parts
    simp only [roundHalfEven, same]
    split <;> split <;> omega

/-! ## Scaling -/

theorem roundUnits_mul_right (num den : Nat) {scale : Nat} (positive : 0 < scale) :
    roundUnits (num * scale) (den * scale) = roundUnits num den := by
  simp only [roundUnits, Nat.mul_div_mul_right _ _ positive, Nat.mul_right_comm den scale,
    roundHalfEven_mul_right _ _ positive]

/-- Rounding sees the ratio alone. -/
theorem roundUnits_congr {num den num' den' : Nat} (positive : 0 < den) (positive' : 0 < den')
    (same : num * den' = num' * den) : roundUnits num den = roundUnits num' den' := by
  rw [← roundUnits_mul_right num den positive', ← roundUnits_mul_right num' den' positive, same, Nat.mul_comm den]

/-! ## Monotonicity -/

/-- With the spacing `2 ^ shift` of the quotient, at most `2 ^ 53` steps are taken. -/
theorem roundUnits_le_top (num den : Nat) : roundUnits num den ≤ 2 ^ (53 + ((num / den).log2 - 52)) := by
  have quotient := shifted_lt num den
  have rounded := roundHalfEven_le num (den * 2 ^ ((num / den).log2 - 52))
  simp only [roundUnits]
  rw [Nat.pow_add]
  exact Nat.mul_le_mul_right _ (by omega)

theorem two_pow_le_roundUnits {num den bits : Nat} (bound : 52 ≤ bits)
    (exponent : (num / den).log2 = bits) (nonzero : num / den ≠ 0) : 2 ^ bits ≤ roundUnits num den := by
  have shift : bits = 52 + (bits - 52) := by omega
  have least : 2 ^ bits ≤ num / den := exponent ▸ Nat.log2_self_le nonzero
  have steps : 2 ^ 52 ≤ num / (den * 2 ^ (bits - 52)) := by
    rw [← Nat.div_div_eq_div_mul, Nat.le_div_iff_mul_le (Nat.two_pow_pos _), ← Nat.pow_add, ← shift]
    exact least
  have floor : num / (den * 2 ^ (bits - 52)) ≤ roundHalfEven num (den * 2 ^ (bits - 52)) := by
    simp only [roundHalfEven]
    split <;> omega
  simp only [roundUnits, exponent]
  calc 2 ^ bits = 2 ^ 52 * 2 ^ (bits - 52) := by rw [← Nat.pow_add, ← shift]
    _ ≤ roundHalfEven num (den * 2 ^ (bits - 52)) * 2 ^ (bits - 52) := Nat.mul_le_mul_right _ (steps.trans floor)

theorem roundUnits_mono_left {num num' den : Nat} (ordered : num ≤ num') :
    roundUnits num den ≤ roundUnits num' den := by
  have quotients : num / den ≤ num' / den := Nat.div_le_div_right ordered
  have exponents : (num / den).log2 ≤ (num' / den).log2 := by
    cases Nat.eq_zero_or_pos (num / den) with
    | inl zero => simp [zero]
    | inr nonzero =>
      exact (Nat.le_log2 (by omega)).mpr ((Nat.log2_self_le (by omega)).trans quotients)
  cases Nat.lt_or_ge ((num / den).log2 - 52) ((num' / den).log2 - 52) with
  -- the smaller quotient stays below the power of two where the larger one begins
  | inl below =>
    have nonzero : num' / den ≠ 0 := by
      intro zero
      simp [zero] at below
    calc roundUnits num den ≤ 2 ^ (53 + ((num / den).log2 - 52)) := roundUnits_le_top num den
      _ ≤ 2 ^ (num' / den).log2 := Nat.pow_le_pow_right (by omega) (by omega)
      _ ≤ roundUnits num' den := two_pow_le_roundUnits (by omega) rfl nonzero
  | inr spacing =>
    have same : (num' / den).log2 - 52 = (num / den).log2 - 52 := by omega
    simp only [roundUnits, same]
    exact Nat.mul_le_mul_right _ (roundHalfEven_mono _ ordered)

theorem roundUnits_mono {num den num' den' : Nat} (positive : 0 < den) (positive' : 0 < den')
    (ordered : num * den' ≤ num' * den) : roundUnits num den ≤ roundUnits num' den' := by
  rw [← roundUnits_mul_right num den positive', ← roundUnits_mul_right num' den' positive, Nat.mul_comm den' den]
  exact roundUnits_mono_left ordered

/-! ## Nearest -/

/-- No multiple of the step is nearer than the rounding. -/
theorem roundHalfEven_nearest (num : Nat) {den : Nat} (positive : 0 < den) (steps : Nat) :
    |((roundHalfEven num den * den : Nat) : Int) - num| ≤ |((steps * den : Nat) : Int) - num| := by
  obtain ⟨above, below⟩ := roundHalfEven_bounds num positive
  rcases Nat.lt_trichotomy steps (roundHalfEven num den) with less | same | more
  · have step := Nat.mul_le_mul_right den (Nat.succ_le_of_lt less)
    rw [Nat.succ_mul] at step
    rw [abs_of_nonpos (show ((steps * den : Nat) : Int) - num ≤ 0 by omega)]
    exact abs_le.mpr ⟨by omega, by omega⟩
  · rw [same]
  · have step := Nat.mul_le_mul_right den (Nat.succ_le_of_lt more)
    rw [Nat.succ_mul] at step
    rw [abs_of_nonneg (show 0 ≤ ((steps * den : Nat) : Int) - num by omega)]
    exact abs_le.mpr ⟨by omega, by omega⟩

/-- No number of the format is nearer than the rounding. -/
theorem roundUnits_nearest (num : Nat) {den units : Nat} (positive : 0 < den) (spaced : Spaced units) :
    |((roundUnits num den * den : Nat) : Int) - num| ≤ |((units * den : Nat) : Int) - num| := by
  have step := Nat.mul_pos positive (Nat.two_pow_pos ((num / den).log2 - 52))
  have onGrid := roundHalfEven_nearest num step
  have regroup : ∀ steps : Nat, steps * (den * 2 ^ ((num / den).log2 - 52)) =
      steps * 2 ^ ((num / den).log2 - 52) * den := fun steps => by ring
  simp only [regroup] at onGrid
  cases Nat.lt_or_ge (units.log2 - 52) ((num / den).log2 - 52) with
  | inr coarse =>
    obtain ⟨steps, rfl⟩ := (Nat.pow_dvd_pow 2 coarse).trans spaced
    rw [Nat.mul_comm (2 ^ _) steps]
    exact onGrid steps
  -- a finer number lies below the power of two where the grid begins
  | inl fine =>
    have nonzero : num / den ≠ 0 := by
      intro zero
      simp [zero] at fine
    have start : 2 ^ (num / den).log2 * den ≤ num :=
      (Nat.le_div_iff_mul_le positive).mp (Nat.log2_self_le nonzero)
    have power : 2 ^ 52 * 2 ^ ((num / den).log2 - 52) = 2 ^ (num / den).log2 := by
      rw [← Nat.pow_add]
      congr 1
      omega
    have below : units ≤ 2 ^ (num / den).log2 := by
      cases Nat.eq_zero_or_pos units with
      | inl zero => omega
      | inr some => exact Nat.le_of_lt ((Nat.log2_lt (by omega)).mp (by omega))
    have nearer := onGrid (2 ^ 52)
    rw [power] at nearer
    have scaled : units * den ≤ 2 ^ (num / den).log2 * den := Nat.mul_le_mul_right den below
    calc |((roundUnits num den * den : Nat) : Int) - num|
        ≤ |((2 ^ (num / den).log2 * den : Nat) : Int) - num| := nearer
      _ ≤ |((units * den : Nat) : Int) - num| := by
          rw [abs_of_nonpos (by omega), abs_of_nonpos (by omega)]
          omega

/-- A number of the format is its own rounding. -/
theorem roundUnits_of_spaced {units den : Nat} (positive : 0 < den) (spaced : Spaced units) :
    roundUnits (units * den) den = units := by
  have nearest := roundUnits_nearest (units * den) positive spaced
  rw [sub_self, abs_zero, abs_nonpos_iff, sub_eq_zero] at nearest
  exact Nat.eq_of_mul_eq_mul_right positive (by exact_mod_cast nearest)

/-! ## Gaps -/

/-- Two numbers of the format are at least one part in `2 ^ 53 + 1` of the larger apart. -/
theorem gap_of_spaced {units larger : Nat} (spaced : Spaced units) (spaced' : Spaced larger) (below : units < larger) :
    larger ≤ (larger - units) * (2 ^ 53 + 1) := by
  cases Nat.eq_zero_or_pos units with
  | inl zero =>
    rw [zero, Nat.sub_zero]
    exact Nat.le_mul_of_pos_right larger (by omega)
  | inr positive =>
    have exponents : units.log2 ≤ larger.log2 :=
      (Nat.le_log2 (by omega)).mpr ((Nat.log2_self_le (by omega)).trans (Nat.le_of_lt below))
    -- the spacing of the smaller divides both
    have divides : 2 ^ (units.log2 - 52) ∣ larger - units :=
      Nat.dvd_sub ((Nat.pow_dvd_pow 2 (by omega)).trans spaced') spaced
    have apart : 2 ^ (units.log2 - 52) ≤ larger - units := Nat.le_of_dvd (by omega) divides
    have top : units < 2 ^ (53 + (units.log2 - 52)) := (Nat.log2_lt (by omega)).mp (by omega)
    rw [Nat.pow_add] at top
    rw [Nat.mul_succ, Nat.mul_comm (larger - units)]
    have scaled := Nat.mul_le_mul_left (2 ^ 53) apart
    omega

/-- A ratio within a relative error of half of 10⁻¹⁶ rounds to the number it is near to. -/
theorem roundUnits_of_near {num den units : Nat} (positive : 0 < den) (spaced : Spaced units)
    (near : 2 * 10 ^ 16 * |((units * den : Nat) : Int) - num| ≤ (units * den : Nat)) :
    roundUnits num den = units := by
  have nearest := roundUnits_nearest num positive spaced
  have gap : ∀ {a b : Nat}, Spaced a → Spaced b → a < b → 10 ^ 16 * ((b - a : Nat) * (den : Int)) ≤ b * den → False := by
    intro a b spacedA spacedB below close
    have apart := gap_of_spaced spacedA spacedB below
    have scaled : (b : Int) ≤ (b - a : Nat) * (2 ^ 53 + 1) := by exact_mod_cast apart
    have difference : (0 : Int) < (b - a : Nat) * (den : Int) := by
      have : 0 < (b - a) * den := Nat.mul_pos (by omega) positive
      exact_mod_cast this
    have product : (b : Int) * den ≤ (b - a : Nat) * (2 ^ 53 + 1) * den :=
      mul_le_mul_of_nonneg_right scaled (by omega)
    have regroup : ((b - a : Nat) : Int) * (2 ^ 53 + 1) * den = (2 ^ 53 + 1) * ((b - a : Nat) * (den : Int)) := by ring
    rw [regroup] at product
    omega
  have spacedRounding := roundUnits_spaced num den
  generalize roundUnits num den = rounded at nearest spacedRounding
  push_cast at near nearest
  have leastDistance : (rounded : Int) * den - num ≤ |(units : Int) * den - num| := (le_abs_self _).trans nearest
  have greatestDistance : -((rounded : Int) * den - num) ≤ |(units : Int) * den - num| := (neg_le_abs _).trans nearest
  have toUnits : (units : Int) * den - num ≤ |(units : Int) * den - num| := le_abs_self _
  have fromUnits : -((units : Int) * den - num) ≤ |(units : Int) * den - num| := neg_le_abs _
  rcases Nat.lt_trichotomy rounded units with less | same | more
  · refine absurd (gap spacedRounding spaced less ?_) not_false
    rw [Nat.cast_sub (Nat.le_of_lt less), sub_mul]
    omega
  · exact same
  · refine absurd (gap spaced spacedRounding more ?_) not_false
    rw [Nat.cast_sub (Nat.le_of_lt more), sub_mul]
    have larger : (units : Int) * den ≤ rounded * den := by
      exact_mod_cast Nat.mul_le_mul_right den (Nat.le_of_lt more)
    omega

end SurveyPlatform.Python

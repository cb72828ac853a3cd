import Mathlib.Data.List.Induction
import Mathlib.Tactic.Common

/-! # Decimal numerals

A number has many spellings with zeros in front and one without.
`CanonicalDecimal` describes the latter by its characters alone, and
`canonicalDecimal_iff` shows that it is what `Nat.toDigits` writes.
-/

namespace SurveyPlatform.Library

/-- Digits, at least one, and none in front of which a zero could be left out. -/
structure CanonicalDecimal (digits : List Char) : Prop where
  areDigits : ∀ c ∈ digits, c.isDigit = true
  nonempty : digits ≠ []
  noLeadingZero : digits.head? = some '0' → digits = ['0']

theorem toList_toString_nat (n : Nat) : (toString n).toList = Nat.toDigits 10 n := Nat.toList_repr

theorem digitChar_of_isDigit {c : Char} (digit : c.isDigit = true) :
    c.toNat - 48 < 10 ∧ Nat.digitChar (c.toNat - 48) = c := by
  simp only [Char.isDigit, Bool.and_eq_true, decide_eq_true_eq, ge_iff_le, UInt32.le_iff_toNat_le] at digit
  have low : 48 ≤ c.toNat := digit.1
  have high : c.toNat ≤ 57 := digit.2
  have small : c.toNat - 48 < 10 := by omega
  refine ⟨small, Char.toNat_inj.mp ?_⟩
  rw [Nat.toNat_digitChar_of_lt_ten small]
  omega

/-- The first digit of a positive number is no zero. -/
theorem head?_toDigits {n : Nat} (positive : 0 < n) : (Nat.toDigits 10 n).head? ≠ some '0' := by
  induction n using Nat.strongRecOn with
  | ind n inductionHypothesis =>
    by_cases small : n < 10
    · rw [Nat.toDigits_of_lt_base small]
      simp [Nat.pos_iff_ne_zero.mp positive]
    · -- the last digit does not change the first one
      have front := inductionHypothesis (n / 10) (by omega) (by omega)
      obtain ⟨first, rest, shape⟩ := List.exists_cons_of_ne_nil (Nat.toDigits_ne_nil (n := n / 10) (b := 10))
      rw [Nat.toDigits_of_base_le (by omega) (by omega), shape]
      rwa [shape] at front

theorem canonicalDecimal_toDigits (n : Nat) : CanonicalDecimal (Nat.toDigits 10 n) := by
  constructor
  · exact fun c member => Nat.isDigit_of_mem_toDigits (by omega) (by omega) member
  · exact Nat.toDigits_ne_nil
  · intro leadingZero
    cases n with
    | zero => exact Nat.toDigits_zero 10
    | succ n => exact absurd leadingZero (head?_toDigits (Nat.succ_pos n))

/-- Reading a canonical numeral and writing the number gives it back. -/
theorem toDigits_ofDigitChars {digits : List Char} (canonical : CanonicalDecimal digits) :
    Nat.toDigits 10 (Nat.ofDigitChars 10 digits 0) = digits := by
  -- from the right: the digits in front of the last one are canonical too
  induction digits using List.reverseRecOn with
  | nil => exact absurd rfl canonical.nonempty
  | append_singleton front last inductionHypothesis =>
    obtain ⟨small, isLast⟩ := digitChar_of_isDigit (canonical.areDigits last (by simp))
    cases front with
    | nil =>
      rw [List.nil_append, Nat.ofDigitChars_cons, Nat.ofDigitChars_nil, Nat.toDigits_of_lt_base (by simpa using small)]
      simpa using isLast
    | cons first rest =>
      have noZero : first ≠ '0' := by
        intro isZero
        have alone := canonical.noLeadingZero (by simp [isZero])
        simp at alone
      have frontCanonical : CanonicalDecimal (first :: rest) := by
        constructor
        · exact fun c member => canonical.areDigits c (List.mem_append_left _ member)
        · exact List.cons_ne_nil _ _
        · intro leadingZero
          exact absurd (Option.some.inj leadingZero) noZero
      have written := inductionHypothesis frontCanonical
      have positive : 0 < Nat.ofDigitChars 10 (first :: rest) 0 := by
        rw [Nat.pos_iff_ne_zero]
        intro isZero
        rw [isZero, Nat.toDigits_zero, List.cons.injEq] at written
        exact noZero written.1.symm
      rw [Nat.ofDigitChars_append, Nat.ofDigitChars_cons, Nat.ofDigitChars_nil,
        show last.toNat - '0'.toNat = last.toNat - 48 from rfl, ← Nat.toDigits_append_toDigits (by omega) positive small,
        written, Nat.toDigits_of_lt_base small, isLast]

theorem canonicalDecimal_iff {digits : List Char} : CanonicalDecimal digits ↔ ∃ n, digits = Nat.toDigits 10 n := by
  constructor
  · intro canonical
    exact ⟨_, (toDigits_ofDigitChars canonical).symm⟩
  · intro written
    obtain ⟨n, rfl⟩ := written
    exact canonicalDecimal_toDigits n

end SurveyPlatform.Library

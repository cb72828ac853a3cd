import SurveyPlatform.Python.Encoding
import SurveyPlatform.Python.Rounding
import Mathlib.Algebra.Order.Field.Rat
import Mathlib.Data.Rat.Cast.Order
import Mathlib.Tactic.FieldSimp
import Mathlib.Tactic.NormNum

/-! # What a numeral says

`readNumeral` is `float(s)` without its rounding: the decimal a text spells, an
infinity or NaN.  `float(s)` is that reading rounded once (`parseFloat_eq`), and
what `str` prints for an integer or a double reads back as the same number
(`parseFloat_toString`, `parseFloat_reprFloat`).
-/

namespace SurveyPlatform.Python

open SurveyPlatform.Library

/-! ## Readings -/

/-- A decimal is `± significand * 10 ^ exponent`. -/
inductive Numeral where
  | nan
  | infinity (negative : Bool)
  | decimal (negative : Bool) (significand : Nat) (exponent : Int)
  deriving DecidableEq

def Numeral.round : Numeral → PyFloat
  | .nan => .nan
  | .infinity negative => .infinity negative
  | .decimal negative significand exponent =>
    .ofRatio negative (significand * 10 ^ exponent.toNat) (10 ^ (-exponent).toNat)

def readDecimal (negative : Bool) (chars : List Char) : Option Numeral :=
  let (whole, afterWhole) := chars.span isAsciiDigit
  let (fraction, tail) := match afterWhole with
    | '.' :: rest => rest.span isAsciiDigit
    | rest => ([], rest)
  if whole = [] ∧ fraction = [] then none
  else
    (parseExponent tail).map fun exponent =>
      .decimal negative (digitsValue (whole ++ fraction)) (exponent - fraction.length)

def readSpecial (negative : Bool) (chars : List Char) : Option Numeral :=
  let word := String.ofList (chars.map Char.toLower)
  if word = "inf" ∨ word = "infinity" then some (.infinity negative)
  else if word = "nan" then some .nan
  else none

def readNumeral (s : String) : Option Numeral := do
  let ascii ← toAsciiNumber s.toList
  let chars ← dropUnderscores (Char.ofNat 0) (trimBoth isAsciiSpace ascii)
  let (negative, body) := splitSign chars
  (readSpecial negative body).orElse fun _ => readDecimal negative body

section Readings

-- the rounding must not be unfolded on a variable
attribute [local irreducible] PyFloat.ofRatio

theorem parseDecimal_eq (negative : Bool) (chars : List Char) :
    parseDecimal negative chars = (readDecimal negative chars).map Numeral.round := by
  simp only [parseDecimal, readDecimal, apply_ite (Option.map Numeral.round), Option.map_none, Option.map_map]
  rfl

theorem parseSpecial_eq (negative : Bool) (chars : List Char) :
    parseSpecial negative chars = (readSpecial negative chars).map Numeral.round := by
  simp only [parseSpecial, readSpecial]
  split
  · rfl
  · split <;> rfl

/-- `float(s)` rounds what the text says. -/
theorem parseFloat_eq (s : String) : parseFloat s = (readNumeral s).map Numeral.round := by
  simp only [parseFloat, readNumeral]
  cases toAsciiNumber s.toList with
  | none => rfl
  | some ascii =>
    cases read : dropUnderscores (Char.ofNat 0) (trimBoth isAsciiSpace ascii) with
    | none => simp [read]
    | some chars =>
      simp only [Option.bind_eq_bind, Option.bind_some, read, parseSpecial_eq, parseDecimal_eq]
      cases readSpecial (splitSign chars).1 (splitSign chars).2 <;> rfl

end Readings

/-! ## Texts without spaces and underscores -/

/-- The characters `str` prints for a number. -/
def isNumeralChar (c : Char) : Bool := isAsciiDigit c || c == '.' || c == 'e' || c == '-' || c == '+'

section Plain

variable {chars : List Char} (plain : ∀ c ∈ chars, isNumeralChar c = true)

theorem isNumeralChar_range {c : Char} (plain : isNumeralChar c = true) :
    c.toNat < 127 ∧ isAsciiSpace c = false ∧ c ≠ '_' := by
  simp only [isNumeralChar, Bool.or_eq_true, beq_iff_eq] at plain
  obtain (((digit | rfl) | rfl) | rfl) | rfl := plain
  · simp only [isAsciiDigit, Bool.and_eq_true, decide_eq_true_eq] at digit
    have notUnderscore : c ≠ '_' := by
      rintro rfl
      exact absurd digit.2 (by decide)
    have notSpace : isAsciiSpace c = false := by
      simp only [isAsciiSpace, Bool.or_eq_false_iff, Bool.and_eq_false_iff, decide_eq_false_iff_not,
        beq_eq_false_iff_ne]
      omega
    exact ⟨by omega, notSpace, notUnderscore⟩
  all_goals decide

include plain

theorem toAsciiNumber_of_plain : toAsciiNumber chars = some chars := by
  induction chars with
  | nil => rfl
  | cons c rest inductionHypothesis =>
    rw [List.forall_mem_cons] at plain
    have small := (isNumeralChar_range plain.1).1
    simp only [toAsciiNumber] at inductionHypothesis ⊢
    simp [List.mapM_cons, small, inductionHypothesis plain.2]

theorem dropUnderscores_of_plain {previous : Char} (noUnderscore : previous ≠ '_') :
    dropUnderscores previous chars = some chars := by
  induction chars generalizing previous with
  | nil => simp [dropUnderscores, noUnderscore]
  | cons c rest inductionHypothesis =>
    rw [List.forall_mem_cons] at plain
    have notUnderscore := (isNumeralChar_range plain.1).2.2
    simp [dropUnderscores, notUnderscore, noUnderscore, inductionHypothesis plain.2 notUnderscore]

theorem readNumeral_of_plain : readNumeral (String.ofList chars) =
    (readSpecial (splitSign chars).1 (splitSign chars).2).orElse fun _ =>
      readDecimal (splitSign chars).1 (splitSign chars).2 := by
  have trimmed : trimBoth isAsciiSpace chars = chars :=
    trimBoth_of_none fun c member => (isNumeralChar_range (plain c member)).2.1
  simp [readNumeral, toAsciiNumber_of_plain plain, trimmed,
    dropUnderscores_of_plain plain (show Char.ofNat 0 ≠ '_' by decide)]

end Plain

theorem toLower_of_digit {c : Char} (digit : isAsciiDigit c = true) : c.toLower = c := by
  simp only [isAsciiDigit, Bool.and_eq_true, decide_eq_true_eq] at digit
  have notUpper : ¬ (65 ≤ c.val ∧ c.val ≤ 90) := by
    rintro ⟨above, _⟩
    have : 65 ≤ c.toNat := above
    omega
  exact dif_neg notUpper

/-- Words start with a letter. -/
theorem readSpecial_of_digit {negative : Bool} {c : Char} {rest : List Char} (digit : isAsciiDigit c = true) :
    readSpecial negative (c :: rest) = none := by
  have differs : ∀ (word : String) (first : Char) (letters : List Char), word.toList = first :: letters →
      isAsciiDigit first = false → String.ofList ((c :: rest).map Char.toLower) ≠ word := by
    rintro word first letters spelled noDigit rfl
    rw [String.toList_ofList, List.map_cons, toLower_of_digit digit] at spelled
    rw [← (List.cons.inj spelled).1, digit] at noDigit
    cases noDigit
  simp only [readSpecial, differs "inf" 'i' _ rfl rfl, differs "infinity" 'i' _ rfl rfl, differs "nan" 'n' _ rfl rfl,
    or_self, if_false]

/-- A sign and then a digit: a decimal. -/
theorem readNumeral_signed (negative : Bool) {c : Char} {rest : List Char} (digit : isAsciiDigit c = true)
    (plain : ∀ c' ∈ c :: rest, isNumeralChar c' = true) :
    readNumeral (signString negative ++ String.ofList (c :: rest)) = readDecimal negative (c :: rest) := by
  have notSign : ∀ sign : Char, isAsciiDigit sign = false → c ≠ sign := by
    rintro sign noDigit rfl
    rw [digit] at noDigit
    cases noDigit
  cases negative with
  | true =>
    have joined : signString true ++ String.ofList (c :: rest) = String.ofList ('-' :: c :: rest) := by
      rw [← String.toList_inj]
      simp [signString]
    have plain' : ∀ c' ∈ '-' :: c :: rest, isNumeralChar c' = true :=
      List.forall_mem_cons.mpr ⟨by decide, plain⟩
    rw [joined, readNumeral_of_plain plain']
    simp [splitSign, readSpecial_of_digit digit]
  | false =>
    have joined : signString false ++ String.ofList (c :: rest) = String.ofList (c :: rest) := by
      rw [← String.toList_inj]
      simp [signString]
    have unsigned : splitSign (c :: rest) = (false, c :: rest) := by
      simp [splitSign, notSign '-' (by decide), notSign '+' (by decide)]
    rw [joined, readNumeral_of_plain plain, unsigned]
    simp [readSpecial_of_digit digit]

/-! ## Digits -/

theorem digitsValue_eq (digits : List Char) : digitsValue digits = Nat.ofDigitChars 10 digits 0 :=
  Nat.ofDigitChars_eq_foldl.symm

theorem digitsValue_append (digits more : List Char) :
    digitsValue (digits ++ more) = digitsValue digits * 10 ^ more.length + digitsValue more := by
  rw [digitsValue_eq, digitsValue_eq, digitsValue_eq, Nat.ofDigitChars_append, Nat.ofDigitChars_eq_ofDigitChars_zero,
    Nat.mul_comm]

theorem digitsValue_zeros (count : Nat) : digitsValue (List.replicate count '0') = 0 := by
  rw [digitsValue_eq, Nat.ofDigitChars_replicate_zero, Nat.mul_zero]

theorem digitsValue_zeros_append (count : Nat) (digits : List Char) :
    digitsValue (List.replicate count '0' ++ digits) = digitsValue digits := by
  rw [digitsValue_append, digitsValue_zeros, Nat.zero_mul, Nat.zero_add]

theorem digitsValue_append_zeros (digits : List Char) (count : Nat) :
    digitsValue (digits ++ List.replicate count '0') = digitsValue digits * 10 ^ count := by
  rw [digitsValue_append, digitsValue_zeros, List.length_replicate, Nat.add_zero]

theorem digitsValue_toDigits (n : Nat) : digitsValue (Nat.toDigits 10 n) = n := by
  rw [digitsValue_eq, Nat.ofDigitChars_ten_toDigits]

theorem isAsciiDigit_of_isDigit {c : Char} (digit : c.isDigit = true) : isAsciiDigit c = true := by
  simp only [Char.isDigit, Bool.and_eq_true, decide_eq_true_eq, ge_iff_le, UInt32.le_iff_toNat_le] at digit
  have low : 48 ≤ c.toNat := digit.1
  have high : c.toNat ≤ 57 := digit.2
  simp [isAsciiDigit, low, high]

theorem isAsciiDigit_toDigits (n : Nat) : ∀ c ∈ Nat.toDigits 10 n, isAsciiDigit c = true :=
  fun _ member => isAsciiDigit_of_isDigit (Nat.isDigit_of_mem_toDigits (by omega) (by omega) member)

theorem isAsciiDigit_zeros (count : Nat) : ∀ c ∈ List.replicate count '0', isAsciiDigit c = true := by
  intro c member
  rw [List.eq_of_mem_replicate member]
  decide

theorem isNumeralChar_of_digit {c : Char} (digit : isAsciiDigit c = true) : isNumeralChar c = true := by
  simp [isNumeralChar, digit]

/-! ## The parts of a decimal -/

section Parts

variable {whole fraction tail : List Char} (wholeDigits : ∀ c ∈ whole, isAsciiDigit c = true)
  (fractionDigits : ∀ c ∈ fraction, isAsciiDigit c = true) (stops : ∀ c ∈ tail.head?, isAsciiDigit c = false)

include wholeDigits stops in
theorem span_digits : (whole ++ tail).span isAsciiDigit = (whole, tail) := by
  have noMore : tail.takeWhile isAsciiDigit = [] ∧ tail.dropWhile isAsciiDigit = tail := by
    cases tail with
    | nil => simp
    | cons c rest => simp [stops c rfl]
  rw [List.span_eq_takeWhile_dropWhile, List.takeWhile_append_of_pos wholeDigits,
    List.dropWhile_append_of_pos wholeDigits, noMore.1, noMore.2, List.append_nil]

include wholeDigits in
theorem readDecimal_whole (nonempty : whole ≠ []) (stops' : ∀ c ∈ tail.head?, isAsciiDigit c = false ∧ c ≠ '.')
    (negative : Bool) :
    readDecimal negative (whole ++ tail) = (parseExponent tail).map (.decimal negative (digitsValue whole) ·) := by
  have noFraction : (match tail with
      | '.' :: rest => rest.span isAsciiDigit
      | rest => ([], rest)) = ([], tail) := by
    cases tail with
    | nil => rfl
    | cons c rest => simp [(stops' c rfl).2]
  rw [readDecimal, span_digits wholeDigits fun c first => (stops' c first).1]
  simp only [noFraction]
  simp [nonempty]

include wholeDigits fractionDigits stops in
theorem readDecimal_point (nonempty : whole ≠ []) (negative : Bool) :
    readDecimal negative (whole ++ '.' :: (fraction ++ tail)) = (parseExponent tail).map fun exponent =>
      .decimal negative (digitsValue (whole ++ fraction)) (exponent - fraction.length) := by
  have atPoint : ∀ c ∈ ('.' :: (fraction ++ tail)).head?, isAsciiDigit c = false := by
    rintro _ ⟨⟩
    decide
  rw [readDecimal, span_digits wholeDigits atPoint]
  simp only [span_digits fractionDigits stops]
  simp [nonempty]

include wholeDigits fractionDigits in
theorem readDecimal_fraction (nonempty : whole ≠ []) (negative : Bool) :
    readDecimal negative (whole ++ '.' :: fraction) =
      some (.decimal negative (digitsValue (whole ++ fraction)) (-fraction.length)) := by
  have noTail : ∀ c ∈ ([] : List Char).head?, isAsciiDigit c = false := nofun
  have read := readDecimal_point wholeDigits fractionDigits noTail nonempty negative
  rw [List.append_nil] at read
  simpa [parseExponent] using read

end Parts

theorem parseExponent_signed {negative : Bool} {digits : List Char} (nonempty : digits ≠ [])
    (areDigits : ∀ c ∈ digits, isAsciiDigit c = true) :
    parseExponent ('e' :: (if negative then '-' else '+') :: digits) =
      some (if negative then -(digitsValue digits : Int) else digitsValue digits) := by
  have allDigits : digits.all isAsciiDigit = true := List.all_eq_true.mpr areDigits
  cases negative <;> simp [parseExponent, splitSign, nonempty, allDigits]

/-! ## Integers -/

theorem toString_int (n : Int) :
    toString n = signString (decide (n < 0)) ++ String.ofList (Nat.toDigits 10 n.natAbs) := by
  cases n with
  | ofNat m =>
    have printed : toString (Int.ofNat m) = toString m := rfl
    have notNegative : decide (Int.ofNat m < 0) = false := decide_eq_false (Int.not_lt.mpr (Int.natCast_nonneg m))
    rw [← String.toList_inj, printed, notNegative, toList_toString_nat]
    simp [signString]
  | negSucc m =>
    have printed : toString (Int.negSucc m) = "-" ++ toString (m + 1) := rfl
    have isNegative : decide (Int.negSucc m < 0) = true := decide_eq_true (Int.negSucc_lt_zero m)
    rw [← String.toList_inj, printed, isNegative, String.toList_append, toList_toString_nat]
    simp [signString]

/-- `str(n)` says `n`. -/
theorem readNumeral_toString (n : Int) : readNumeral (toString n) = some (.decimal (decide (n < 0)) n.natAbs 0) := by
  have digits := isAsciiDigit_toDigits n.natAbs
  have value := digitsValue_toDigits n.natAbs
  have nonempty : Nat.toDigits 10 n.natAbs ≠ [] := Nat.toDigits_ne_nil
  rw [toString_int]
  generalize Nat.toDigits 10 n.natAbs = chars at digits value nonempty
  obtain ⟨c, rest, rfl⟩ := List.exists_cons_of_ne_nil nonempty
  rw [readNumeral_signed _ (digits c List.mem_cons_self) fun c' member => isNumeralChar_of_digit (digits c' member)]
  have read := readDecimal_whole digits nonempty (show ∀ c ∈ ([] : List Char).head?, _ from nofun) (decide (n < 0))
  rw [List.append_nil] at read
  simp [read, parseExponent, value]

/-! ## Doubles -/

/-- The text of `repr(x)` after its sign. -/
def printedDigits (digits : List Char) (point : Int) : List Char :=
  let count : Int := digits.length
  let zeros := fun n : Int => List.replicate n.toNat '0'
  if point ≤ -4 ∨ 16 < point then
    let exponent := point - 1
    let shown := Nat.toDigits 10 exponent.natAbs
    digits.take 1 ++ (if 1 < count then '.' :: digits.drop 1 else []) ++
      ['e', if exponent < 0 then '-' else '+'] ++ List.replicate (2 - shown.length) '0' ++ shown
  else if point ≤ 0 then ['0', '.'] ++ zeros (-point) ++ digits
  else if count ≤ point then digits ++ zeros (point - count) ++ ['.', '0']
  else digits.take point.toNat ++ '.' :: digits.drop point.toNat

theorem reprFloat_finite {x : Binary64} (nonzero : x.units ≠ 0) : reprFloat (.finite x) =
    signString x.negative ++ String.ofList (printedDigits (shortestDigits x.units).1 (shortestDigits x.units).2) := by
  rw [reprFloat, if_neg nonzero]
  generalize shortestDigits x.units = printed
  rfl

section Printed

variable {digits : List Char} (areDigits : ∀ c ∈ digits, isAsciiDigit c = true) (nonempty : digits ≠ [])

include areDigits

theorem printedDigits_plain (point : Int) : ∀ c ∈ printedDigits digits point, isNumeralChar c = true := by
  have plain : ∀ c ∈ digits, isNumeralChar c = true := fun c member => isNumeralChar_of_digit (areDigits c member)
  have zero : isNumeralChar '0' = true := by decide
  have shown : ∀ c ∈ Nat.toDigits 10 (point - 1).natAbs, isNumeralChar c = true :=
    fun c member => isNumeralChar_of_digit (isAsciiDigit_toDigits _ c member)
  have point' : isNumeralChar '.' = true := by decide
  simp only [printedDigits]
  intro c member
  split at member
  · simp only [List.mem_append, List.mem_cons, List.not_mem_nil, or_false] at member
    obtain (((first | rest) | rfl | rfl) | pad) | exponent := member
    · exact plain c (List.mem_of_mem_take first)
    · split at rest
      · obtain rfl | rest := List.mem_cons.mp rest
        · exact point'
        · exact plain c (List.mem_of_mem_drop rest)
      · cases rest
    · decide
    · split <;> decide
    · rw [List.eq_of_mem_replicate pad]
      exact zero
    · exact shown c exponent
  · split at member
    · simp only [List.mem_append, List.mem_cons, List.not_mem_nil, or_false] at member
      obtain ((rfl | rfl) | pad) | member := member
      · exact zero
      · exact point'
      · rw [List.eq_of_mem_replicate pad]
        exact zero
      · exact plain c member
    · split at member
      · simp only [List.mem_append, List.mem_cons, List.not_mem_nil, or_false] at member
        obtain (member | pad) | rfl | rfl := member
        · exact plain c member
        · rw [List.eq_of_mem_replicate pad]
          exact zero
        · exact point'
        · exact zero
      · rw [List.mem_append, List.mem_cons] at member
        obtain whole | rfl | fraction := member
        · exact plain c (List.mem_of_mem_take whole)
        · exact point'
        · exact plain c (List.mem_of_mem_drop fraction)

include nonempty

theorem printedDigits_head (point : Int) : ∃ c rest, printedDigits digits point = c :: rest ∧ isAsciiDigit c = true := by
  obtain ⟨d, rest, rfl⟩ := List.exists_cons_of_ne_nil nonempty
  have digit := areDigits d List.mem_cons_self
  simp only [printedDigits]
  split
  · exact ⟨d, _, rfl, digit⟩
  · split
    · exact ⟨'0', _, rfl, by decide⟩
    · split
      · exact ⟨d, _, rfl, digit⟩
      · rename_i positive _
        obtain ⟨whole, isWhole⟩ : ∃ whole, point.toNat = whole + 1 := ⟨point.toNat - 1, by omega⟩
        rw [isWhole]
        exact ⟨d, _, rfl, digit⟩

omit nonempty in
/-- One digit before the point, and an exponent. -/
theorem readDecimal_scientific {d : Char} {rest tail : List Char} (split : digits = d :: rest) (negative : Bool)
    {exponent : Int} (parsed : parseExponent ('e' :: tail) = some exponent) :
    readDecimal negative ([d] ++ (if (1 : Int) < digits.length then '.' :: rest else []) ++ 'e' :: tail) =
      some (.decimal negative (digitsValue digits) (exponent - rest.length)) := by
  subst split
  rw [List.forall_mem_cons] at areDigits
  have first : ∀ c ∈ [d], isAsciiDigit c = true := List.forall_mem_singleton.mpr areDigits.1
  cases rest with
  | nil =>
    have stops : ∀ c ∈ ('e' :: tail).head?, isAsciiDigit c = false ∧ c ≠ '.' := by
      rintro _ ⟨⟩
      decide
    have read := readDecimal_whole first (List.cons_ne_nil d []) stops negative
    rw [parsed] at read
    simpa using read
  | cons d' rest =>
    have stops : ∀ c ∈ ('e' :: tail).head?, isAsciiDigit c = false := by
      rintro _ ⟨⟩
      decide
    have read := readDecimal_point first areDigits.2 stops (List.cons_ne_nil d []) negative
    rw [parsed] at read
    have several : (1 : Int) < (d :: d' :: rest).length := by simp
    rw [if_pos several]
    simpa using read

omit nonempty areDigits in
theorem parseExponent_shown (exponent : Int) :
    parseExponent ('e' :: (if exponent < 0 then '-' else '+') ::
      (List.replicate (2 - (Nat.toDigits 10 exponent.natAbs).length) '0' ++ Nat.toDigits 10 exponent.natAbs)) =
      some exponent := by
  have shown : ∀ c ∈ List.replicate (2 - (Nat.toDigits 10 exponent.natAbs).length) '0' ++
      Nat.toDigits 10 exponent.natAbs, isAsciiDigit c = true :=
    List.forall_mem_append.mpr ⟨isAsciiDigit_zeros _, isAsciiDigit_toDigits _⟩
  have parsed := @parseExponent_signed (decide (exponent < 0)) _ (by simp) shown
  rw [digitsValue_zeros_append, digitsValue_toDigits] at parsed
  simp only [decide_eq_true_eq] at parsed
  rw [parsed]
  split <;> simp only [Option.some.injEq] <;> omega

/-- The printed text says the digits at their place. -/
theorem readDecimal_printedDigits (negative : Bool) (point : Int) : ∃ significand exponent,
    readDecimal negative (printedDigits digits point) = some (.decimal negative significand exponent) ∧
      (significand : Rat) * 10 ^ exponent = digitsValue digits * 10 ^ (point - digits.length) := by
  simp only [printedDigits]
  split
  · obtain ⟨d, rest, isDigits⟩ := List.exists_cons_of_ne_nil nonempty
    have read := readDecimal_scientific areDigits isDigits negative (parseExponent_shown (point - 1))
    have place : point - 1 - rest.length = point - digits.length := by
      rw [isDigits, List.length_cons]
      omega
    refine ⟨digitsValue digits, point - digits.length, ?_, rfl⟩
    rw [← place, ← read, isDigits]
    simp
  · have zero : ∀ c ∈ ['0'], isAsciiDigit c = true := List.forall_mem_singleton.mpr (by decide)
    split
    -- nothing before the point
    · have padded := List.forall_mem_append.mpr ⟨isAsciiDigit_zeros (-point).toNat, areDigits⟩
      have leading : digitsValue (['0'] ++ (List.replicate (-point).toNat '0' ++ digits)) = digitsValue digits := by
        rw [digitsValue_append, digitsValue_zeros_append]
        simp [digitsValue, asciiDigitValue]
      have place : -((List.replicate (-point).toNat '0' ++ digits).length : Int) = point - digits.length := by
        rw [List.length_append, List.length_replicate]
        omega
      have read := readDecimal_fraction zero padded (List.cons_ne_nil '0' []) negative
      rw [leading, place] at read
      exact ⟨_, _, by simpa using read, rfl⟩
    · split
      -- nothing but a zero after the point
      · have padded := List.forall_mem_append.mpr ⟨areDigits, isAsciiDigit_zeros (point - digits.length).toNat⟩
        have read := readDecimal_fraction padded zero (by simp [nonempty]) negative
        have trailing : ['0'] = List.replicate 1 '0' := rfl
        have count : (point - digits.length).toNat = point - (digits.length : Int) := by omega
        rw [trailing, digitsValue_append_zeros, digitsValue_append_zeros, ← trailing] at read
        refine ⟨_, _, by simpa using read, ?_⟩
        rw [← count, zpow_natCast]
        norm_num
        ring
      -- the point among the digits
      · have whole : ∀ c ∈ digits.take point.toNat, isAsciiDigit c = true :=
          fun c member => areDigits c (List.mem_of_mem_take member)
        have fraction : ∀ c ∈ digits.drop point.toNat, isAsciiDigit c = true :=
          fun c member => areDigits c (List.mem_of_mem_drop member)
        have someWhole : digits.take point.toNat ≠ [] := by
          rw [ne_eq, List.take_eq_nil_iff]
          rintro (zero | empty)
          · omega
          · exact nonempty empty
        have read := readDecimal_fraction whole fraction someWhole negative
        have place : -((digits.drop point.toNat).length : Int) = point - digits.length := by
          rw [List.length_drop]
          omega
        rw [List.take_append_drop, place] at read
        exact ⟨_, _, read, rfl⟩

end Printed

end SurveyPlatform.Python

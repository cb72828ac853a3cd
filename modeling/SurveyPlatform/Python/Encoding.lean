import SurveyPlatform.Library.Numerals
import SurveyPlatform.Python.Values

/-! # Text forms of values

`json.dumps`, as `_serialize_value` uses it on a list, and `int` of a string, as
`create_submission` and the URL lookups use it.
-/

namespace SurveyPlatform.Python

open SurveyPlatform.Library

/-! ## `json.dumps` -/

/-- `\u` and four hexadecimal digits. -/
def unicodeEscape (n : Nat) : String := String.ofList [Char.ofNat 92, 'u'] ++ hexDigits 4 n

/-- One character between double quotes; only printable ASCII stays as it is. -/
def jsonChar (c : Char) : String :=
  let n := c.toNat
  -- 34 is the double quote, 92 the backslash
  if n = 34 ∨ n = 92 then String.ofList [Char.ofNat 92, c]
  else if 32 ≤ n ∧ n ≤ 126 then String.ofList [c]
  else if n = 8 then String.ofList [Char.ofNat 92, 'b']
  else if n = 9 then String.ofList [Char.ofNat 92, 't']
  else if n = 10 then String.ofList [Char.ofNat 92, 'n']
  else if n = 12 then String.ofList [Char.ofNat 92, 'f']
  else if n = 13 then String.ofList [Char.ofNat 92, 'r']
  else if n ≤ 0xffff then unicodeEscape n
  -- beyond the first plane: a surrogate pair
  else unicodeEscape (0xd800 + (n - 0x10000) / 1024) ++ unicodeEscape (0xdc00 + (n - 0x10000) % 1024)

def jsonString (s : String) : String :=
  let quote := String.ofList [Char.ofNat 34]
  quote ++ join "" (s.toList.map jsonChar) ++ quote

def jsonFloat : PyFloat → String
  | .nan => "NaN"
  | .infinity false => "Infinity"
  | .infinity true => "-Infinity"
  | x => reprFloat x

mutual
/-- `json.dumps(x)` -/
def Json.dumps : Json → String
  | .null => "null"
  | .bool true => "true"
  | .bool false => "false"
  | .int value => toString value
  | .float value => jsonFloat value
  | .str value => jsonString value
  | .list items => "[" ++ join ", " (Json.dumpsItems items) ++ "]"
  | .object entries => "\x7b" ++ join ", " (Json.dumpsEntries entries) ++ "\x7d"

def Json.dumpsItems : List Json → List String
  | [] => []
  | item :: rest => item.dumps :: Json.dumpsItems rest

def Json.dumpsEntries : List (String × Json) → List String
  | [] => []
  | (name, value) :: rest => (jsonString name ++ ": " ++ value.dumps) :: Json.dumpsEntries rest
end

/-! ## `int` -/

/-- Digits of any script with single underscores between them. -/
def digitsValue? : List Char → Nat → Option Nat
  | [], _ => none
  | [c], value => (digitValue? c).map (10 * value + ·)
  | c :: next :: rest, value => do
    let value := 10 * value + (← digitValue? c)
    -- an underscore needs a digit after it: the recursion starts at one
    if next = '_' then digitsValue? rest value else digitsValue? (next :: rest) value

/-- The spaces `int` drops: past ASCII those of `strip`, in it those of C. -/
def isIntSpace (c : Char) : Bool := if c.toNat < 127 then isAsciiSpace c else isSpace c

/-- `int(s)`; `none` is `ValueError`. -/
def parseInt (s : String) : Option Int :=
  match trimBoth isIntSpace s.toList with
  | '-' :: digits => (digitsValue? digits 0).map fun n => -(n : Int)
  | '+' :: digits => (digitsValue? digits 0).map Int.ofNat
  | digits => (digitsValue? digits 0).map Int.ofNat

/-! ### `int(str(n))` -/

theorem digitValue?_of_isDigit {c : Char} (digit : c.isDigit = true) : digitValue? c = some (c.toNat - 48) := by
  have range : 48 ≤ c.toNat ∧ c.toNat < 58 := by
    simp only [Char.isDigit, Bool.and_eq_true, decide_eq_true_eq, ge_iff_le, UInt32.le_iff_toNat_le] at digit
    exact ⟨digit.1, Nat.lt_succ_of_le digit.2⟩
  simp [digitValue?, decimalZeros, range]

theorem digitsValue?_of_digits {digits : List Char} (nonempty : digits ≠ [])
    (isDigit : ∀ c ∈ digits, c.isDigit = true) (value : Nat) :
    digitsValue? digits value = some (Nat.ofDigitChars 10 digits value) := by
  induction digits generalizing value with
  | nil => exact absurd rfl nonempty
  | cons c rest inductionHypothesis =>
    rw [List.forall_mem_cons] at isDigit
    cases rest with
    | nil => simp [digitsValue?, digitValue?_of_isDigit isDigit.1, Nat.ofDigitChars_cons]
    | cons next rest =>
      -- a digit is no underscore
      have notUnderscore : next ≠ '_' := by
        intro same
        have digit := isDigit.2 next List.mem_cons_self
        rw [same] at digit
        cases digit
      rw [Nat.ofDigitChars_cons, ← inductionHypothesis (by simp) isDigit.2]
      simp [digitsValue?, digitValue?_of_isDigit isDigit.1, notUnderscore]

theorem trimBoth_of_none {dropped : Char → Bool} {chars : List Char} (kept : ∀ c ∈ chars, dropped c = false) :
    trimBoth dropped chars = chars := by
  have noneDropped : ∀ list : List Char, (∀ c ∈ list, dropped c = false) → list.dropWhile dropped = list := by
    intro list kept
    cases list with
    | nil => rfl
    | cons c rest => rw [List.dropWhile_cons, if_neg (by simp [kept c])]
  rw [trimBoth, noneDropped chars kept, noneDropped chars.reverse (by simpa using kept), List.reverse_reverse]

theorem parseInt_toString (n : Nat) : parseInt (toString n) = some (n : Int) := by
  have isDigit : ∀ c ∈ Nat.toDigits 10 n, c.isDigit = true :=
    fun c member => Nat.isDigit_of_mem_toDigits (by omega) (by omega) member
  have trimmed : trimBoth isIntSpace (toString n).toList = Nat.toDigits 10 n := by
    rw [toList_toString_nat]
    apply trimBoth_of_none
    intro c member
    have range := isDigit c member
    simp only [Char.isDigit, Bool.and_eq_true, decide_eq_true_eq, ge_iff_le, UInt32.le_iff_toNat_le] at range
    have low : 48 ≤ c.toNat := range.1
    have high : c.toNat ≤ 57 := range.2
    rw [isIntSpace, if_pos (by omega), isAsciiSpace]
    simp only [Bool.or_eq_false_iff, Bool.and_eq_false_iff, decide_eq_false_iff_not, beq_eq_false_iff_ne]
    omega
  have value : digitsValue? (Nat.toDigits 10 n) 0 = some n := by
    rw [digitsValue?_of_digits Nat.toDigits_ne_nil isDigit, Nat.ofDigitChars_ten_toDigits]
  rw [parseInt, trimmed]
  -- a numeral starts with a digit, so with no sign
  cases shape : Nat.toDigits 10 n with
  | nil => exact absurd shape Nat.toDigits_ne_nil
  | cons c rest =>
    rw [shape] at isDigit value
    split
    · rename_i same
      cases same
      have := isDigit '-' List.mem_cons_self
      cases this
    · rename_i same
      cases same
      have := isDigit '+' List.mem_cons_self
      cases this
    · rw [value]
      rfl

end SurveyPlatform.Python

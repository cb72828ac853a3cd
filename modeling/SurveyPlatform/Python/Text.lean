import Mathlib.Data.List.Infix
import Mathlib.Data.List.Basic

/-! # Python strings

The `str` operations the code uses, on Lean strings: `strip`, `in`, `repr`, and
the character classes behind `str.strip`, `\s`, `\d` and `float`.  `Interpreter`
collects what the language leaves to the interpreter's build: the Unicode table
behind `repr` and the regular expression engine.
-/

namespace SurveyPlatform.Python

/-- How `re.compile` refuses a pattern: `re.error`, or an exception of the parser itself. -/
inductive PatternError where
  | invalid
  | overflow
  | recursion
  deriving DecidableEq, Repr

/-- What differs between interpreter builds: the printable characters outside
ASCII (`str.isprintable`), the patterns `re.compile` refuses, and `re.match`. -/
structure Interpreter where
  isPrintable : Char → Bool
  patternError? : String → Option PatternError
  reMatches : String → String → Bool

/-- The smallest build: only ASCII is printable, and patterns compile but never match. -/
def bareInterpreter : Interpreter := ⟨fun _ => false, fun _ => none, fun _ _ => false⟩

/-! ## Character classes -/

/-- `str.isspace` on one character; also `\s` in a `str` pattern. -/
def isSpace (c : Char) : Bool :=
  let n := c.toNat
  (9 ≤ n && n ≤ 13) || (28 ≤ n && n ≤ 32) || n == 0x85 || n == 0xa0 || n == 0x1680 ||
    (0x2000 ≤ n && n ≤ 0x200a) || n == 0x2028 || n == 0x2029 || n == 0x202f || n == 0x205f || n == 0x3000

/-- The digit zero of every block of decimal digits (category `Nd`, Unicode 16). -/
def decimalZeros : List Nat :=
  [0x30, 0x660, 0x6f0, 0x7c0, 0x966, 0x9e6, 0xa66, 0xae6, 0xb66, 0xbe6, 0xc66, 0xce6, 0xd66, 0xde6,
   0xe50, 0xed0, 0xf20, 0x1040, 0x1090, 0x17e0, 0x1810, 0x1946, 0x19d0, 0x1a80, 0x1a90, 0x1b50,
   0x1bb0, 0x1c40, 0x1c50, 0xa620, 0xa8d0, 0xa900, 0xa9d0, 0xa9f0, 0xaa50, 0xabf0, 0xff10, 0x104a0,
   0x10d30, 0x10d40, 0x11066, 0x110f0, 0x11136, 0x111d0, 0x112f0, 0x11450, 0x114d0, 0x11650, 0x116c0,
   0x116d0, 0x116da, 0x11730, 0x118e0, 0x11950, 0x11bf0, 0x11c50, 0x11d50, 0x11da0, 0x11f50, 0x16130,
   0x16a60, 0x16ac0, 0x16b50, 0x16d70, 0x1ccf0, 0x1d7ce, 0x1d7d8, 0x1d7e2, 0x1d7ec, 0x1d7f6, 0x1e140,
   0x1e2f0, 0x1e4f0, 0x1e5f1, 0x1e950, 0x1fbf0]

/-- The value of a decimal digit of any script; `\d` in a `str` pattern is `isSome` of it. -/
def digitValue? (c : Char) : Option Nat :=
  decimalZeros.findSome? fun start =>
    if start ≤ c.toNat ∧ c.toNat < start + 10 then some (c.toNat - start) else none

/-- The ASCII digits `0` to `9`. -/
def isAsciiDigit (c : Char) : Bool := 48 ≤ c.toNat && c.toNat ≤ 57

def asciiDigitValue (c : Char) : Nat := c.toNat - 48

/-! ## String operations -/

/-- Both ends of a list freed of the characters of a class. -/
def trimBoth (dropped : Char → Bool) (chars : List Char) : List Char :=
  ((chars.dropWhile dropped).reverse.dropWhile dropped).reverse

/-- `s.strip()` -/
def strip (s : String) : String := String.ofList (trimBoth isSpace s.toList)

/-- `needle in haystack` for two strings. -/
def isIn (needle haystack : String) : Bool := decide (needle.toList <:+: haystack.toList)

/-- `separator.join(parts)` -/
def join (separator : String) (parts : List String) : String := separator.intercalate parts

/-! ## `repr` of a string -/

def hexDigits (width n : Nat) : String :=
  let digits := Nat.toDigits 16 n
  String.ofList (List.replicate (width - digits.length) '0' ++ digits)

/-- One character of `repr(s)` between quotes of the given kind. -/
def reprChar (isPrintable : Char → Bool) (quote c : Char) : String :=
  let n := c.toNat
  -- 92 is the backslash
  if c = quote ∨ n = 92 then String.ofList [Char.ofNat 92, c]
  else if n = 9 then String.ofList [Char.ofNat 92, 't']
  else if n = 10 then String.ofList [Char.ofNat 92, 'n']
  else if n = 13 then String.ofList [Char.ofNat 92, 'r']
  else if n < 32 ∨ n = 127 then String.ofList [Char.ofNat 92, 'x'] ++ hexDigits 2 n
  else if n < 127 ∨ isPrintable c then String.ofList [c]
  else if n ≤ 0xff then String.ofList [Char.ofNat 92, 'x'] ++ hexDigits 2 n
  else if n ≤ 0xffff then String.ofList [Char.ofNat 92, 'u'] ++ hexDigits 4 n
  else String.ofList [Char.ofNat 92, 'U'] ++ hexDigits 8 n

/-- Single quotes, unless the string has a single quote and no double quote. -/
def reprQuote (s : String) : Char :=
  if s.toList.contains (Char.ofNat 39) && !s.toList.contains (Char.ofNat 34) then Char.ofNat 34
  else Char.ofNat 39

/-- `repr(s)` -/
def Interpreter.reprStr (py : Interpreter) (s : String) : String :=
  let quote := reprQuote s
  String.ofList [quote] ++ join "" (s.toList.map (reprChar py.isPrintable quote)) ++
    String.ofList [quote]

/-! ## The two literal patterns -/

/-- `$` also matches before one final newline. -/
def dropFinalNewline (chars : List Char) : List Char :=
  if chars.getLast? = some (Char.ofNat 10) then chars.dropLast else chars

/-- `re.match(r"^[^@\s]+@[^@\s]+\.[^@\s]+$", s)` -/
def matchesEmailPattern (s : String) : Bool :=
  let plain := fun c : Char => c != '@' && !isSpace c
  match (dropFinalNewline s.toList).span plain with
  | ([], _) => false
  | (_, []) => false
  | (_, at' :: domain) =>
    -- a dot with at least one character on either side
    at' == '@' && domain.all plain && ((domain.drop 1).dropLast).contains '.'

/-- `re.match(r"^\d{4}-\d{2}-\d{2}$", s)` -/
def matchesDatePattern (s : String) : Bool :=
  match dropFinalNewline s.toList with
  | [y₁, y₂, y₃, y₄, h₁, m₁, m₂, h₂, d₁, d₂] =>
    [y₁, y₂, y₃, y₄, m₁, m₂, d₁, d₂].all (fun c => (digitValue? c).isSome) && h₁ == '-' && h₂ == '-'
  | _ => false

end SurveyPlatform.Python

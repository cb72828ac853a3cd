import SurveyPlatform.Python.Text

/-! # `date.fromisoformat`

The ISO 8601 forms accepted since Python 3.11: calendar dates and week dates,
with and without separators.  Week dates are turned into calendar dates from
the weekday of 1 January.
-/

namespace SurveyPlatform.Python

structure Date where
  year : Nat
  month : Nat
  day : Nat
  deriving DecidableEq, Repr

def isLeap (year : Nat) : Bool := year % 4 == 0 && (year % 100 != 0 || year % 400 == 0)

def daysInMonth (year month : Nat) : Nat :=
  if month = 2 then if isLeap year then 29 else 28
  else if month = 4 ∨ month = 6 ∨ month = 9 ∨ month = 11 then 30
  else 31

def daysInYear (year : Nat) : Nat := if isLeap year then 366 else 365

/-- `date(year, month, day)`; `none` is `ValueError`. -/
def mkDate (year month day : Nat) : Option Date :=
  if 1 ≤ year ∧ year ≤ 9999 ∧ 1 ≤ month ∧ month ≤ 12 ∧ 1 ≤ day ∧ day ≤ daysInMonth year month then
    some ⟨year, month, day⟩
  else none

/-- The weekday of 1 January, Monday being 0. -/
def firstWeekday (year : Nat) : Nat :=
  let before := year - 1
  (before * 365 + before / 4 - before / 100 + before / 400) % 7

/-- The day that comes `offset` days after 1 January of the year, `offset` below its length. -/
def dayOfYear (year offset : Nat) : Option Date :=
  let rec go : List Nat → Nat → Option Date
    | [], _ => none
    | month :: rest, offset =>
      if offset < daysInMonth year month then mkDate year month (offset + 1)
      else go rest (offset - daysInMonth year month)
  go [1, 2, 3, 4, 5, 6, 7, 8, 9, 10, 11, 12] offset

/-- An ISO week date; week 53 exists only in long years. -/
def ofWeekDate (year week day : Nat) : Option Date :=
  let weekday := firstWeekday year
  let long := weekday == 3 || (weekday == 2 && isLeap year)
  if 1 ≤ year ∧ year ≤ 9999 ∧ 1 ≤ week ∧ (week ≤ 52 ∨ (week = 53 ∧ long)) ∧ 1 ≤ day ∧ day ≤ 7 then
    -- week 1 holds the first Thursday, so its Monday is at most three days before the year
    let monday : Int := if weekday ≤ 3 then -weekday else 7 - weekday
    let offset : Int := monday + (week - 1) * 7 + (day - 1)
    -- the first and the last week may reach into the neighbouring years
    if offset < 0 then dayOfYear (year - 1) (offset + daysInYear (year - 1)).toNat
    else if offset < daysInYear year then dayOfYear year offset.toNat
    else dayOfYear (year + 1) (offset - daysInYear year).toNat
  else none

/-- The value of a run of ASCII digits. -/
def asciiNumber? (digits : List Char) : Option Nat :=
  if digits.all isAsciiDigit then some (digits.foldl (fun n c => 10 * n + asciiDigitValue c) 0) else none

def isoDate (year month day : List Char) : Option Date := do
  mkDate (← asciiNumber? year) (← asciiNumber? month) (← asciiNumber? day)

def isoWeekDate (year week day : List Char) : Option Date := do
  ofWeekDate (← asciiNumber? year) (← asciiNumber? week) (← asciiNumber? day)

/-- The text is over, or goes on with two bytes of UTF-8: the parser takes texts of 7, 8 and 10 bytes,
and where it reads no hyphen it stops after eight. -/
def endsUnread (rest : List Char) : Bool := rest.isEmpty || rest.foldl (fun size c => size + c.utf8Size) 0 == 2

/-- `date.fromisoformat(s)`; `none` is `ValueError`. -/
def fromIsoFormat (s : String) : Option Date :=
  match s.toList with
  | [a, b, c, d, 'W', w₁, w₂] => isoWeekDate [a, b, c, d] [w₁, w₂] ['1']
  | [a, b, c, d, '-', 'W', w₁, w₂] => isoWeekDate [a, b, c, d] [w₁, w₂] ['1']
  | [a, b, c, d, '-', 'W', w₁, w₂, '-', day] => isoWeekDate [a, b, c, d] [w₁, w₂] [day]
  | [a, b, c, d, '-', m₁, m₂, '-', d₁, d₂] => isoDate [a, b, c, d] [m₁, m₂] [d₁, d₂]
  | a :: b :: c :: d :: 'W' :: w₁ :: w₂ :: day :: rest =>
    if endsUnread rest then isoWeekDate [a, b, c, d] [w₁, w₂] [day] else none
  | a :: b :: c :: d :: m₁ :: m₂ :: d₁ :: d₂ :: rest =>
    -- a hyphen in the fifth place is no digit of a month
    if endsUnread rest then isoDate [a, b, c, d] [m₁, m₂] [d₁, d₂] else none
  | _ => none

end SurveyPlatform.Python

import SurveyPlatform.Surveys.Validators
import SurveyPlatform.Verified.TypeChecks

/-! # The two date recognizers

The type check of an answer matches a pattern of digits and hyphens; the
validators of rules and actions parse an ISO date.  They agree on the strings
that are calendar dates in the form `YYYY-MM-DD`, and on those that are neither
of the pattern's shape nor a date in another ISO form
(`dateRecognizers_agree_iff`).
-/

namespace SurveyPlatform.Verified

open SurveyPlatform.Python SurveyPlatform.Surveys SurveyPlatform.Responses

/-! ## Forms -/

/-- `YYYY-MM-DD` in ASCII digits, naming the calendar date. -/
def DatedAs (s : String) (date : Date) : Prop :=
  ∃ y₁ y₂ y₃ y₄ m₁ m₂ d₁ d₂, s.toList = [y₁, y₂, y₃, y₄, '-', m₁, m₂, '-', d₁, d₂] ∧
    isoDate [y₁, y₂, y₃, y₄] [m₁, m₂] [d₁, d₂] = some date

/-- `YYYYMMDD`, with two bytes after it or none. -/
def CompactAs (s : String) (date : Date) : Prop :=
  ∃ y₁ y₂ y₃ y₄ m₁ m₂ d₁ d₂ rest, s.toList = y₁ :: y₂ :: y₃ :: y₄ :: m₁ :: m₂ :: d₁ :: d₂ :: rest ∧
    endsUnread rest = true ∧ isoDate [y₁, y₂, y₃, y₄] [m₁, m₂] [d₁, d₂] = some date

/-- `YYYYWww`, `YYYY-Www`, `YYYY-Www-D`, or `YYYYWwwD` with two bytes after it or none. -/
def WeekAs (s : String) (date : Date) : Prop :=
  ∃ y₁ y₂ y₃ y₄ w₁ w₂,
    (s.toList = [y₁, y₂, y₃, y₄, 'W', w₁, w₂] ∨ s.toList = [y₁, y₂, y₃, y₄, '-', 'W', w₁, w₂]) ∧
      isoWeekDate [y₁, y₂, y₃, y₄] [w₁, w₂] ['1'] = some date ∨
    ∃ day, (s.toList = [y₁, y₂, y₃, y₄, '-', 'W', w₁, w₂, '-', day] ∨
        ∃ rest, s.toList = y₁ :: y₂ :: y₃ :: y₄ :: 'W' :: w₁ :: w₂ :: day :: rest ∧ endsUnread rest = true) ∧
      isoWeekDate [y₁, y₂, y₃, y₄] [w₁, w₂] [day] = some date

/-- Digits of any script where `YYYY-MM-DD` has its digits, perhaps with a newline after them. -/
def DateShaped (s : String) : Prop :=
  ∃ y₁ y₂ y₃ y₄ m₁ m₂ d₁ d₂, (∀ c ∈ [y₁, y₂, y₃, y₄, m₁, m₂, d₁, d₂], (digitValue? c).isSome = true) ∧
    (s.toList = [y₁, y₂, y₃, y₄, '-', m₁, m₂, '-', d₁, d₂] ∨
      s.toList = [y₁, y₂, y₃, y₄, '-', m₁, m₂, '-', d₁, d₂, Char.ofNat 10])

/-! ## The parser -/

theorem asciiNumber?_isSome {digits : List Char} {n : Nat} (read : asciiNumber? digits = some n) :
    ∀ c ∈ digits, isAsciiDigit c = true := by
  unfold asciiNumber? at read
  split at read
  · rename_i allDigits
    exact List.all_eq_true.mp allDigits
  · cases read

theorem isoDate_digits {year month day : List Char} {date : Date} (read : isoDate year month day = some date) :
    (∀ c ∈ year, isAsciiDigit c = true) ∧ (∀ c ∈ month, isAsciiDigit c = true) ∧ ∀ c ∈ day, isAsciiDigit c = true := by
  simp only [isoDate, Option.bind_eq_bind, Option.bind_eq_some_iff] at read
  obtain ⟨y, isYear, m, isMonth, d, isDay, _⟩ := read
  exact ⟨asciiNumber?_isSome isYear, asciiNumber?_isSome isMonth, asciiNumber?_isSome isDay⟩

/-- `date.fromisoformat` reads the three kinds of forms, and nothing else. -/
theorem fromIsoFormat_iff {s : String} {date : Date} :
    fromIsoFormat s = some date ↔ DatedAs s date ∨ CompactAs s date ∨ WeekAs s date := by
  constructor
  · intro read
    unfold fromIsoFormat at read
    split at read
    · rename_i shape
      exact Or.inr (Or.inr ⟨_, _, _, _, _, _, Or.inl ⟨Or.inl shape, read⟩⟩)
    · rename_i shape
      exact Or.inr (Or.inr ⟨_, _, _, _, _, _, Or.inl ⟨Or.inr shape, read⟩⟩)
    · rename_i shape
      exact Or.inr (Or.inr ⟨_, _, _, _, _, _, Or.inr ⟨_, Or.inl shape, read⟩⟩)
    · rename_i shape
      exact Or.inl ⟨_, _, _, _, _, _, _, _, shape, read⟩
    · rename_i shape
      obtain ⟨ends, read⟩ := Option.ite_none_right_eq_some.mp read
      exact Or.inr (Or.inr ⟨_, _, _, _, _, _, Or.inr ⟨_, Or.inr ⟨_, shape, ends⟩, read⟩⟩)
    · rename_i shape
      obtain ⟨ends, read⟩ := Option.ite_none_right_eq_some.mp read
      exact Or.inr (Or.inl ⟨_, _, _, _, _, _, _, _, _, shape, ends, read⟩)
    · cases read
  · intro forms
    have notLetter : ∀ {c : Char}, isAsciiDigit c = true → c ≠ 'W' ∧ c ≠ '-' := by
      intro c digit
      constructor <;> rintro rfl <;> cases digit
    obtain ⟨y₁, y₂, y₃, y₄, m₁, m₂, d₁, d₂, shape, read⟩ | ⟨y₁, y₂, y₃, y₄, m₁, m₂, d₁, d₂, rest, shape, ends, read⟩ |
      ⟨y₁, y₂, y₃, y₄, w₁, w₂, ⟨shape | shape, read⟩ | ⟨day, shape | ⟨rest, shape, ends⟩, read⟩⟩ := forms
    · have digits := (isoDate_digits read).2.1
      simp only [List.forall_mem_cons] at digits
      simp [fromIsoFormat, shape, (notLetter digits.1).1, read]
    · have digits := (isoDate_digits read).2.1
      simp only [List.forall_mem_cons] at digits
      simp [fromIsoFormat, shape, notLetter digits.1, read, ends]
    · simp [fromIsoFormat, shape, read]
    · simp [fromIsoFormat, shape, read]
    · simp [fromIsoFormat, shape, read]
    · simp [fromIsoFormat, shape, read, ends]

/-- The validator of rules and actions takes the dates in any of the forms. -/
theorem validateDateString_iff {s : String} :
    validateDateString (.str s) = .ok () ↔ ∃ date, DatedAs s date ∨ CompactAs s date ∨ WeekAs s date := by
  simp only [validateDateString, ← fromIsoFormat_iff]
  cases fromIsoFormat s <;> simp

/-! ## The pattern -/

theorem matchesDatePattern_iff {s : String} : matchesDatePattern s = true ↔ DateShaped s := by
  have noDigit : digitValue? (Char.ofNat 10) = none := by decide
  have shape : ∀ {y₁ y₂ y₃ y₄ m₁ m₂ d₁ d₂}, (∀ c ∈ [y₁, y₂, y₃, y₄, m₁, m₂, d₁, d₂], (digitValue? c).isSome = true) →
      (dropFinalNewline s.toList = [y₁, y₂, y₃, y₄, '-', m₁, m₂, '-', d₁, d₂] ↔
        s.toList = [y₁, y₂, y₃, y₄, '-', m₁, m₂, '-', d₁, d₂] ∨
          s.toList = [y₁, y₂, y₃, y₄, '-', m₁, m₂, '-', d₁, d₂, Char.ofNat 10]) := by
    intro y₁ y₂ y₃ y₄ m₁ m₂ d₁ d₂ digits
    apply dropFinalNewline_eq_iff
    intro isLast
    have newline : d₂ = Char.ofNat 10 := Option.some.inj isLast
    have digit := digits d₂ (by simp)
    rw [newline, noDigit] at digit
    cases digit
  constructor
  · intro isMatch
    simp only [matchesDatePattern] at isMatch
    split at isMatch
    · rename_i y₁ y₂ y₃ y₄ h₁ m₁ m₂ h₂ d₁ d₂ chars
      simp only [Bool.and_eq_true, beq_iff_eq] at isMatch
      obtain ⟨⟨digits, rfl⟩, rfl⟩ := isMatch
      have areDigits := List.all_eq_true.mp digits
      exact ⟨y₁, y₂, y₃, y₄, m₁, m₂, d₁, d₂, areDigits, (shape areDigits).mp chars⟩
    · cases isMatch
  · intro shaped
    obtain ⟨y₁, y₂, y₃, y₄, m₁, m₂, d₁, d₂, digits, chars⟩ := shaped
    simp only [matchesDatePattern, (shape digits).mpr chars, List.all_eq_true.mpr digits]
    rfl

theorem digitValue?_of_ascii {c : Char} (digit : isAsciiDigit c = true) : (digitValue? c).isSome = true := by
  simp only [isAsciiDigit, Bool.and_eq_true, decide_eq_true_eq] at digit
  have range : 48 ≤ c.toNat ∧ c.toNat < 58 := by omega
  simp [digitValue?, decimalZeros, range]

theorem DatedAs.shaped {s : String} {date : Date} (dated : DatedAs s date) : DateShaped s := by
  obtain ⟨y₁, y₂, y₃, y₄, m₁, m₂, d₁, d₂, shape, read⟩ := dated
  obtain ⟨year, month, day⟩ := isoDate_digits read
  refine ⟨y₁, y₂, y₃, y₄, m₁, m₂, d₁, d₂, ?_, Or.inl shape⟩
  intro c member
  apply digitValue?_of_ascii
  simp only [List.forall_mem_cons] at year month day
  simp only [List.mem_cons, List.not_mem_nil, or_false] at member
  obtain rfl | rfl | rfl | rfl | rfl | rfl | rfl | rfl := member <;> simp [year, month, day]

theorem DateShaped.startsWithDigit {c : Char} {rest : List Char} (shaped : DateShaped (String.ofList (c :: rest))) :
    (digitValue? c).isSome = true := by
  obtain ⟨y₁, y₂, y₃, y₄, m₁, m₂, d₁, d₂, digits, shape⟩ := shaped
  rw [String.toList_ofList] at shape
  have first : c = y₁ := by
    obtain shape | shape := shape
    · exact (List.cons.inj shape).1
    · exact (List.cons.inj shape).1
  rw [first]
  exact digits y₁ List.mem_cons_self

/-- The type check of a date answer looks at its shape. -/
theorem validateFieldType_date_iff {py : Interpreter} {field : Field} (isDate : field.fieldType = .date) {value : Json}
    {s : String} : validateFieldType py field value s = .ok none ↔ DateShaped s := by
  rw [← matchesDatePattern_iff]
  simp only [validateFieldType, isDate]
  cases matchesDatePattern s <;> simp

/-! ## Agreement -/

/-- Both recognizers accept exactly the calendar dates written `YYYY-MM-DD`. -/
def RecognizersAgree (py : Interpreter) (field : Field) (s : String) : Prop :=
  (validateFieldType py field (.str s) s = .ok none ↔ validateDateString (.str s) = .ok ()) ∧
    (validateFieldType py field (.str s) s = .ok none ↔ ∃ date, DatedAs s date) ∧
    (validateDateString (.str s) = .ok () ↔ ∃ date, DatedAs s date)

/-- They agree on the calendar dates in that form, and where the string has neither the shape nor names
a date in another form. -/
theorem dateRecognizers_agree_iff (py : Interpreter) (field : Field) (s : String) (isDate : field.fieldType = .date) :
    RecognizersAgree py field s ↔
      (∃ date, DatedAs s date) ∨ ¬ DateShaped s ∧ ¬ ∃ date, CompactAs s date ∨ WeekAs s date := by
  rw [RecognizersAgree, validateFieldType_date_iff isDate, validateDateString_iff, exists_or]
  constructor
  · intro agree
    obtain ⟨_, shaped_iff, accepted_iff⟩ := agree
    by_cases dated : ∃ date, DatedAs s date
    · exact Or.inl dated
    · exact Or.inr ⟨fun shaped => dated (shaped_iff.mp shaped), fun other => dated (accepted_iff.mp (Or.inr other))⟩
  · intro forms
    obtain dated | ⟨notShaped, noOther⟩ := forms
    · have shaped : DateShaped s := dated.elim fun _ isDated => isDated.shaped
      simp [shaped, dated]
    · have notDated : ¬ ∃ date, DatedAs s date := fun dated => notShaped (dated.elim fun _ isDated => isDated.shaped)
      simp [notShaped, notDated, noOther]

def birthday : Field := ⟨1, 1, "Birthday", .date, false, 1, .list [], false, .object []⟩

theorem dateRecognizers_agree_leapDay : RecognizersAgree bareInterpreter birthday "2024-02-29" :=
  (dateRecognizers_agree_iff bareInterpreter birthday "2024-02-29" rfl).mpr
    (Or.inl ⟨⟨2024, 2, 29⟩, '2', '0', '2', '4', '0', '2', '2', '9', rfl, rfl⟩)

/-- `2024-13-45` has the shape and is no date; `20240115` is a date without the shape. -/
theorem dateRecognizers_disagree :
    ¬ RecognizersAgree bareInterpreter birthday "2024-13-45" ∧ ¬ RecognizersAgree bareInterpreter birthday "20240115" := by
  constructor
  · intro agree
    have refused : validateDateString (.str "2024-13-45") ≠ .ok () := by decide
    exact refused (agree.1.mp (by decide))
  · intro agree
    have refused : validateFieldType bareInterpreter birthday (.str "20240115") "20240115" ≠ .ok none := by decide
    exact refused (agree.1.mpr (by decide))

end SurveyPlatform.Verified

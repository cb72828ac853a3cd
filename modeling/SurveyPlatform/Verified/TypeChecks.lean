import SurveyPlatform.Responses.Submission
import Mathlib.Data.List.TakeWhile

/-! # What the type checks take

One lemma for each branch of `_validate_field_type` that says which values pass
it, with the email pattern read as a form of texts (`EmailShaped`).
-/

namespace SurveyPlatform.Verified

open SurveyPlatform.Python SurveyPlatform.Surveys SurveyPlatform.Responses

/-! ## Email addresses -/

/-- `name@host.rest`, whose parts are not empty and have no other `@` and no whitespace; perhaps with a
newline after it. -/
def EmailShaped (s : String) : Prop :=
  ∃ name host rest, name ≠ [] ∧ host ≠ [] ∧ rest ≠ [] ∧
    (∀ c ∈ name ++ (host ++ rest), c ≠ '@' ∧ isSpace c = false) ∧
    (s.toList = name ++ '@' :: (host ++ '.' :: rest) ∨
      s.toList = name ++ '@' :: (host ++ '.' :: rest) ++ [Char.ofNat 10])

theorem innerDot_iff {domain : List Char} :
    '.' ∈ domain.tail.dropLast ↔ ∃ host rest, domain = host ++ '.' :: rest ∧ host ≠ [] ∧ rest ≠ [] := by
  cases domain with
  | nil => simp
  | cons first others =>
    constructor
    · intro member
      obtain ⟨before, after, split⟩ := List.append_of_mem member
      have nonempty : others ≠ [] := by
        rintro rfl
        cases member
      have whole : others = before ++ '.' :: (after ++ [others.getLast nonempty]) := by
        rw [← List.cons_append, ← List.append_assoc, ← split]
        exact (List.dropLast_append_getLast nonempty).symm
      exact ⟨first :: before, after ++ [others.getLast nonempty], congrArg (first :: ·) whole, nofun, by simp⟩
    · intro split
      obtain ⟨host, rest, shape, hostNonempty, restNonempty⟩ := split
      cases host with
      | nil => exact absurd rfl hostNonempty
      | cons first' before =>
        have tail : others = before ++ '.' :: rest := (List.cons.inj shape).2
        rw [tail, List.tail_cons, List.dropLast_append_of_ne_nil (by simp),
          List.dropLast_cons_of_ne_nil restNonempty]
        simp

/-- A character the pattern takes on either side of the `@`. -/
def isPlain (c : Char) : Bool := c != '@' && !isSpace c

theorem isPlain_iff {c : Char} : isPlain c = true ↔ c ≠ '@' ∧ isSpace c = false := by simp [isPlain]

/-- What the pattern matches up to its `$`. -/
def AddressChars (chars : List Char) : Prop :=
  ∃ name host rest, name ≠ [] ∧ host ≠ [] ∧ rest ≠ [] ∧
    (∀ c ∈ name ++ (host ++ rest), c ≠ '@' ∧ isSpace c = false) ∧ chars = name ++ '@' :: (host ++ '.' :: rest)

theorem matchesEmailPattern_iff_chars {s : String} :
    matchesEmailPattern s = true ↔ AddressChars (dropFinalNewline s.toList) := by
  have plain : (fun c => c != '@' && !isSpace c) = isPlain := rfl
  simp only [matchesEmailPattern, plain, List.span_eq_takeWhile_dropWhile]
  generalize dropFinalNewline s.toList = chars
  have whole : chars.takeWhile isPlain ++ chars.dropWhile isPlain = chars := List.takeWhile_append_dropWhile
  have plainName : ∀ c ∈ chars.takeWhile isPlain, isPlain c = true := fun c => List.mem_takeWhile_imp
  constructor
  · intro isMatch
    split at isMatch
    · cases isMatch
    · cases isMatch
    · rename_i name at' domain notEmpty spanned
      obtain ⟨isName, isDomain⟩ := Prod.mk.inj spanned
      rw [isName] at plainName
      rw [isName, isDomain] at whole
      simp only [Bool.and_eq_true, beq_iff_eq, List.contains_iff_mem, List.drop_one, innerDot_iff,
        List.all_eq_true] at isMatch
      obtain ⟨⟨rfl, plainDomain⟩, host, rest, rfl, hostNonempty, restNonempty⟩ := isMatch
      refine ⟨name, host, rest, notEmpty, hostNonempty, restNonempty, ?_, whole.symm⟩
      intro c member
      apply isPlain_iff.mp
      obtain inName | inHost | inRest : c ∈ name ∨ c ∈ host ∨ c ∈ rest := by simpa using member
      · exact plainName c inName
      · exact plainDomain c (List.mem_append_left _ inHost)
      · exact plainDomain c (List.mem_append_right _ (List.mem_cons_of_mem _ inRest))
  · intro shaped
    obtain ⟨name, host, rest, nameNonempty, hostNonempty, restNonempty, plainChars, rfl⟩ := shaped
    have allPlain : ∀ c ∈ name ++ (host ++ rest), isPlain c = true := fun c member => isPlain_iff.mpr (plainChars c member)
    simp only [List.forall_mem_append] at allPlain
    obtain ⟨namePlain, hostPlain, restPlain⟩ := allPlain
    have stops : isPlain '@' = false := by decide
    have plainDomain : (host ++ '.' :: rest).all isPlain = true := by
      have plainDot : isPlain '.' = true := by decide
      rw [List.all_eq_true, List.forall_mem_append, List.forall_mem_cons]
      exact ⟨hostPlain, plainDot, restPlain⟩
    rw [List.takeWhile_append_of_pos namePlain, List.takeWhile_cons_of_neg (Bool.not_eq_true _ ▸ stops), List.append_nil,
      List.dropWhile_append_of_pos namePlain, List.dropWhile_cons_of_neg (Bool.not_eq_true _ ▸ stops)]
    cases name with
    | nil => exact absurd rfl nameNonempty
    | cons first others =>
      have dot := innerDot_iff.mpr ⟨host, rest, rfl, hostNonempty, restNonempty⟩
      simp [plainDomain, dot]

theorem dropFinalNewline_eq_iff {chars plain : List Char} (noNewline : plain.getLast? ≠ some (Char.ofNat 10)) :
    dropFinalNewline chars = plain ↔ chars = plain ∨ chars = plain ++ [Char.ofNat 10] := by
  constructor
  · intro dropped
    simp only [dropFinalNewline] at dropped
    split at dropped
    · rename_i newline
      rw [← dropped, List.dropLast_append_getLast? _ newline]
      exact Or.inr rfl
    · exact Or.inl dropped
  · intro forms
    obtain rfl | rfl := forms
    · exact if_neg noNewline
    · simp [dropFinalNewline]

theorem matchesEmailPattern_iff {s : String} : matchesEmailPattern s = true ↔ EmailShaped s := by
  rw [matchesEmailPattern_iff_chars]
  have shape : ∀ {name host rest : List Char}, rest ≠ [] → (∀ c ∈ name ++ (host ++ rest), c ≠ '@' ∧ isSpace c = false) →
      (dropFinalNewline s.toList = name ++ '@' :: (host ++ '.' :: rest) ↔
        s.toList = name ++ '@' :: (host ++ '.' :: rest) ∨
          s.toList = name ++ '@' :: (host ++ '.' :: rest) ++ [Char.ofNat 10]) := by
    intro name host rest nonempty plain
    apply dropFinalNewline_eq_iff
    intro isLast
    have final : rest.getLast? = some (Char.ofNat 10) := by
      cases rest with
      | nil => exact absurd rfl nonempty
      | cons first others => simpa [List.getLast?_append, List.getLast?_cons] using isLast
    have member : Char.ofNat 10 ∈ name ++ (host ++ rest) := by simp [List.mem_of_getLast? final]
    have space := (plain _ member).2
    exact absurd space (by decide)
  constructor
  · intro shaped
    obtain ⟨name, host, rest, nameNonempty, hostNonempty, restNonempty, plain, chars⟩ := shaped
    exact ⟨name, host, rest, nameNonempty, hostNonempty, restNonempty, plain, (shape restNonempty plain).mp chars⟩
  · intro shaped
    obtain ⟨name, host, rest, nameNonempty, hostNonempty, restNonempty, plain, chars⟩ := shaped
    exact ⟨name, host, rest, nameNonempty, hostNonempty, restNonempty, plain, (shape restNonempty plain).mpr chars⟩

/-! ## The branches -/

section

variable {py : Interpreter} {field : Field} {value : Json}

theorem validateFieldType_email_iff (isEmail : field.fieldType = .email) {s : String} :
    validateFieldType py field value s = .ok none ↔ EmailShaped s := by
  rw [← matchesEmailPattern_iff]
  simp only [validateFieldType, isEmail]
  cases matchesEmailPattern s <;> simp

theorem validateFieldType_number_iff (isNumber : field.fieldType = .number) {s : String} :
    validateFieldType py field value s = .ok none ↔ ∃ x, parseFloat s = some x := by
  simp only [validateFieldType, isNumber]
  cases parseFloat s <;> simp

theorem validateFieldType_choice_iff (isChoice : field.fieldType = .dropdown ∨ field.fieldType = .radio) {s : String} :
    validateFieldType py field value s = .ok none ↔ ∃ offered, py.strs field.options = .ok offered ∧ s ∈ offered := by
  have branch : validateFieldType py field value s = (py.strs field.options >>= fun options =>
      if options.contains s then return none
      else return some ("Invalid choice. Must be one of: " ++ py.str field.options)) := by
    obtain isType | isType := isChoice <;> simp only [validateFieldType, isType]
  rw [branch, bind_eq_ok]
  simp only [List.contains_iff_mem]
  constructor
  · intro passes
    obtain ⟨offered, isOffered, member⟩ := passes
    split at member
    · exact ⟨offered, isOffered, ‹_›⟩
    · cases member
  · intro offers
    obtain ⟨offered, isOffered, member⟩ := offers
    exact ⟨offered, isOffered, if_pos member⟩

theorem validateFieldType_checkbox_iff (isCheckbox : field.fieldType = .checkbox) {s : String} :
    validateFieldType py field value s = .ok none ↔
      ∃ items offered, value = .list items ∧ py.strs field.options = .ok offered ∧ ∀ item ∈ items, py.str item ∈ offered := by
  simp only [validateFieldType, isCheckbox]
  cases value with
  | list items =>
    simp only [bind_eq_ok]
    constructor
    · intro passes
      obtain ⟨offered, isOffered, noInvalid⟩ := passes
      split at noInvalid
      · rename_i allOffered
        refine ⟨items, offered, rfl, isOffered, ?_⟩
        intro item member
        simpa using List.filter_eq_nil_iff.mp allOffered (py.str item) (List.mem_map_of_mem member)
      · cases noInvalid
    · intro offers
      obtain ⟨items', offered, same, isOffered, allOffered⟩ := offers
      cases same
      exact ⟨offered, isOffered, if_pos (by simpa using allOffered)⟩
  | _ => simp

/-- Only a checkbox looks at more than the text. -/
theorem validateFieldType_text (notCheckbox : field.fieldType ≠ .checkbox) (value value' : Json) (text : String) :
    validateFieldType py field value text = validateFieldType py field value' text := by
  cases fieldType : field.fieldType with
  | checkbox => exact absurd fieldType notCheckbox
  | _ => simp only [validateFieldType, fieldType]

end

end SurveyPlatform.Verified

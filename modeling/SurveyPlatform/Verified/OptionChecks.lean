import SurveyPlatform.Surveys.Validators

/-! # The options a field may have

`validate_field_options` over every decoded JSON value.  The validator iterates
anything iterable, so a text and an object pass for a list of options, and a
number is a `TypeError`; everything else is decided as the docstring says
(`validateFieldOptions_exact_iff`).
-/

namespace SurveyPlatform.Verified

open SurveyPlatform.Python SurveyPlatform.Surveys

/-! ## What fits -/

/-- A non-empty list of texts and numbers with distinct text forms. -/
def ChoiceOptions (py : Interpreter) (options : Json) : Prop :=
  ∃ items, options = .list items ∧ items ≠ [] ∧ (∀ item ∈ items, item.isStr = true ∨ item.isNumber = true) ∧
    (items.map py.str).Nodup

/-- The options a field of the type may have. -/
def OptionsFit (py : Interpreter) (fieldType : FieldType) (options : Json) : Prop :=
  if fieldType.isChoice then ChoiceOptions py options else options.truthy = false

/-- The validator lets through what fits, and answers the rest with a `ValidationError`. -/
def OptionsExact (py : Interpreter) (fieldType : FieldType) (options : Json) : Prop :=
  (validateFieldOptions py fieldType options = .ok () ↔ OptionsFit py fieldType options) ∧
    ∀ exn, validateFieldOptions py fieldType options = .error exn →
      ∃ message, exn = .validationErrorDict "options" message

/-- Values that are no list and that the loop over the options takes for one, or cannot take at all. -/
def MistakenForOptions : Json → Prop
  | .str text => text ≠ "" ∧ text.toList.Nodup
  | .object entries => entries ≠ [] ∧ (entries.map Prod.fst).Nodup
  | .list _ | .null => False
  | number => number.truthy = true

section

variable {py : Interpreter} {fieldType : FieldType} {options : Json}

theorem checkEach_eq_error {α : Type} {check : α → Except PyExn Unit} {items : List α} {exn : PyExn}
    (raised : checkEach check items = .error exn) : ∃ item ∈ items, check item = .error exn := by
  induction items with
  | nil => cases raised
  | cons item rest inductionHypothesis =>
    rw [checkEach] at raised
    cases checked : check item with
    | error exn' =>
      simp only [checked, bind, Except.bind, Except.error.injEq] at raised
      exact ⟨item, List.mem_cons_self, checked.trans (congrArg _ raised)⟩
    | ok =>
      simp only [checked, bind, Except.bind] at raised
      obtain ⟨item', member, raised'⟩ := inductionHypothesis raised
      exact ⟨item', List.mem_cons_of_mem _ member, raised'⟩

theorem length_eq_dedup_iff {strings : List String} : strings.length = strings.dedup.length ↔ strings.Nodup := by
  constructor
  · intro same
    rw [← List.dedup_eq_self]
    exact strings.dedup_sublist.eq_of_length same.symm
  · intro nodup
    rw [nodup.dedup]

/-- On a value with items a choice type asks for texts and numbers with distinct text forms. -/
theorem validateFieldOptions_iterable {items : List Json} (choice : fieldType.isChoice = true)
    (truthy : options.truthy = true) (iterated : options.iterate = .ok items) :
    (validateFieldOptions py fieldType options = .ok () ↔
        (∀ item ∈ items, item.isStr = true ∨ item.isNumber = true) ∧ (items.map py.str).Nodup) ∧
      ∀ exn, validateFieldOptions py fieldType options = .error exn →
        ∃ message, exn = .validationErrorDict "options" message := by
  simp only [validateFieldOptions, choice, truthy, iterated, if_true, Bool.not_true, Bool.false_eq_true, if_false,
    bind, Except.bind]
  rw [← length_eq_dedup_iff, List.length_map]
  cases checked : checkEach (fun opt => if opt.isStr || opt.isNumber then .ok () else
      .error (.validationErrorDict "options" "Each option must be a string or number.")) items with
  | error exn =>
    obtain ⟨item, member, raised⟩ := checkEach_eq_error checked
    split at raised
    · cases raised
    · rename_i notOption
      cases raised
      refine ⟨iff_of_false nofun fun fits => notOption ?_, fun _ same => ⟨_, (Except.error.inj same).symm⟩⟩
      simpa using fits.1 item member
  | ok =>
    have fits := checkEach_eq_ok.mp checked
    have areOptions : ∀ item ∈ items, item.isStr = true ∨ item.isNumber = true := by
      intro item member
      have passes := fits item member
      split at passes
      · rename_i isOption
        simpa using isOption
      · cases passes
    simp only [and_iff_right areOptions]
    split
    · rename_i duplicates
      exact ⟨iff_of_false nofun duplicates, fun _ same => ⟨_, (Except.error.inj same).symm⟩⟩
    · rename_i distinct
      exact ⟨iff_of_true rfl (not_not.mp distinct), nofun⟩

theorem nodup_characters_iff {chars : List Char} :
    ((chars.map fun c => Json.str (String.ofList [c])).map py.str).Nodup ↔ chars.Nodup := by
  rw [List.map_map]
  apply List.nodup_map_iff
  intro c c' same
  have texts : String.ofList [c] = String.ofList [c'] := same
  simpa using congrArg String.toList texts

theorem nodup_names_iff {entries : List (String × Json)} :
    ((entries.map fun entry => Json.str entry.1).map py.str).Nodup ↔ (entries.map Prod.fst).Nodup := by
  rw [List.map_map]
  rfl

theorem validateFieldOptions_not_iterable {exn : PyExn} (choice : fieldType.isChoice = true)
    (truthy : options.truthy = true) (raised : options.iterate = .error exn) :
    validateFieldOptions py fieldType options = .error exn := by
  simp [validateFieldOptions, choice, truthy, raised, bind, Except.bind]

theorem validateFieldOptions_falsy (choice : fieldType.isChoice = true) (falsy : options.truthy = false) :
    ∃ message, validateFieldOptions py fieldType options = .error (.validationErrorDict "options" message) := by
  simp [validateFieldOptions, choice, falsy]

/-- A value that is no list is handled exactly when the validator refuses it. -/
theorem optionsExact_iff_refused (choice : fieldType.isChoice = true) (noList : ∀ items, options ≠ .list items) :
    OptionsExact py fieldType options ↔
      ∃ message, validateFieldOptions py fieldType options = .error (.validationErrorDict "options" message) := by
  have misfit : ¬ OptionsFit py fieldType options := by
    simp only [OptionsFit, choice, if_true]
    rintro ⟨items, isList, _⟩
    exact noList items isList
  unfold OptionsExact
  constructor
  · intro exactly
    obtain ⟨accepted_iff, refuses⟩ := exactly
    cases result : validateFieldOptions py fieldType options with
    | ok => exact absurd (accepted_iff.mp result) misfit
    | error exn =>
      obtain ⟨message, rfl⟩ := refuses exn result
      exact ⟨message, rfl⟩
  · intro refused
    obtain ⟨message, result⟩ := refused
    rw [result]
    exact ⟨iff_of_false nofun misfit, fun _ same => ⟨message, (Except.error.inj same).symm⟩⟩

/-- A value with items that is no list is refused exactly when two of its items have one text form. -/
theorem optionsExact_iff_of_iterable {items : List Json} (choice : fieldType.isChoice = true)
    (truthy : options.truthy = true) (noList : ∀ items, options ≠ .list items)
    (iterated : options.iterate = .ok items) (areTexts : ∀ item ∈ items, item.isStr = true) :
    OptionsExact py fieldType options ↔ ¬ (items.map py.str).Nodup := by
  obtain ⟨accepted_iff, refuses⟩ := @validateFieldOptions_iterable py _ _ _ choice truthy iterated
  rw [and_iff_right fun item member => Or.inl (areTexts item member)] at accepted_iff
  rw [optionsExact_iff_refused choice noList, ← accepted_iff]
  cases result : validateFieldOptions py fieldType options with
  | ok => simp
  | error exn =>
    obtain ⟨message, rfl⟩ := refuses exn result
    simp

theorem optionsExact_of_falsy (choice : fieldType.isChoice = true) (falsy : options.truthy = false) :
    OptionsExact py fieldType options := by
  obtain ⟨message, refused⟩ := @validateFieldOptions_falsy py _ _ choice falsy
  have misfit : ¬ OptionsFit py fieldType options := by
    simp only [OptionsFit, choice, if_true]
    rintro ⟨items, rfl, nonempty, _⟩
    cases items with
    | nil => exact nonempty rfl
    | cons => cases falsy
  unfold OptionsExact
  rw [refused]
  exact ⟨iff_of_false nofun misfit, fun _ same => ⟨message, (Except.error.inj same).symm⟩⟩

theorem optionsExact_list {items : List Json} (choice : fieldType.isChoice = true) :
    OptionsExact py fieldType (.list items) := by
  cases items with
  | nil => exact optionsExact_of_falsy choice rfl
  | cons item rest =>
    have nonempty : (Json.list (item :: rest)).truthy = true := rfl
    obtain ⟨accepted_iff, refuses⟩ := @validateFieldOptions_iterable py _ _ _ choice nonempty rfl
    refine ⟨accepted_iff.trans ?_, refuses⟩
    simp [OptionsFit, choice, ChoiceOptions]

theorem optionsExact_iff_of_number (choice : fieldType.isChoice = true) (raised : options.iterate = .error .typeError) :
    OptionsExact py fieldType options ↔ options.truthy = false := by
  cases truthy : options.truthy with
  | false => exact iff_of_true (optionsExact_of_falsy choice truthy) rfl
  | true =>
    refine iff_of_false (fun exactly => ?_) nofun
    obtain ⟨message, same⟩ := exactly.2 _ (validateFieldOptions_not_iterable choice truthy raised)
    cases same

theorem optionsExact_of_not_choice (noChoice : fieldType.isChoice = false) : OptionsExact py fieldType options := by
  simp only [OptionsExact, OptionsFit, validateFieldOptions, noChoice, Bool.false_eq_true, if_false]
  cases options.truthy with
  | true => exact ⟨by simp, fun _ same => ⟨_, (Except.error.inj same).symm⟩⟩
  | false => simp

/-- An accepted choice field offers its options: distinct texts, and at least one. -/
theorem options_offered (accepted : validateFieldOptions py fieldType options = .ok ())
    (choice : fieldType.isChoice = true) :
    ∃ offered, py.strs options = .ok offered ∧ offered ≠ [] ∧ offered.Nodup := by
  cases truthy : options.truthy with
  | false =>
    obtain ⟨message, refused⟩ := @validateFieldOptions_falsy py _ _ choice truthy
    rw [refused] at accepted
    cases accepted
  | true =>
    cases iterated : options.iterate with
    | error exn =>
      rw [validateFieldOptions_not_iterable choice truthy iterated] at accepted
      cases accepted
    | ok items =>
      have distinct := ((validateFieldOptions_iterable choice truthy iterated).1.mp accepted).2
      refine ⟨items.map py.str, by simp [Interpreter.strs, iterated, Functor.map, Except.map], ?_, distinct⟩
      -- a true value that can be iterated has an item
      cases options with
      | str text =>
        cases iterated
        simpa [Json.truthy] using truthy
      | list items' =>
        cases iterated
        simpa [Json.truthy] using truthy
      | object entries =>
        cases iterated
        simpa [Json.truthy] using truthy
      | _ => cases iterated

end

/-- `validate_field_options` accepts exactly the options that fit and raises nothing but
`ValidationError`, unless a choice field is given a number, a text or an object. -/
theorem validateFieldOptions_exact_iff (py : Interpreter) (fieldType : FieldType) (options : Json) :
    (OptionsExact py fieldType options ↔ (fieldType.isChoice = true → ¬ MistakenForOptions options)) ∧
      (validateFieldOptions py fieldType options = .ok () → fieldType.isChoice = true →
        ∃ offered, py.strs options = .ok offered ∧ offered ≠ [] ∧ offered.Nodup) := by
  refine ⟨?_, options_offered⟩
  cases choice : fieldType.isChoice with
  | false => exact iff_of_true (optionsExact_of_not_choice choice) nofun
  | true =>
    rw [imp_iff_right rfl]
    cases options with
    | null => exact iff_of_true (optionsExact_of_falsy choice rfl) not_false
    | bool | int | float =>
      rw [optionsExact_iff_of_number choice rfl, ← Bool.not_eq_true]
      rfl
    | list items => exact iff_of_true (optionsExact_list choice) not_false
    | str text =>
      cases truthy : (Json.str text).truthy with
      | false =>
        refine iff_of_true (optionsExact_of_falsy choice truthy) fun mistaken => ?_
        simp [Json.truthy, mistaken.1] at truthy
      | true =>
        have nonempty : text ≠ "" := by simpa [Json.truthy] using truthy
        have areTexts : ∀ item ∈ text.toList.map fun c => Json.str (String.ofList [c]), item.isStr = true :=
          List.forall_mem_map.mpr fun _ _ => rfl
        rw [optionsExact_iff_of_iterable choice truthy nofun rfl areTexts, nodup_characters_iff]
        simp only [MistakenForOptions, nonempty, ne_eq, not_false_eq_true, true_and]
    | object entries =>
      cases entries with
      | nil => exact iff_of_true (optionsExact_of_falsy choice rfl) fun mistaken => mistaken.1 rfl
      | cons entry rest =>
        have truthy : (Json.object (entry :: rest)).truthy = true := rfl
        have areTexts : ∀ item ∈ (entry :: rest).map fun entry => Json.str entry.1, item.isStr = true :=
          List.forall_mem_map.mpr fun _ _ => rfl
        rw [optionsExact_iff_of_iterable choice truthy nofun rfl areTexts, nodup_names_iff]
        simp only [MistakenForOptions, ne_eq, reduceCtorEq, not_false_eq_true, true_and]

/-- `5` is a `TypeError`, and the text `"ab"` passes for the options `a` and `b`. -/
theorem validateFieldOptions_not_exact :
    ¬ OptionsExact bareInterpreter .dropdown (.int 5) ∧ ¬ OptionsExact bareInterpreter .dropdown (.str "ab") := by
  constructor
  · intro exactly
    obtain ⟨message, same⟩ := exactly.2 .typeError rfl
    cases same
  · intro exactly
    obtain ⟨items, isList, _⟩ := exactly.1.mp (by decide)
    cases isList

end SurveyPlatform.Verified

import SurveyPlatform.Verified.FieldEdits

/-! # Editing the options of a field

The rule validators look options up by their `str`; `update_field` looks for a
change with `==`, for which `1`, `1.0` and `True` are one value.  So options can
change their strings without a revalidation, and the rules still fit exactly
when no string that one of them looks up is lost (`updateField_keepsRules_iff`).
-/

namespace SurveyPlatform.Verified

open SurveyPlatform.Library SurveyPlatform.Library.Program SurveyPlatform.Python SurveyPlatform.Surveys

/-! ## The strings a rule looks up -/

def itemStrings (py : Interpreter) : Json → List String
  | .list items => items.map py.str
  | _ => []

/-- What `validate_operator_value` looks up among the options. -/
def operatorOptions (py : Interpreter) (fieldType : FieldType) (operator : ComparisonOperator) (value : Json) : List String :=
  match fieldType with
  | .dropdown | .radio =>
    match operator with
    | .isIn => itemStrings py value
    | .equals | .notEquals | .contains => [py.str value]
    | .greaterThan | .lessThan => []
  | .checkbox =>
    match operator with
    | .isIn => itemStrings py value
    | .contains => [py.str value]
    | _ => []
  | _ => []

/-- What `validate_action_value` looks up. -/
def actionOptions (py : Interpreter) (fieldType : FieldType) (action : Action) (actionValue : Json) : List String :=
  match action with
  | .showOptions | .hideOptions => itemStrings py actionValue
  | .setValue =>
    match fieldType with
    | .dropdown | .radio => [py.str actionValue]
    | .checkbox => itemStrings py actionValue
    | _ => []

/-- A lookup among the options succeeds; without options none is made. -/
def Offers (py : Interpreter) (options : Json) (option : String) : Prop :=
  options.truthy = true → ∃ allowed, py.strs options = .ok allowed ∧ option ∈ allowed

/-- A rule or dependency looks the string up among the options of the field. -/
def LooksUp (py : Interpreter) (db : Database) (field : Field) (option : String) : Prop :=
  (∃ rule, db.conditionalRules.get rule.id = some rule ∧ rule.dependsOnFieldId = field.id ∧
    option ∈ operatorOptions py field.fieldType rule.operator rule.value) ∨
  (∃ dep, db.fieldDependencies.get dep.id = some dep ∧ dep.dependsOnFieldId = field.id ∧
    option ∈ operatorOptions py field.fieldType dep.operator dep.value) ∨
  ∃ dep, db.fieldDependencies.get dep.id = some dep ∧ dep.dependentFieldId = field.id ∧
    option ∈ actionOptions py field.fieldType dep.action dep.actionValue

section Lookups

variable {py : Interpreter} {options value : Json} {message : String}

theorem orEmpty_of_truthy (truthy : options.truthy = true) : orEmpty options = options := if_pos truthy

theorem truthy_orEmpty (options : Json) : (orEmpty options).truthy = options.truthy := by
  cases truthy : options.truthy with
  | true => rw [orEmpty_of_truthy truthy, truthy]
  | false => rw [orEmpty, truthy]; rfl

theorem requireOption_eq_ok (truthy : options.truthy = true) :
    requireOption py (orEmpty options) value message = .ok () ↔ Offers py options (py.str value) := by
  rw [orEmpty_of_truthy truthy, requireOption, bind_eq_ok, Offers, imp_iff_right truthy]
  simp only [rejectIf_eq_ok, not_not]

theorem lookup_eq_ok :
    (if (orEmpty options).truthy = true then requireOption py (orEmpty options) value message else .ok ()) = .ok () ↔
      ∀ option ∈ [py.str value], Offers py options option := by
  rw [List.forall_mem_singleton, truthy_orEmpty]
  split
  · rename_i truthy
    exact requireOption_eq_ok truthy
  · rename_i falsy
    exact iff_of_true rfl fun truthy => absurd truthy falsy

/-- The lookup of `equals` is skipped the other way round. -/
theorem lookup_unless_eq_ok :
    (if (!(orEmpty options).truthy) = true then .ok () else requireOption py (orEmpty options) value message) = .ok () ↔
      ∀ option ∈ [py.str value], Offers py options option := by
  rw [← lookup_eq_ok]
  cases (orEmpty options).truthy <;> rfl

theorem requireItems_eq_ok {check : Json → Except PyExn Unit} :
    requireItems value message check = .ok () ↔ ∃ values, value = .list values ∧ ∀ v ∈ values, check v = .ok () := by
  cases value with
  | list values => simp [requireItems, checkEach_eq_ok]
  | _ => simp [requireItems, reject]

/-- A list whose items are looked up. -/
theorem lookups_eq_ok {refusal : Json → String} :
    requireItems value message (fun v =>
      if (orEmpty options).truthy = true then requireOption py (orEmpty options) v (refusal v) else .ok ()) = .ok () ↔
      requireItems value message (fun _ => .ok ()) = .ok () ∧ ∀ option ∈ itemStrings py value, Offers py options option := by
  simp only [requireItems_eq_ok, lookup_eq_ok, List.forall_mem_singleton]
  cases value with
  | list values => simp [itemStrings]
  | _ => simp

end Lookups

/-! ## The validators without the options -/

/-- Only the id and the type of a field. -/
def bareField (field : Field) : Field := { blankField 0 with id := field.id, fieldType := field.fieldType }

section Validators

variable {py : Interpreter} {field : Field}

theorem noLookup {options : Json} : ∀ option ∈ ([] : List String), Offers py options option :=
  fun _ member => absurd member List.not_mem_nil

theorem validateOperatorValue_eq_ok_iff {operator : ComparisonOperator} {value : Json} :
    validateOperatorValue py field operator value = .ok () ↔
      validateOperatorValue py (bareField field) operator value = .ok () ∧
        ∀ option ∈ operatorOptions py field.fieldType operator value, Offers py field.options option := by
  obtain ⟨id, sectionId, label, fieldType, required, order, options, isEncrypted, validationRules⟩ := field
  cases fieldType with
  | dropdown | radio =>
    cases operator with
    | isIn => exact lookups_eq_ok
    | equals | notEquals => exact lookup_unless_eq_ok.trans (and_iff_right rfl).symm
    | contains => exact lookup_eq_ok.trans (and_iff_right rfl).symm
    | greaterThan | lessThan => exact iff_of_false reject_ne_ok fun passed => reject_ne_ok passed.1
  | checkbox =>
    cases operator with
    | isIn => exact lookups_eq_ok
    | contains => exact lookup_eq_ok.trans (and_iff_right rfl).symm
    | equals | notEquals => exact (and_iff_left noLookup).symm
    | greaterThan | lessThan => exact iff_of_false reject_ne_ok fun passed => reject_ne_ok passed.1
  -- the options of the other types are not looked at
  | _ => exact (and_iff_left noLookup).symm

theorem validateActionValue_eq_ok_iff {action : Action} {actionValue : Json} :
    validateActionValue py action actionValue field = .ok () ↔
      validateActionValue py action actionValue (bareField field) = .ok () ∧
        ∀ option ∈ actionOptions py field.fieldType action actionValue, Offers py field.options option := by
  obtain ⟨id, sectionId, label, fieldType, required, order, options, isEncrypted, validationRules⟩ := field
  cases action with
  | showOptions | hideOptions =>
    simp only [validateActionValue, seq_eq_ok, lookups_eq_ok, and_assoc]
    refine and_congr_right fun _ => and_congr_right fun _ => and_congr_right fun _ => ?_
    -- a field without options offers everything
    exact (and_iff_right fun _ _ truthy => absurd truthy Bool.false_ne_true).symm
  | setValue =>
    cases fieldType with
    | dropdown | radio => exact lookup_eq_ok.trans (and_iff_right rfl).symm
    | checkbox => exact lookups_eq_ok
    | _ => exact (and_iff_left noLookup).symm

/-- The rules fit the type, and the options offer what is looked up. -/
theorem fitsRules_iff {db : Database} : FitsRules py db field ↔
    FitsRules py db (bareField field) ∧ ∀ option, LooksUp py db field option → Offers py field.options option := by
  constructor
  · intro fits
    refine ⟨⟨fun rule stored named => ?_, fun dep stored named => ?_, fun dep stored named => ?_⟩, fun option looksUp => ?_⟩
    · exact (validateOperatorValue_eq_ok_iff.mp (fits.rules rule stored named)).1
    · exact (validateOperatorValue_eq_ok_iff.mp (fits.sources dep stored named)).1
    · exact (validateActionValue_eq_ok_iff.mp (fits.targets dep stored named)).1
    · obtain ⟨rule, stored, named, tested⟩ | ⟨dep, stored, named, tested⟩ | ⟨dep, stored, named, listed⟩ := looksUp
      · exact (validateOperatorValue_eq_ok_iff.mp (fits.rules rule stored named)).2 option tested
      · exact (validateOperatorValue_eq_ok_iff.mp (fits.sources dep stored named)).2 option tested
      · exact (validateActionValue_eq_ok_iff.mp (fits.targets dep stored named)).2 option listed
  · intro holds
    obtain ⟨bare, offered⟩ := holds
    refine ⟨fun rule stored named => ?_, fun dep stored named => ?_, fun dep stored named => ?_⟩
    · exact validateOperatorValue_eq_ok_iff.mpr ⟨bare.rules rule stored named,
        fun option tested => offered option (Or.inl ⟨rule, stored, named, tested⟩)⟩
    · exact validateOperatorValue_eq_ok_iff.mpr ⟨bare.sources dep stored named,
        fun option tested => offered option (Or.inr (Or.inl ⟨dep, stored, named, tested⟩))⟩
    · exact validateActionValue_eq_ok_iff.mpr ⟨bare.targets dep stored named,
        fun option listed => offered option (Or.inr (Or.inr ⟨dep, stored, named, listed⟩))⟩

end Validators

/-! ## The update -/

section Edits

variable {py : Interpreter} {w w' : World} {current : PlacedField} {updated : Field} {data : FieldData}

/-- Options that count as unchanged still offer every string a rule looks up. -/
def KeepsLookups (py : Interpreter) (db : Database) (current : PlacedField) (data : FieldData) : Prop :=
  ∀ old, listedOptions current = .ok old → ¬ ChangesTypeOrOptions current old data → ∀ options,
    data.options = some options → ∀ option, LooksUp py db current.toField option → Offers py options option

/-- Without a change of the type, what is looked up stays. -/
theorem type_of_unchanged {old : List Json} (unchanged : ¬ ChangesTypeOrOptions current old data) :
    (data.assign current.toField).fieldType = current.fieldType := by
  rw [ChangesTypeOrOptions, not_or] at unchanged
  cases submitted : data.fieldType with
  | none => rw [FieldData.assign, submitted, Option.getD_none]
  | some fieldType =>
    rw [FieldData.assign, submitted, Option.getD_some]
    exact not_not.mp fun differs => unchanged.1 ⟨fieldType, submitted, differs⟩

theorem fitsRules_fieldEdited {db : Database} {field : Field} :
    FitsRules py (fieldEdited db current data) field ↔ FitsRules py db field :=
  ⟨fun fits => ⟨fits.rules, fits.sources, fits.targets⟩, fun fits => ⟨fits.rules, fits.sources, fits.targets⟩⟩

/-- The rules see the type and the options of a field only. -/
theorem fitsRules_assign_iff {db : Database} (sameType : (data.assign current.toField).fieldType = current.fieldType)
    (fits : FitsRules py db current.toField) : FitsRules py db (data.assign current.toField) ↔
      ∀ option, LooksUp py db current.toField option → Offers py (data.options.getD current.options) option := by
  have sameBare : bareField (data.assign current.toField) = bareField current.toField := by
    rw [bareField, sameType]
    rfl
  have sameLookups : LooksUp py db (data.assign current.toField) = LooksUp py db current.toField := by
    unfold LooksUp
    rw [sameType]
    rfl
  rw [fitsRules_iff, sameBare, sameLookups]
  exact and_iff_right (fitsRules_iff.mp fits).1

/-- After an edit that succeeds the rules fit exactly when no looked-up string was lost unnoticed. -/
theorem updateField_keepsRules_iff (placed : w.db.placedField current.id = some current)
    (fits : FitsRules py w.db current.toField) (returned : updateField py current data w = .ok updated w') :
    FitsRules py w'.db updated ↔ KeepsLookups py w.db current data := by
  obtain ⟨old, listed, _, revalidated, rfl, rfl⟩ :=
    (updateField_eq_ok_iff (Database.placedField_eq_some.mp placed).1).mp returned
  by_cases changed : ChangesTypeOrOptions current old data
  · refine iff_of_true (revalidateRulesForField_eq_ok_iff.mp (revalidated changed)) fun other listed' unchanged => ?_
    cases listed.symm.trans listed'
    exact absurd changed unchanged
  · refine fitsRules_fieldEdited.trans ((fitsRules_assign_iff (type_of_unchanged changed) fits).trans ?_)
    constructor
    · intro offered other _ _ options submitted
      rwa [submitted, Option.getD_some] at offered
    · intro keeps
      cases submitted : data.options with
      | none => exact (fitsRules_iff.mp fits).2
      | some options => exact keeps old listed changed options submitted

end Edits

/-! ## A field with a numeric option -/

/-- The first field of the small draft, with options `[1, "b"]`. -/
def numberedSmoker : PlacedField := { smoker with options := .list [.int 1, .str "b"] }

/-- Its rule checks for `1`. -/
def numberedWorld : World :=
  ⟨{ draftDatabase with
    fields := draftDatabase.fields.save numberedSmoker.toField
    conditionalRules := draftDatabase.conditionalRules.save ⟨1, 1, none, some 2, 1, .equals, .int 1⟩ }, fun _ => none⟩

def newOptions (options : List Json) : FieldData := ⟨none, none, none, none, some (.list options), none, none⟩

/-- A third option is added. -/
theorem updateField_keepsRules_added : ∃ updated w', updateField bareInterpreter numberedSmoker
    (newOptions [.int 1, .str "b", .str "c"]) numberedWorld = .ok updated w' ∧
      FitsRules bareInterpreter w'.db updated := by
  refine ⟨_, _, rfl, ?_⟩
  refine (@updateField_keepsRules_iff bareInterpreter numberedWorld _ numberedSmoker _
    (newOptions [.int 1, .str "b", .str "c"]) rfl (revalidateRulesForField_eq_ok_iff.mp rfl) rfl).mpr ?_
  intro old listed unchanged
  cases listed
  exact absurd (Or.inr ⟨_, rfl, rfl⟩) unchanged

/-- `[True, "b"] == [1, "b"]`, but the rule looks for `"1"`. -/
theorem updateField_losesOption_true : numberedWorld.db.placedField 1 = some numberedSmoker ∧
    IsDraft numberedWorld.db 1 ∧ FitsRules bareInterpreter numberedWorld.db numberedSmoker.toField ∧
    validateFieldData bareInterpreter numberedSmoker.toField (newOptions [.bool true, .str "b"]) =
      .ok (newOptions [.bool true, .str "b"]) ∧
    ∃ updated w', updateField bareInterpreter numberedSmoker (newOptions [.bool true, .str "b"]) numberedWorld =
      .ok updated w' ∧ ¬ FitsRules bareInterpreter w'.db updated := by
  refine ⟨rfl, ⟨_, rfl, rfl⟩, revalidateRulesForField_eq_ok_iff.mp rfl, rfl, _, _, rfl, fun fits => ?_⟩
  have passed := fits.rules ⟨1, 1, none, some 2, 1, .equals, .int 1⟩ rfl rfl
  cases passed

end SurveyPlatform.Verified

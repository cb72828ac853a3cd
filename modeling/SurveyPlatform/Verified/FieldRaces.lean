import SurveyPlatform.Library.Runs
import SurveyPlatform.Surveys.Steps
import SurveyPlatform.Verified.EditEffects
import SurveyPlatform.Verified.RuleGroups

/-! # Concurrent edits of a field

`FieldSerializer.validate` checks the type against the options and the
validation rules of the instance it loaded; the save writes the submitted
columns onto whatever row is there by then.  Both checks see only the class of a
type, so the row stays well formed exactly when, at each write, the stored type
and the one that was checked are of one class (`fieldEdits_wellFormed_iff`).
-/

namespace SurveyPlatform.Verified

open SurveyPlatform.Library SurveyPlatform.Library.Program SurveyPlatform.Python SurveyPlatform.Surveys

/-! ## Well-formed fields -/

/-- The three columns pass the two validators of the serializer. -/
def FieldWellFormed (py : Interpreter) (row : Field) : Prop :=
  validateFieldOptions py row.fieldType row.options = .ok () ∧
    validateValidationRules py row.fieldType row.validationRules = .ok ()

/-- Both numeric, both textual, or neither. -/
def SameKind (a b : FieldType) : Prop := a.isNumeric = b.isNumeric ∧ a.isText = b.isText

section Classes

variable {py : Interpreter} {t t' : FieldType}

theorem validateFieldOptions_iff_of_ok {options : Json} (passed : validateFieldOptions py t options = .ok ()) :
    validateFieldOptions py t' options = .ok () ↔ t'.isChoice = t.isChoice := by
  unfold validateFieldOptions at passed ⊢
  cases choice : t.isChoice with
  | true =>
    cases choice' : t'.isChoice with
    | true => simpa [choice] using passed
    | false =>
      refine iff_of_false (fun passed' => ?_) Bool.false_ne_true
      cases truthy : options.truthy <;> simp [choice, truthy] at passed passed'
  | false =>
    cases choice' : t'.isChoice with
    | true =>
      refine iff_of_false (fun passed' => ?_) Bool.false_ne_true.symm
      cases truthy : options.truthy <;> simp [choice, truthy] at passed passed'
    | false =>
      cases truthy : options.truthy <;> simp [choice, truthy] at passed ⊢

/-! ## Kinds -/

theorem eq_number_of_isNumeric (numeric : t.isNumeric = true) : t = .number := by
  cases t with
  | number => rfl
  | _ => cases numeric

theorem not_isNumeric_of_isText (text : t.isText = true) : t.isNumeric = false := by
  cases t with
  | number => cases text
  | _ => rfl

theorem sameKind_of_isNumeric (numeric : t.isNumeric = true) (numeric' : t'.isNumeric = true) : SameKind t t' := by
  rw [eq_number_of_isNumeric numeric, eq_number_of_isNumeric numeric']
  exact ⟨rfl, rfl⟩

theorem sameKind_of_isText (text : t.isText = true) (text' : t'.isText = true) : SameKind t t' :=
  ⟨(not_isNumeric_of_isText text).trans (not_isNumeric_of_isText text').symm, text.trans text'.symm⟩

/-- The rules see no more of the type than its kind, and any rule tells the kind. -/
theorem validateValidationRules_object_sameKind {entries : List (String × Json)} (nonempty : entries ≠ [])
    (passed : validateValidationRules py t (.object entries) = .ok ()) :
    validateValidationRules py t' (.object entries) = .ok () ↔ SameKind t' t := by
  rw [validateValidationRules_object_iff nonempty] at passed ⊢
  constructor
  · intro passed'
    obtain ⟨⟨name, value⟩, rest, rfl⟩ := List.exists_cons_of_ne_nil nonempty
    have isKey := passed.known name List.mem_cons_self
    have found : ((name, value) :: rest).lookup name = some value := List.lookup_cons_self
    simp only [validationRuleKeys, List.mem_cons, List.not_mem_nil, or_false] at isKey
    obtain rfl | rfl | rfl | rfl | rfl := isKey
    · exact sameKind_of_isNumeric (passed'.bounds.low _ found).1 (passed.bounds.low _ found).1
    · exact sameKind_of_isNumeric (passed'.bounds.high _ found).1 (passed.bounds.high _ found).1
    · exact sameKind_of_isText (passed'.lengths.low _ found).1 (passed.lengths.low _ found).1
    · exact sameKind_of_isText (passed'.lengths.high _ found).1 (passed.lengths.high _ found).1
    · exact sameKind_of_isText (passed'.regex _ found).1 (passed.regex _ found).1
  · intro same
    obtain ⟨sameNumeric, sameText⟩ := same
    obtain ⟨known, bounds, lengths, regex⟩ := passed
    rw [← sameNumeric] at bounds
    rw [← sameText] at lengths regex
    exact ⟨known, bounds, lengths, regex⟩

theorem validateValidationRules_iff_of_ok {rules : Json} (passed : validateValidationRules py t rules = .ok ()) :
    validateValidationRules py t' rules = .ok () ↔ (rules.truthy = true → SameKind t' t) := by
  cases truthy : rules.truthy with
  | false =>
    refine iff_of_true ?_ nofun
    unfold validateValidationRules
    rw [truthy]
    rfl
  | true =>
    rw [imp_iff_right rfl]
    cases rules with
    | object entries =>
      have nonempty : entries ≠ [] := by
        rintro rfl
        cases truthy
      exact validateValidationRules_object_sameKind nonempty passed
    | _ =>
      unfold validateValidationRules at passed
      rw [truthy] at passed
      cases passed

end Classes

/-! ## Columns written over another row -/

/-- The type in the row and the one that was checked are of one class, where it matters. -/
structure KeepsClasses (loaded stored : Field) (data : FieldData) : Prop where
  options : data.fieldType.isSome ≠ data.options.isSome →
    stored.fieldType.isChoice = (data.assign loaded).fieldType.isChoice
  rules : data.fieldType.isSome ≠ data.validationRules.isSome → (data.assign stored).validationRules.truthy = true →
    SameKind stored.fieldType (data.assign loaded).fieldType

/-- A check of a type and a value that sees only a class of the type: written over a
checked pair, one new component passes when the classes agree. -/
theorem pair_over_iff {α β : Type} {passes : α → β → Prop} {same : β → α → α → Prop}
    (symmetric : ∀ b x y, same b x y → same b y x) (agree : ∀ x y b, passes x b → (passes y b ↔ same b y x))
    {x? : Option α} {b? : Option β} {loaded stored : α} {loadedValue storedValue : β} (storedPasses : passes stored storedValue)
    (checked : passes (x?.getD loaded) (b?.getD loadedValue)) :
    passes (x?.getD stored) (b?.getD storedValue) ↔
      (x?.isSome ≠ b?.isSome → same (b?.getD storedValue) stored (x?.getD loaded)) := by
  have different {p : Prop} : (true ≠ false → p) ↔ p := imp_iff_right Bool.noConfusion
  have different' {p : Prop} : (false ≠ true → p) ↔ p := imp_iff_right Bool.noConfusion
  cases x? with
  | none =>
    cases b? with
    | none => exact iff_of_true storedPasses fun unequal => absurd rfl unequal
    | some b => exact (agree loaded stored b checked).trans different'.symm
  | some x =>
    cases b? with
    | none =>
      have turned : same storedValue x stored ↔ same storedValue stored x := ⟨symmetric _ _ _, symmetric _ _ _⟩
      exact (agree stored x storedValue storedPasses).trans (turned.trans different.symm)
    | some b => exact iff_of_true checked fun unequal => absurd rfl unequal

theorem fieldWellFormed_over_iff {py : Interpreter} {loaded stored : Field} {data : FieldData}
    (wellFormed : FieldWellFormed py stored) (checked : FieldWellFormed py (data.assign loaded)) :
    FieldWellFormed py (data.assign stored) ↔ KeepsClasses loaded stored data := by
  have options_iff := @pair_over_iff _ _ (fun t options => validateFieldOptions py t options = .ok ())
    (fun _ a b => a.isChoice = b.isChoice) (fun _ _ _ => Eq.symm) (fun _ _ _ => validateFieldOptions_iff_of_ok)
    data.fieldType data.options loaded.fieldType stored.fieldType loaded.options stored.options wellFormed.1 checked.1
  have rules_iff := @pair_over_iff _ _ (fun t rules => validateValidationRules py t rules = .ok ())
    (fun rules a b => rules.truthy = true → SameKind a b)
    (fun _ _ _ same truthy => ⟨(same truthy).1.symm, (same truthy).2.symm⟩)
    (fun _ _ _ => validateValidationRules_iff_of_ok) data.fieldType data.validationRules loaded.fieldType
    stored.fieldType loaded.validationRules stored.validationRules wellFormed.2 checked.2
  exact (and_congr options_iff rules_iff).trans ⟨fun holds => ⟨holds.1, holds.2⟩, fun keeps => ⟨keeps.options, keeps.rules⟩⟩

/-! ## One write -/

/-- The service takes the edit of an instance while another row may be stored. -/
structure EditTaken (py : Interpreter) (db : Database) (current : PlacedField) (stored : Field) (data : FieldData) : Prop where
  draft : IsDraft db current.surveyId
  constraints : data.isEmpty = false → db.fieldConstraints (data.assign stored) = .ok ()
  revalidated : ∃ old, listedOptions current = .ok old ∧
    (ChangesTypeOrOptions current old data → FitsRules py db (data.assign current.toField))

section Writes

variable {py : Interpreter} {w : World} {current : PlacedField} {stored : Field} {data : FieldData}

theorem updateField_taken_iff (isStored : w.db.fields.get current.id = some stored) (draft : IsDraft w.db current.surveyId) :
    (∃ updated w', updateField py current data w = .ok updated w') ↔ EditTaken py w.db current stored data := by
  have rules_iff : ∀ {field}, revalidateRulesForField py { w.db with fields := w.db.fields.save (data.assign stored) } field =
      .ok () ↔ FitsRules py w.db field :=
    revalidateRulesForField_eq_ok_iff.trans
      ⟨fun fits => ⟨fits.rules, fits.sources, fits.targets⟩, fun fits => ⟨fits.rules, fits.sources, fits.targets⟩⟩
  simp only [updateField_over_eq_ok_iff isStored, rules_iff]
  constructor
  · intro holds
    obtain ⟨_, _, old, listed, constraints, revalidated, _, _⟩ := holds
    exact ⟨draft, constraints, old, listed, revalidated⟩
  · intro taken
    obtain ⟨_, constraints, old, listed, revalidated⟩ := taken
    exact ⟨_, _, old, listed, constraints, revalidated, rfl, rfl⟩

theorem ensureDraftSurveyOf_bind_of_draft {β : Type} {surveyId : Nat} {next : Unit → Procedure β}
    (draft : IsDraft w.db surveyId) : (ensureDraftSurveyOf surveyId >>= next) w = next () w := by
  obtain ⟨survey, isSurvey, isDraft⟩ := draft
  apply query_bind_of_ok
  rw [isSurvey]
  exact ensureDraftSurvey_eq_ok.mpr isDraft

theorem ensureDraftSurveyOf_bind_of_not {β : Type} {surveyId : Nat} {next : Unit → Procedure β}
    (notDraft : ¬ IsDraft w.db surveyId) : ∃ exn, (ensureDraftSurveyOf surveyId >>= next) w = .error exn w := by
  cases found : w.db.surveys.get surveyId with
  | none => exact ⟨.attributeError, query_bind_of_error (by rw [found])⟩
  | some survey =>
    obtain ⟨message, raised⟩ := ensureDraftSurvey_of_ne fun isDraft => notDraft ⟨survey, found, isDraft⟩
    exact ⟨_, query_bind_of_error (by rw [found]; exact raised)⟩

theorem write_of_draft (draft : IsDraft w.db current.surveyId) :
    final (FieldRequest.write py current data) w = final (updateField py current data) w := by
  rw [FieldRequest.write, final, ensureDraftSurveyOf_bind_of_draft draft]
  exact final_translating _ _ _

/-- A write that is taken stores the submitted columns over the row that is there. -/
theorem fields_write_of_taken (isStored : w.db.fields.get current.id = some stored)
    (taken : EditTaken py w.db current stored data) :
    (final (FieldRequest.write py current data) w).db.fields = w.db.fields.save (data.assign stored) := by
  obtain ⟨updated, w', returned⟩ := (updateField_taken_iff isStored taken.draft).mpr taken
  rw [write_of_draft taken.draft, final_of_ok returned]
  obtain ⟨_, _, _, _, _, rfl⟩ := (updateField_over_eq_ok_iff isStored).mp returned
  rfl

theorem write_of_not_taken (isStored : w.db.fields.get current.id = some stored)
    (refused : ¬ EditTaken py w.db current stored data) : final (FieldRequest.write py current data) w = w := by
  by_cases draft : IsDraft w.db current.surveyId
  · rw [write_of_draft draft]
    cases result : updateField py current data w with
    | ok updated w' => exact absurd ((updateField_taken_iff isStored draft).mp ⟨updated, w', result⟩) refused
    | error exn w' =>
      rw [final_of_error result]
      exact updateField_eq_error result
  · obtain ⟨exn, raised⟩ := ensureDraftSurveyOf_bind_of_not draft
    exact final_of_error raised

end Writes

/-! ## Any interleaving -/

structure FieldProcess where
  request : FieldRequest
  stage : FieldStage

def FieldProcess.step (py : Interpreter) (surveyPk sectionPk pk : Nat) (w : World) (process : FieldProcess) :
    World × FieldProcess :=
  let after := process.request.step py surveyPk sectionPk pk w process.stage
  (after.1, ⟨process.request, after.2⟩)

def StoredWellFormed (py : Interpreter) (pk : Nat) (db : Database) : Prop :=
  ∃ row, db.fields.get pk = some row ∧ FieldWellFormed py row

/-- The write the request makes next, if it is taken, keeps the classes of the stored row. -/
def WriteKeepsClasses (py : Interpreter) (pk : Nat) (db : Database) : FieldStage → Prop
  | .validated current data => ∀ stored, db.fields.get pk = some stored →
    EditTaken py db current stored data → KeepsClasses current.toField stored data
  | _ => True

/-- What the request has in memory is an instance of the field, and a body that passed over it. -/
def CheckedStage (py : Interpreter) (pk : Nat) : FieldStage → Prop
  | .loaded current => current.id = pk
  | .validated current data => current.id = pk ∧ FieldWellFormed py (data.assign current.toField)
  | _ => True

section Runs

variable {ι : Type} [DecidableEq ι] {py : Interpreter} {surveyPk sectionPk pk : Nat} {w : World}

def fieldMove (py : Interpreter) (surveyPk sectionPk pk : Nat) :
    Config ι World FieldProcess → ι → Config ι World FieldProcess :=
  move fun _ w process => process.step py surveyPk sectionPk pk w

theorem wellFormed_of_validateField {isPartial : Bool} {current : Field} {body : FieldBody} {data : FieldData}
    (validated : validateField py isPartial current body = .ok data) : FieldWellFormed py (data.assign current) := by
  simp only [validateField, validateFieldData, bind_eq_ok, translated_eq_ok, pure_eq_ok] at validated
  obtain ⟨_, _, _, options, _, rules, rfl⟩ := validated
  exact ⟨options, rules⟩

/-- The lookups only read. -/
theorem final_load (request : FieldRequest) (w : World) : final (request.load surveyPk sectionPk pk) w = w := by
  simp only [FieldRequest.load, requireAdmin, getOr404, final_query_bind_eq_self, final_query, implies_true]

theorem id_of_load {request : FieldRequest} {w' : World} {current : PlacedField}
    (loaded : request.load surveyPk sectionPk pk w = .ok current w') : current.id = pk := by
  simp only [FieldRequest.load, requireAdmin_bind_eq_ok_iff, getOr404_bind_eq_ok_iff] at loaded
  obtain ⟨_, _, _, _, _, loaded⟩ := loaded
  rw [getOr404, query_eq_ok_iff] at loaded
  obtain ⟨found, _⟩ := loaded
  cases isField : getField sectionPk pk w.db with
  | none =>
    rw [isField] at found
    cases found
  | some field =>
    rw [isField] at found
    cases found
    rw [getField, Option.filter_eq_some_iff] at isField
    exact w.db.fields.keyed pk _ (Database.placedField_eq_some.mp isField.1).1

theorem checkedStage_step (request : FieldRequest) {stage : FieldStage} (checked : CheckedStage py pk stage) :
    CheckedStage py pk (request.step py surveyPk sectionPk pk w stage).2 := by
  cases stage with
  | received =>
    dsimp only [FieldRequest.step]
    split
    · rename_i loaded
      exact id_of_load loaded
    · trivial
  | loaded current =>
    dsimp only [FieldRequest.step]
    split
    · rename_i validated
      exact ⟨checked, wellFormed_of_validateField validated⟩
    · trivial
  | validated current data => trivial
  | finished => trivial

/-- Only the write touches the row. -/
theorem step_world_of_not_validated (request : FieldRequest) {stage : FieldStage}
    (reads : ∀ current data, stage ≠ .validated current data) :
    (request.step py surveyPk sectionPk pk w stage).1 = w := by
  cases stage with
  | received =>
    have unchanged := @final_load surveyPk sectionPk pk request w
    dsimp only [FieldRequest.step]
    split
    · rename_i loaded
      rw [← final_of_ok loaded, unchanged]
    · rename_i raised
      rw [← final_of_error raised, unchanged]
  | loaded current =>
    dsimp only [FieldRequest.step]
    split <;> rfl
  | validated current data => exact absurd rfl (reads current data)
  | finished => rfl

theorem storedWellFormed_step_iff (request : FieldRequest) {stage : FieldStage} (checked : CheckedStage py pk stage)
    (wellFormed : StoredWellFormed py pk w.db) :
    StoredWellFormed py pk (request.step py surveyPk sectionPk pk w stage).1.db ↔ WriteKeepsClasses py pk w.db stage := by
  cases stage with
  | validated current data =>
    obtain ⟨sameId, passed⟩ := checked
    obtain ⟨stored, isStored, storedPasses⟩ := wellFormed
    have only : ∀ row, w.db.fields.get pk = some row → row = stored := by
      intro row isRow
      rwa [isStored, Option.some.injEq, eq_comm] at isRow
    by_cases taken : EditTaken py w.db current stored data
    · have written := @fields_write_of_taken py w current stored data (sameId ▸ isStored) taken
      have newRow : (final (FieldRequest.write py current data) w).db.fields.get pk = some (data.assign stored) := by
        rw [written, Table.get_save, if_pos]
        exact (w.db.fields.keyed pk stored isStored).symm
      have result_iff : StoredWellFormed py pk (final (FieldRequest.write py current data) w).db ↔
          FieldWellFormed py (data.assign stored) := by
        rw [StoredWellFormed, newRow]
        simp only [Option.some.injEq, exists_eq_left']
      refine result_iff.trans ((fieldWellFormed_over_iff storedPasses passed).trans ⟨fun keeps => ?_, fun keeps => ?_⟩)
      · intro row isRow _
        exact only row isRow ▸ keeps
      · exact keeps stored isStored taken
    · refine iff_of_true ?_ fun row isRow taken' => absurd (only row isRow ▸ taken') taken
      rw [FieldRequest.step, write_of_not_taken (sameId ▸ isStored) taken]
      exact ⟨stored, isStored, storedPasses⟩
  | _ =>
    rw [step_world_of_not_validated request fun _ _ => FieldStage.noConfusion]
    exact iff_of_true wellFormed trivial

/-- Whatever the order of the steps, the field is well formed in every state exactly
when each write that is taken finds a type of the class it was checked with. -/
theorem fieldEdits_wellFormed_iff (py : Interpreter) (surveyPk sectionPk pk : Nat)
    {start : Config ι World FieldProcess} (starts : ∀ i, (start.locals i).stage = .received)
    (wellFormed : StoredWellFormed py pk start.shared.db) (schedule : List ι) :
    (∀ c ∈ trace (fieldMove py surveyPk sectionPk pk) start schedule, StoredWellFormed py pk c.shared.db) ↔
      Along (fieldMove py surveyPk sectionPk pk)
        (fun c i => WriteKeepsClasses py pk c.shared.db (c.locals i).stage) start schedule := by
  let checked : Config ι World FieldProcess → Prop := fun c => ∀ i, CheckedStage py pk (c.locals i).stage
  have kept : ∀ (c : Config ι World FieldProcess) (i : ι), True → checked c →
      checked (fieldMove py surveyPk sectionPk pk c i) := by
    intro c i _ before j
    by_cases same : j = i
    · subst same
      rw [fieldMove, move_locals_self]
      exact checkedStage_step _ (before j)
    · rw [fieldMove, move_locals_other _ _ same]
      exact before j
  have start_checked : checked start := by
    intro i
    rw [starts i]
    trivial
  have assumptions : Along (fieldMove py surveyPk sectionPk pk) (fun c _ => checked c) start schedule :=
    (along_of_forall (fun _ _ => trivial) start schedule).mono (fun _ _ holds _ => holds) kept start_checked
  refine @forall_trace_iff _ _ _ (fun c => StoredWellFormed py pk c.shared.db) _ _ ?_ start wellFormed schedule assumptions
  intro c i holds now
  exact storedWellFormed_step_iff _ (holds i) now

end Runs

/-! ## Two edits of the first dropdown -/

/-- `PATCH {"field_type": "text", "options": []}` -/
def toTextBody : FieldBody := ⟨.missing, .given .text, .missing, .missing, .given (.list []), .missing, .missing⟩

/-- `PATCH {"options": ["a", "b", "c"]}` -/
def thirdOptionBody : FieldBody :=
  ⟨.missing, .missing, .missing, .missing, .given (.list [.str "a", .str "b", .str "c"]), .missing, .missing⟩

/-- `true` makes it a text field, `false` adds an option. -/
def twoEdits : Config Bool World FieldProcess where
  shared := draftWorld
  locals toText := ⟨⟨administrator, true, if toText then toTextBody else thirdOptionBody⟩, .received⟩

theorem twoEdits_wellFormed : StoredWellFormed bareInterpreter 1 twoEdits.shared.db := ⟨_, rfl, rfl, rfl⟩

/-- One after the other. -/
theorem fieldEdits_wellFormed_oneByOne : IsDraft twoEdits.shared.db 1 ∧
    ∀ c ∈ trace (fieldMove bareInterpreter 1 1 1) twoEdits [false, false, false, true, true, true],
      StoredWellFormed bareInterpreter 1 c.shared.db := by
  refine ⟨⟨_, rfl, rfl⟩, (fieldEdits_wellFormed_iff bareInterpreter 1 1 1 (fun _ => rfl) twoEdits_wellFormed _).mpr
    ⟨trivial, trivial, fun stored isStored _ => ?_, trivial, trivial, fun stored isStored _ => ?_, trivial⟩⟩
  · cases isStored
    exact ⟨fun _ => rfl, fun unequal => absurd rfl unequal⟩
  · cases isStored
    exact ⟨fun unequal => absurd rfl unequal, fun _ truthy => nomatch truthy⟩

/-- The options are checked against the dropdown, and stored with the text field. -/
theorem fieldEdits_not_wellFormed_interleaved : StoredWellFormed bareInterpreter 1 twoEdits.shared.db ∧
    IsDraft twoEdits.shared.db 1 ∧ ∃ c ∈ trace (fieldMove bareInterpreter 1 1 1) twoEdits
      [false, false, true, true, true, false], ¬ StoredWellFormed bareInterpreter 1 c.shared.db := by
  refine ⟨twoEdits_wellFormed, ⟨_, rfl, rfl⟩, _, run_mem_trace _ _, ?_⟩
  rintro ⟨row, stored, options, _⟩
  cases stored
  cases options

end SurveyPlatform.Verified

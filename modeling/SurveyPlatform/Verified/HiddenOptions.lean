import SurveyPlatform.Library.Runs
import SurveyPlatform.Verified.EditEffects
import SurveyPlatform.Verified.RuleValidity

/-! # Hidden options and the rules that test them

A dependency that hides an option on a field contradicts a rule that tests the
field for it.  `validate_cr_fd_conflict` looks for such rules when a dependency
is written; nothing looks for such dependencies when a rule is written.  So
definitions that pass their validators leave no contradiction exactly when no
rule is written that tests an option already hidden (`no_contradiction_iff`).
-/

namespace SurveyPlatform.Verified

open SurveyPlatform.Library SurveyPlatform.Library.Program SurveyPlatform.Python SurveyPlatform.Surveys

/-! ## Contradictions -/

/-- The string forms of the values a rule tests for. -/
def testedOptions (py : Interpreter) (rule : ConditionalRule) : List String :=
  match rule.operator with
  | .equals | .notEquals | .contains => [py.str rule.value]
  | .isIn =>
    match rule.value with
    | .list items => items.map py.str
    | _ => []
  | .greaterThan | .lessThan => []

/-- The dependency hides an option the rule tests, on the field it tests. -/
def Contradicts (py : Interpreter) (dep : FieldDependency) (rule : ConditionalRule) : Prop :=
  dep.action = .hideOptions ∧ rule.dependsOnFieldId = dep.dependentFieldId ∧
    ∃ hidden, py.strs (orEmpty dep.actionValue) = .ok hidden ∧ ∃ option ∈ testedOptions py rule, option ∈ hidden

def NoContradiction (py : Interpreter) (db : Database) : Prop :=
  ∀ dep ∈ db.fieldDependencies.rows, ∀ rule ∈ db.conditionalRules.rows, ¬ Contradicts py dep rule

/-! ## Definitions -/

/-- A rule or dependency that is created, or updated under its id. -/
inductive Definition where
  | createRule (data : ConditionalRuleData) (surveyPk : Nat)
  | updateRule (id : Nat) (data : ConditionalRuleData)
  | createDependency (data : FieldDependencyData) (surveyPk : Nat)
  | updateDependency (id : Nat) (data : FieldDependencyData)

/-- The service runs on the stored row. -/
def defineStep (w : World) : Definition → World
  | .createRule data surveyPk => final (createConditionalRule data surveyPk) w
  | .updateRule id data =>
    match w.db.conditionalRules.get id with
    | some current => final (updateConditionalRule current data current.surveyId) w
    | none => w
  | .createDependency data surveyPk => final (createFieldDependency data surveyPk) w
  | .updateDependency id data =>
    match w.db.fieldDependencies.get id with
    | some current => final (updateFieldDependency current data current.surveyId) w
    | none => w

/-- `validate_conditional_rule_data` accepts the full row, with some survey of the URL or without. -/
def RowAccepted (py : Interpreter) (db : Database) (row : ConditionalRule) : Prop :=
  ∃ full surveyPk, fullRule db row = some full ∧ validateConditionalRuleData py full surveyPk = .ok ()

/-- The same for `validate_field_dependency_data`. -/
def DependencyRowAccepted (py : Interpreter) (db : Database) (row : FieldDependency) : Prop :=
  ∃ full surveyPk, fullDependency db row = some full ∧
    validateFieldDependencyData py db.conditionalRules.rows full surveyPk = .ok ()

def DefinitionAccepted (py : Interpreter) (db : Database) : Definition → Prop
  | .createRule data surveyPk => RowAccepted py db (data.assign (blankConditionalRule surveyPk))
  | .updateRule id data => ∀ current, db.conditionalRules.get id = some current → RowAccepted py db (data.assign current)
  | .createDependency data surveyPk => DependencyRowAccepted py db (data.assign (blankFieldDependency surveyPk))
  | .updateDependency id data =>
    ∀ current, db.fieldDependencies.get id = some current → DependencyRowAccepted py db (data.assign current)

/-- No stored dependency hides an option that the row to be written tests. -/
def TestsShownOptions (py : Interpreter) (db : Database) (row : ConditionalRule) : Prop :=
  (db.surveys.get row.surveyId).isSome = true → ∀ dep ∈ db.fieldDependencies.rows, ¬ Contradicts py dep row

def WritesNoHiddenTest (py : Interpreter) (db : Database) : Definition → Prop
  | .createRule data surveyPk => TestsShownOptions py db (data.assign (blankConditionalRule surveyPk))
  | .updateRule id data =>
    ∀ current, db.conditionalRules.get id = some current → TestsShownOptions py db (data.assign current)
  | .createDependency _ _ | .updateDependency _ _ => True

section HiddenOptions

variable {py : Interpreter} {db : Database} {rule : ConditionalRule}

/-! ## The check on the side of the dependencies -/

theorem conflictsWith_eq_ok {hidden : List String} {dependent : Field} :
    conflictsWith py hidden dependent rule = .ok () ↔ ∀ option ∈ testedOptions py rule, option ∉ hidden := by
  unfold conflictsWith testedOptions
  cases rule.operator with
  | equals | notEquals | contains => simp
  | greaterThan | lessThan => simp
  | isIn =>
    cases rule.value with
    | list items =>
      simp only [rejectIf_eq_ok, ne_eq, not_not, List.filter_eq_nil_iff, decide_eq_true_eq]
      exact ⟨fun none option tested isHidden => none option isHidden tested,
        fun none option isHidden tested => none option tested isHidden⟩
    | null | bool | int | float | str | object => simp

/-- A dependency that passed the check contradicts no stored rule. -/
theorem notContradicts_of_accepted {row : FieldDependency} (accepted : DependencyRowAccepted py db row)
    (stored : rule ∈ db.conditionalRules.rows) : ¬ Contradicts py row rule := by
  obtain ⟨full, surveyPk, isFull, accepted⟩ := accepted
  obtain ⟨dependent, dependsOn, foundDependent, _, rfl⟩ := fullDependency_eq_some.mp isFull
  simp only [validateFieldDependencyData, seq_eq_ok, whenSome_eq_ok] at accepted
  obtain ⟨_, _, _, _, _, _, noConflict⟩ := accepted
  rintro ⟨hides, sameField, hidden, isHidden, option, tested, inHidden⟩
  cases null : row.actionValue.isNone with
  | true =>
    -- `null` hides nothing
    have isNull : row.actionValue = .null := by
      cases value : row.actionValue <;> rw [value] at null <;> first | rfl | cases null
    rw [isNull] at isHidden
    cases isHidden
    cases inHidden
  | false =>
    have passed := noConflict dependent rfl row.action rfl row.actionValue (by simp [present, null])
    simp only [validateCrFdConflict, hides, ne_eq, not_true_eq_false, if_false, isHidden] at passed
    have each := checkEach_eq_ok.mp passed rule (List.mem_filter.mpr ⟨stored, by
      simp [sameField, placedField_id foundDependent]⟩)
    exact conflictsWith_eq_ok.mp each option tested inHidden

/-! ## What the services write -/

section Writes

variable {w : World} {surveyPk : Nat}

/-- A new rule is stored exactly when its survey is. -/
theorem createRule_db {data : ConditionalRuleData} {row : ConditionalRule}
    (isRow : row = data.assign (blankConditionalRule surveyPk)) (accepted : RowAccepted py w.db row) :
    (w.db.surveys.get row.surveyId).isSome = true ∧ (final (createConditionalRule data surveyPk) w).db =
        { w.db with conditionalRules := w.db.conditionalRules.insert row.withId row.key_withId } ∨
      (w.db.surveys.get row.surveyId).isSome = false ∧ (final (createConditionalRule data surveyPk) w).db = w.db := by
  subst isRow
  obtain ⟨full, _, isFull, _⟩ := accepted
  have constraints := ruleConstraints_iff isFull w.db.conditionalRules.next
  unfold createConditionalRule
  cases checked : w.db.conditionalRuleConstraints ((data.assign (blankConditionalRule surveyPk)).withId
      w.db.conditionalRules.next) with
  | ok _ =>
    refine Or.inl ⟨constraints.mp checked, ?_⟩
    rw [final, bind_of_ok (Model.insert_of_constraints _ checked)]
    rfl
  | error exn =>
    rw [checked] at constraints
    refine Or.inr ⟨Bool.eq_false_iff.mpr fun stored => (by cases constraints.mpr stored), ?_⟩
    rw [final_of_error (bind_of_error (Model.insert_of_error _ checked))]

/-- An update stores the row, unless its survey is gone or no key was submitted. -/
theorem updateRule_db {current : ConditionalRule} {data : ConditionalRuleData}
    (stored : w.db.conditionalRules.get current.id = some current) (accepted : RowAccepted py w.db (data.assign current)) :
    (w.db.surveys.get current.surveyId).isSome = true ∧ (final (updateConditionalRule current data surveyPk) w).db =
        { w.db with conditionalRules := w.db.conditionalRules.modify current.id data.assign data.key_assign } ∨
      ((w.db.surveys.get current.surveyId).isSome = false ∨ data.assign current = current) ∧
        (final (updateConditionalRule current data surveyPk) w).db = w.db := by
  obtain ⟨full, _, isFull, _⟩ := accepted
  have constraints : w.db.conditionalRuleConstraints (data.assign current) = .ok () ↔ _ :=
    ruleConstraints_iff isFull current.id
  unfold updateConditionalRule
  cases empty : data.isEmpty with
  | true => exact Or.inr ⟨Or.inr (ConditionalRuleData.assign_of_isEmpty empty current), rfl⟩
  | false =>
    rw [saveFields_false]
    cases checked : w.db.conditionalRuleConstraints (data.assign current) with
    | ok _ =>
      have updated : conditionalRuleModel.update current.id data.assign data.key_assign w = .ok () _ :=
        Model.update_eq_ok_iff.mpr ⟨current, stored, checked, rfl⟩
      refine Or.inl ⟨constraints.mp checked, ?_⟩
      rw [final, bind_of_ok updated]
      rfl
    | error exn =>
      have refused : conditionalRuleModel.update current.id data.assign data.key_assign w = .error exn w := by
        apply query_bind_of_error
        rw [show conditionalRuleModel.table w.db = w.db.conditionalRules from rfl, stored]
        exact checked
      rw [checked] at constraints
      refine Or.inr ⟨Or.inl (Bool.eq_false_iff.mpr fun found => (by cases constraints.mpr found)), ?_⟩
      rw [final_of_error (bind_of_error refused)]

/-- The dependencies are not touched, and the rules after are the new row and old ones. -/
theorem noContradiction_written_iff {db db' : Database} {row : ConditionalRule} (before : NoContradiction py db)
    (dependencies : db'.fieldDependencies = db.fieldDependencies) (added : row ∈ db'.conditionalRules.rows)
    (old : ∀ other ∈ db'.conditionalRules.rows, other = row ∨ other ∈ db.conditionalRules.rows) :
    NoContradiction py db' ↔ ∀ dep ∈ db.fieldDependencies.rows, ¬ Contradicts py dep row := by
  rw [NoContradiction, dependencies]
  constructor
  · intro none dep member
    exact none dep member row added
  · intro none dep member other otherMember
    obtain rfl | stored := old other otherMember
    · exact none dep member
    · exact before dep member other stored

/-- Dependencies that passed their check, over the same rules. -/
theorem noContradiction_of_dependencies {db db' : Database} {row : FieldDependency} (before : NoContradiction py db)
    (rules : db'.conditionalRules = db.conditionalRules) (accepted : DependencyRowAccepted py db row)
    (old : ∀ other ∈ db'.fieldDependencies.rows,
      (∀ rule, Contradicts py other rule ↔ Contradicts py row rule) ∨ other ∈ db.fieldDependencies.rows) :
    NoContradiction py db' := by
  intro dep member rule ruleMember
  rw [rules] at ruleMember
  obtain same | stored := old dep member
  · rw [same]
    exact notContradicts_of_accepted accepted ruleMember
  · exact before dep stored rule ruleMember

theorem createDependency_db (data : FieldDependencyData) :
    (final (createFieldDependency data surveyPk) w).db = w.db ∨
      (final (createFieldDependency data surveyPk) w).db = { w.db with
        fieldDependencies := w.db.fieldDependencies.insert (data.assign (blankFieldDependency surveyPk)).withId
          (FieldDependency.key_withId _) } := by
  rw [createFieldDependency, final_bind_of_same World.db fun _ _ => rfl]
  exact fieldDependencyModel.final_insert_db _ _ w

theorem updateDependency_db (current : FieldDependency) (data : FieldDependencyData) :
    (final (updateFieldDependency current data surveyPk) w).db = w.db ∨
      (final (updateFieldDependency current data surveyPk) w).db = { w.db with
        fieldDependencies := w.db.fieldDependencies.modify current.id data.assign data.key_assign } := by
  rw [updateFieldDependency, final_bind_of_same World.db fun _ _ => rfl]
  cases saved : saveFields data.isEmpty (fieldDependencyModel.update current.id data.assign data.key_assign) w with
  | error exn t =>
    rw [final_of_error saved, saveFields_eq_error saved]
    exact Or.inl rfl
  | ok u t =>
    rw [final_of_ok saved]
    obtain same | updated := saveFields_eq_ok saved
    · exact Or.inl (congrArg World.db same)
    · exact Or.inr (congrArg World.db updated)

/-- A definition that passed its validator leaves no contradiction exactly when it
writes no rule that tests a hidden option. -/
theorem defineStep_noContradiction_iff {definition : Definition} (accepted : DefinitionAccepted py w.db definition)
    (before : NoContradiction py w.db) :
    NoContradiction py (defineStep w definition).db ↔ WritesNoHiddenTest py w.db definition := by
  cases definition with
  | createRule data surveyPk =>
    simp only [defineStep, WritesNoHiddenTest, TestsShownOptions]
    obtain ⟨stored, written⟩ | ⟨missing, same⟩ := createRule_db rfl accepted
    · rw [written, forall_prop_of_true stored]
      have rows := fun other => @Table.mem_rows_insert _ _ w.db.conditionalRules
        (data.assign (blankConditionalRule surveyPk)).withId (ConditionalRule.key_withId _) other
      -- the id of a rule plays no part in what it tests
      exact @noContradiction_written_iff py _ _
        ((data.assign (blankConditionalRule surveyPk)).withId w.db.conditionalRules.next) before rfl
        ((rows _).mpr (Or.inl rfl)) fun other member => (rows other).mp member
    · rw [same, missing]
      simp [before]
  | updateRule id data =>
    simp only [defineStep, WritesNoHiddenTest, TestsShownOptions]
    cases stored : w.db.conditionalRules.get id with
    | none => simp [before]
    | some current =>
      have sameKey : current.id = id := w.db.conditionalRules.keyed id current stored
      subst sameKey
      simp only [Option.some.injEq, forall_eq']
      obtain ⟨found, written⟩ | ⟨missing, same⟩ := updateRule_db stored (accepted current stored)
      · rw [written, show (data.assign current).surveyId = current.surveyId from rfl, forall_prop_of_true found]
        have rows := fun other => @Table.mem_rows_modify _ _ w.db.conditionalRules current.id data.assign
          data.key_assign current other stored
        exact noContradiction_written_iff before rfl ((rows _).mpr (Or.inl rfl))
          fun other member => ((rows other).mp member).imp_right And.right
      · rw [same]
        refine iff_of_true before fun found => ?_
        obtain missing | unchanged := missing
        · rw [show (data.assign current).surveyId = current.surveyId from rfl, missing] at found
          cases found
        · rw [unchanged]
          exact fun dep member => before dep member current
            (Table.mem_rows.mpr stored)
  | createDependency data surveyPk =>
    refine iff_of_true ?_ trivial
    simp only [defineStep]
    obtain same | written := createDependency_db data
    · rw [same]
      exact before
    · have rows := fun other => @Table.mem_rows_insert _ _ w.db.fieldDependencies
        (data.assign (blankFieldDependency surveyPk)).withId (FieldDependency.key_withId _) other
      rw [written]
      refine noContradiction_of_dependencies before rfl accepted fun other member => ?_
      obtain rfl | stored := (rows other).mp member
      · exact Or.inl fun _ => Iff.rfl
      · exact Or.inr stored
  | updateDependency id data =>
    refine iff_of_true ?_ trivial
    simp only [defineStep]
    cases stored : w.db.fieldDependencies.get id with
    | none => exact before
    | some current =>
      have sameKey : current.id = id := w.db.fieldDependencies.keyed id current stored
      subst sameKey
      obtain same | written := updateDependency_db current data
      · rw [same]
        exact before
      · have rows := fun other => @Table.mem_rows_modify _ _ w.db.fieldDependencies current.id data.assign
          data.key_assign current other stored
        simp only
        rw [written]
        refine noContradiction_of_dependencies before rfl (accepted current stored) fun other member => ?_
        obtain rfl | ⟨_, old⟩ := (rows other).mp member
        · exact Or.inl fun _ => Iff.rfl
        · exact Or.inr old

/-- Definitions that pass their validators never leave a contradiction exactly
when no rule is written that tests an option already hidden. -/
theorem no_contradiction_iff {definitions : List Definition} (start : NoContradiction py w.db)
    (accepted : Along defineStep (fun w definition => DefinitionAccepted py w.db definition) w definitions) :
    (∀ state ∈ trace defineStep w definitions, NoContradiction py state.db) ↔
      Along defineStep (fun w definition => WritesNoHiddenTest py w.db definition) w definitions :=
  @forall_trace_iff _ _ _ (fun w => NoContradiction py w.db) _ _
    (fun _ _ accepted before => defineStep_noContradiction_iff accepted before) _ start _ accepted

end Writes

end HiddenOptions

/-! ## Either order on the brand of a smoker -/

/-- The small draft without its dependency, and with a question after the brand. -/
def brandDatabase : Database :=
  { draftDatabase with
    fields := draftDatabase.fields.insert
      (Field.withId ⟨0, 2, "Per day", .number, false, 2, .list [], false, .object []⟩) (Field.key_withId _)
    fieldDependencies := .empty }

def brandWorld : World := ⟨brandDatabase, fun _ => none⟩

/-- `"c"` is hidden when the smoker field is `"b"`. -/
def hideBrand : FieldDependencyData :=
  ⟨brandDatabase.placedField 2, brandDatabase.placedField 1, some .equals, some (.str "b"), some .hideOptions,
    some (.list [.str "c"])⟩

/-- The last question is shown for one brand. -/
def askForBrand (brand : String) : ConditionalRuleData :=
  ⟨none, some (brandDatabase.placedField 3), brandDatabase.placedField 2, some .equals, some (.str brand)⟩

theorem noContradiction_brandDatabase : NoContradiction bareInterpreter brandDatabase := by
  intro dep member
  cases member

theorem fieldDependencies_hideBrand : (defineStep brandWorld (.createDependency hideBrand 1)).db.fieldDependencies.rows =
    [⟨1, 1, 2, 1, .equals, .str "b", .hideOptions, .list [.str "c"]⟩] := rfl

/-- The rule tests the brand that is still shown. -/
theorem no_contradiction_shownBrand : NoContradiction bareInterpreter
    (run defineStep brandWorld [.createDependency hideBrand 1, .createRule (askForBrand "d") 1]).db := by
  have accepted : Along defineStep (fun w definition => DefinitionAccepted bareInterpreter w.db definition) brandWorld
      [.createDependency hideBrand 1, .createRule (askForBrand "d") 1] :=
    ⟨⟨_, some 1, rfl, rfl⟩, ⟨_, some 1, rfl, rfl⟩, trivial⟩
  refine (no_contradiction_iff noContradiction_brandDatabase accepted).mpr ⟨trivial, ?_, trivial⟩ _ (run_mem_trace _ _)
  intro _ dep member contradicts
  rw [fieldDependencies_hideBrand, List.mem_singleton] at member
  subst member
  obtain ⟨_, _, hidden, isHidden, option, tested, inHidden⟩ := contradicts
  -- `"d"` is tested, `"c"` is hidden
  cases isHidden
  have isC : option = "c" := List.mem_singleton.mp inHidden
  have isD : option = "d" := List.mem_singleton.mp tested
  exact absurd (isC.symm.trans isD) (by decide)

/-- The rule tests the brand that the dependency hides. -/
theorem contradiction_hiddenBrand : NoContradiction bareInterpreter brandWorld.db ∧
    Along defineStep (fun w definition => DefinitionAccepted bareInterpreter w.db definition) brandWorld
      [.createDependency hideBrand 1, .createRule (askForBrand "c") 1] ∧
    ¬ NoContradiction bareInterpreter
      (run defineStep brandWorld [.createDependency hideBrand 1, .createRule (askForBrand "c") 1]).db := by
  refine ⟨noContradiction_brandDatabase, ⟨⟨_, some 1, rfl, rfl⟩, ⟨_, some 1, rfl, rfl⟩, trivial⟩, ?_⟩
  intro none
  refine none ⟨1, 1, 2, 1, .equals, .str "b", .hideOptions, .list [.str "c"]⟩ ?_
    ⟨2, 1, Option.none, some 3, 2, .equals, .str "c"⟩ ?_ ⟨rfl, rfl, ["c"], rfl, "c", ?_, ?_⟩
  · exact Table.mem_rows.mpr rfl
  · exact Table.mem_rows.mpr rfl
  · exact List.mem_singleton_self _
  · exact List.mem_singleton_self _

end SurveyPlatform.Verified

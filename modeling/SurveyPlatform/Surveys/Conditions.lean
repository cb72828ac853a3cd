import SurveyPlatform.Library.Dict
import SurveyPlatform.Library.Numerals
import SurveyPlatform.Surveys.Models

/-! # Visibility and dependency evaluation

`evaluate_condition`, `get_visible_sections`, `get_visible_fields` and
`resolve_dependencies` of `apps/surveys/services.py`, given prefetched lists.

The two visibility functions are one loop over targets (`visibleTargets`); its
specification is `Shown`: no rule for the target, or a rule that is true.
-/

namespace SurveyPlatform.Surveys

open SurveyPlatform.Library SurveyPlatform.Python

/-! ## Conditions -/

/-- What a `ConditionalRule` and a `FieldDependency` have in common. -/
structure Condition where
  dependsOnFieldId : Nat
  operator : ComparisonOperator
  value : Json

def ConditionalRule.condition (rule : ConditionalRule) : Condition :=
  ⟨rule.dependsOnFieldId, rule.operator, rule.value⟩

def FieldDependency.condition (dep : FieldDependency) : Condition :=
  ⟨dep.dependsOnFieldId, dep.operator, dep.value⟩

/-- The comparison of a given answer with the rule's value. -/
def compareAnswer (py : Interpreter) (operator : ComparisonOperator) (answer expected : Json) :
    Except PyExn Bool :=
  match operator with
  | .equals => .ok (py.str answer == py.str expected)
  | .notEquals => .ok (py.str answer != py.str expected)
  | .contains => .ok (isIn (py.str expected) (py.str answer))
  | .greaterThan =>
    -- `OverflowError` of a huge integer is not caught
    tryExcept PyExn.isValueOrType (.ok false) do
      let x ← answer.toFloat
      let y ← expected.toFloat
      return y.lt x
  | .lessThan =>
    tryExcept PyExn.isValueOrType (.ok false) do
      let x ← answer.toFloat
      let y ← expected.toFloat
      return x.lt y
  | .isIn =>
    match expected with
    | .list items => .ok ((items.map py.str).contains (py.str answer))
    -- without a list the operator is a substring test
    | expected => .ok (isIn (py.str answer) (py.str expected))

/-- `str(field.id)`, the key of a field's answer. -/
def fieldIdStr (fieldId : Nat) : String := toString fieldId

/-- `answers.get(field_id)`, with a `null` answer read as a missing one. -/
def answerTo (answers : Dict String Json) (fieldId : Nat) : Option Json :=
  (answers.get? (fieldIdStr fieldId)).filter (!·.isNone)

def evaluateCondition (py : Interpreter) (rule : Condition) (answers : Dict String Json) :
    Except PyExn Bool :=
  match answerTo answers rule.dependsOnFieldId with
  | none => .ok false
  | some answer => compareAnswer py rule.operator answer rule.value

/-- Two ids never share their key in the answers. -/
theorem fieldIdStr_injective {a b : Nat} (same : fieldIdStr a = fieldIdStr b) : a = b := by
  have digits : Nat.toDigits 10 a = Nat.toDigits 10 b := by
    rw [← toList_toString_nat, ← toList_toString_nat]
    exact congrArg String.toList same
  calc a = Nat.ofDigitChars 10 (Nat.toDigits 10 a) 0 := Nat.ofDigitChars_ten_toDigits.symm
    _ = b := by rw [digits, Nat.ofDigitChars_ten_toDigits]

/-- Only the answer to `depends_on_field` matters. -/
theorem evaluateCondition_congr (py : Interpreter) (rule : Condition) {answers answers' : Dict String Json}
    (same : answerTo answers rule.dependsOnFieldId = answerTo answers' rule.dependsOnFieldId) :
    evaluateCondition py rule answers = evaluateCondition py rule answers' := by
  simp only [evaluateCondition, same]

theorem evaluateCondition_of_missing (py : Interpreter) (rule : Condition) {answers : Dict String Json}
    (missing : answerTo answers rule.dependsOnFieldId = none) :
    evaluateCondition py rule answers = .ok false := by
  simp only [evaluateCondition, missing]

theorem evaluateCondition_of_answered {py : Interpreter} {answers : Dict String Json} {fieldId : Nat} {answer : Json}
    (answered : answers.get? (fieldIdStr fieldId) = some answer) (notNone : answer.isNone = false)
    {operator : ComparisonOperator} {value : Json} :
    evaluateCondition py ⟨fieldId, operator, value⟩ answers = compareAnswer py operator answer value := by
  have isAnswer : answerTo answers fieldId = some answer := by simp [answerTo, answered, notNone]
  simp only [evaluateCondition, isAnswer]

/-! ## `any(...)` -/

/-- `any(test(x) for x in items)`: stops at the first true one. -/
def anyTrue {α : Type*} (test : α → Except PyExn Bool) : List α → Except PyExn Bool
  | [] => .ok false
  | item :: rest => do
    if ← test item then return true else anyTrue test rest

section AnyTrue

variable {α : Type*} {test : α → Except PyExn Bool}

theorem anyTrue_cons (item : α) (rest : List α) :
    anyTrue test (item :: rest) =
      match test item with
      | .ok true => .ok true
      | .ok false => anyTrue test rest
      | .error exn => .error exn := by
  rw [anyTrue]
  cases test item with
  | error exn => rfl
  | ok holds => cases holds <;> rfl

theorem anyTrue_eq_true {items : List α} (result : anyTrue test items = .ok true) :
    ∃ item ∈ items, test item = .ok true := by
  -- the first true item ends the loop, so what comes after it is not evaluated
  induction items with
  | nil => cases result
  | cons item rest inductionHypothesis =>
    rw [anyTrue_cons] at result
    cases evaluated : test item with
    | error exn => simp [evaluated] at result
    | ok holds =>
      cases holds with
      | true => exact ⟨item, by simp, evaluated⟩
      | false =>
        simp only [evaluated] at result
        obtain ⟨other, member, isTrue⟩ := inductionHypothesis result
        exact ⟨other, List.mem_cons_of_mem _ member, isTrue⟩

theorem anyTrue_eq_false {items : List α} :
    anyTrue test items = .ok false ↔ ∀ item ∈ items, test item = .ok false := by
  induction items with
  | nil => simp [anyTrue]
  | cons item rest inductionHypothesis =>
    rw [anyTrue_cons, List.forall_mem_cons]
    cases test item with
    | error exn => simp
    | ok holds => cases holds <;> simp [inductionHypothesis]

/-- A result of `any` is `True` exactly when some item's is. -/
theorem anyTrue_ok_iff {items : List α} {holds : Bool} (result : anyTrue test items = .ok holds) :
    holds = true ↔ ∃ item ∈ items, test item = .ok true := by
  cases holds with
  | true => simpa using anyTrue_eq_true result
  | false =>
    have allFalse := anyTrue_eq_false.mp result
    simp only [Bool.false_eq_true, false_iff, not_exists, not_and]
    intro item member isTrue
    rw [allFalse item member] at isTrue
    cases isTrue

theorem anyTrue_returns {items : List α} (returns : ∀ item ∈ items, ∃ holds, test item = .ok holds) :
    ∃ holds, anyTrue test items = .ok holds := by
  induction items with
  | nil => exact ⟨false, rfl⟩
  | cons item rest inductionHypothesis =>
    obtain ⟨holds, evaluated⟩ := returns item (by simp)
    rw [anyTrue_cons, evaluated]
    cases holds with
    | true => exact ⟨true, rfl⟩
    | false => exact inductionHypothesis fun other member => returns other (List.mem_cons_of_mem _ member)

/-- Items whose test is skipped as false might as well not be there. -/
theorem anyTrue_filter (kept : α → Prop) [DecidablePred kept] (items : List α) :
    anyTrue (fun item => if kept item then test item else .ok false) items =
      anyTrue test (items.filter (fun item => kept item)) := by
  induction items with
  | nil => rfl
  | cons item rest inductionHypothesis =>
    rw [anyTrue_cons, inductionHypothesis]
    by_cases keep : kept item
    · simp only [keep, if_true, decide_true, List.filter_cons_of_pos, anyTrue_cons]
    · simp only [keep, if_false, decide_false, Bool.false_eq_true, not_false_eq_true, List.filter_cons_of_neg]

end AnyTrue

/-! ## Visible sections and fields -/

/-- Keep each id that has no rules, or rules of which one is true. -/
def keepVisible (py : Interpreter) (answers : Dict String Json)
    (rulesByTarget : Dict (Option Nat) (List ConditionalRule)) : List Nat → Except PyExn (List Nat)
  | [] => .ok []
  | id :: rest => do
    let visible ← match rulesByTarget.get? (some id) with
      -- a target is a key of the dict only when some rule names it
      | none => .ok true
      | some rules => anyTrue (fun rule => evaluateCondition py rule.condition answers) rules
    -- every target is tested, visible or not
    let others ← keepVisible py answers rulesByTarget rest
    return if visible then id :: others else others

/-- The loop both visibility functions run: group the rules by target, then scan the ids. -/
def visibleTargets (py : Interpreter) (answers : Dict String Json)
    (target : ConditionalRule → Option Nat) (rules : List ConditionalRule) (ids : List Nat) :
    Except PyExn (List Nat) :=
  keepVisible py answers (Dict.groupBy target (fun rule => rule) rules) ids

def getVisibleSections (py : Interpreter) (answers : Dict String Json) (sections : List Section)
    (sectionRules : List ConditionalRule) : Except PyExn (List Nat) :=
  visibleTargets py answers (·.targetSectionId) sectionRules (sections.map (·.id))

def getVisibleFields (py : Interpreter) (answers : Dict String Json) (fields : List Field)
    (fieldRules : List ConditionalRule) : Except PyExn (List Nat) :=
  visibleTargets py answers (·.targetFieldId) fieldRules (fields.map (·.id))

/-- The rules for one target, in list order. -/
def rulesFor (target : ConditionalRule → Option Nat) (rules : List ConditionalRule) (id : Nat) :
    List ConditionalRule :=
  rules.filter (fun rule => target rule = some id)

/-- Whether a target with these rules is kept. -/
def showsTarget (py : Interpreter) (answers : Dict String Json) (rules : List ConditionalRule) :
    Except PyExn Bool :=
  if rules = [] then .ok true
  else anyTrue (fun rule => evaluateCondition py rule.condition answers) rules

/-- No rule for the target, or at least one that is true. -/
def Shown (py : Interpreter) (answers : Dict String Json) (target : ConditionalRule → Option Nat)
    (rules : List ConditionalRule) (id : Nat) : Prop :=
  rulesFor target rules id = [] ∨
    ∃ rule ∈ rulesFor target rules id, evaluateCondition py rule.condition answers = .ok true

section Visible

variable {py : Interpreter} {answers : Dict String Json} {target : ConditionalRule → Option Nat}
  {rules : List ConditionalRule}

@[simp] theorem visibleTargets_nil : visibleTargets py answers target rules [] = .ok [] := rfl

theorem visibleTargets_cons (id : Nat) (rest : List Nat) :
    visibleTargets py answers target rules (id :: rest) = (do
      let visible ← showsTarget py answers (rulesFor target rules id)
      let others ← visibleTargets py answers target rules rest
      return if visible then id :: others else others) := by
  rw [visibleTargets, keepVisible, Dict.get?_groupBy]
  unfold showsTarget rulesFor visibleTargets
  by_cases none : rules.filter (fun rule => target rule = some id) = []
  -- an absent key and an empty list of rules are the same
  · rw [if_pos none, if_pos none]
  · rw [if_neg none, if_neg none, List.map_id']

theorem showsTarget_ok_iff {id : Nat} {visible : Bool}
    (result : showsTarget py answers (rulesFor target rules id) = .ok visible) :
    visible = true ↔ Shown py answers target rules id := by
  unfold showsTarget at result
  unfold Shown
  split at result
  · rename_i none
    cases result
    simp [none]
  · rename_i some
    simp only [some, false_or]
    exact anyTrue_ok_iff result

/-- The ids kept are the shown ones among those given. -/
theorem mem_visibleTargets {ids visible : List Nat}
    (result : visibleTargets py answers target rules ids = .ok visible) (id : Nat) :
    id ∈ visible ↔ id ∈ ids ∧ Shown py answers target rules id := by
  induction ids generalizing visible with
  | nil => cases result; simp
  | cons head rest inductionHypothesis =>
    simp only [visibleTargets_cons, bind_eq_ok, pure, Except.pure, Except.ok.injEq] at result
    obtain ⟨headVisible, headResult, others, restResult, rfl⟩ := result
    have headShown := showsTarget_ok_iff headResult
    have tail := inductionHypothesis restResult
    cases headVisible with
    | true =>
      have shown : Shown py answers target rules head := headShown.mp rfl
      by_cases same : id = head
      · simp [same, shown]
      · simp [same, tail]
    | false =>
      have hidden : ¬ Shown py answers target rules head := by simpa using headShown
      by_cases same : id = head
      · subst same; simp [tail, hidden]
      · simp [same, tail]

variable (py answers target rules) in
/-- The scan completes exactly when the test of every id does. -/
theorem visibleTargets_returns_iff (ids : List Nat) :
    (∃ visible, visibleTargets py answers target rules ids = .ok visible) ↔
      ∀ id ∈ ids, ∃ visible, showsTarget py answers (rulesFor target rules id) = .ok visible := by
  induction ids with
  | nil => simp
  | cons head rest inductionHypothesis =>
    rw [List.forall_mem_cons, ← inductionHypothesis]
    simp only [visibleTargets_cons, bind_eq_ok, pure, Except.pure, Except.ok.injEq]
    constructor
    · intro holds
      obtain ⟨_, visible, headResult, others, restResult, _⟩ := holds
      exact ⟨⟨visible, headResult⟩, others, restResult⟩
    · intro holds
      obtain ⟨⟨visible, headResult⟩, others, restResult⟩ := holds
      exact ⟨_, visible, headResult, others, restResult, rfl⟩

theorem showsTarget_returns {ruleList : List ConditionalRule}
    (returns : ∀ rule ∈ ruleList, ∃ holds, evaluateCondition py rule.condition answers = .ok holds) :
    ∃ visible, showsTarget py answers ruleList = .ok visible := by
  unfold showsTarget
  split
  · exact ⟨true, rfl⟩
  · exact anyTrue_returns returns

end Visible

/-! ## Dependencies -/

/-- `{"action": ..., "action_value": ...}` -/
structure Modification where
  action : Action
  actionValue : Json

def FieldDependency.modification (dep : FieldDependency) : Modification := ⟨dep.action, dep.actionValue⟩

/-- One round of the loop: an active dependency is appended to its field's list. -/
def applyDependency (py : Interpreter) (answers : Dict String Json)
    (modifications : Dict Nat (List Modification)) (dep : FieldDependency) :
    Except PyExn (Dict Nat (List Modification)) := do
  if ← evaluateCondition py dep.condition answers then
    return modifications.push dep.dependentFieldId dep.modification
  else return modifications

def resolveDependencies (py : Interpreter) (answers : Dict String Json) (dependencies : List FieldDependency) :
    Except PyExn (Dict Nat (List Modification)) :=
  dependencies.foldlM (applyDependency py answers) Dict.empty

/-- Whether a condition evaluates to `True`. -/
def isActive (py : Interpreter) (answers : Dict String Json) (condition : Condition) : Bool :=
  match evaluateCondition py condition answers with
  | .ok holds => holds
  | .error _ => false

/-- The modifications of one field that are active on the answers, in list order. -/
def activeModifications (py : Interpreter) (answers : Dict String Json)
    (dependencies : List FieldDependency) (fieldId : Nat) : List Modification :=
  (dependencies.filter fun dep => dep.dependentFieldId = fieldId && isActive py answers dep.condition).map
    FieldDependency.modification

section Active

variable {py : Interpreter} {answers : Dict String Json}

theorem isActive_iff (condition : Condition) :
    isActive py answers condition = true ↔ evaluateCondition py condition answers = .ok true := by
  unfold isActive
  split <;> simp_all

instance (target : ConditionalRule → Option Nat) (rules : List ConditionalRule) (id : Nat) :
    Decidable (Shown py answers target rules id) :=
  decidable_of_iff (rulesFor target rules id = [] ∨
      ∃ rule ∈ rulesFor target rules id, isActive py answers rule.condition = true)
    (by simp only [Shown, isActive_iff])

theorem applyDependency_ok {modifications modifications' : Dict Nat (List Modification)}
    {dep : FieldDependency} (result : applyDependency py answers modifications dep = .ok modifications')
    (fieldId : Nat) :
    (modifications'.get? fieldId).getD [] =
      (modifications.get? fieldId).getD [] ++ activeModifications py answers [dep] fieldId := by
  simp only [applyDependency, bind_eq_ok] at result
  obtain ⟨active, evaluated, result⟩ := result
  have isActive : isActive py answers dep.condition = active := by simp [isActive, evaluated]
  cases active with
  | true =>
    simp only [if_true, pure, Except.pure, Except.ok.injEq] at result
    subst result
    by_cases same : dep.dependentFieldId = fieldId
    · subst same; simp [Dict.push, activeModifications, isActive]
    · simp [Dict.push, activeModifications, same, Ne.symm same]
  | false =>
    simp only [Bool.false_eq_true, if_false, pure, Except.pure, Except.ok.injEq] at result
    subst result
    simp [activeModifications, isActive]

/-- What `modifications.get(field.id)` finds: the active modifications of the field. -/
theorem resolveDependencies_ok {dependencies : List FieldDependency}
    {modifications : Dict Nat (List Modification)}
    (result : resolveDependencies py answers dependencies = .ok modifications) (fieldId : Nat) :
    (modifications.get? fieldId).getD [] = activeModifications py answers dependencies fieldId := by
  -- the induction is over the loop from any dict; the code starts it from the empty one
  have general : ∀ (start : Dict Nat (List Modification)),
      dependencies.foldlM (applyDependency py answers) start = .ok modifications →
      (modifications.get? fieldId).getD [] =
        (start.get? fieldId).getD [] ++ activeModifications py answers dependencies fieldId := by
    clear result
    induction dependencies with
    | nil =>
      intro start result
      cases result
      simp [activeModifications]
    | cons dep rest inductionHypothesis =>
      intro start result
      rw [List.foldlM_cons, bind_eq_ok] at result
      obtain ⟨next, headResult, restResult⟩ := result
      rw [inductionHypothesis next restResult, applyDependency_ok headResult fieldId, List.append_assoc]
      simp [activeModifications, ← List.map_append, ← List.filter_append]
  simpa using general Dict.empty result

theorem resolveDependencies_returns {dependencies : List FieldDependency}
    (returns : ∀ dep ∈ dependencies, ∃ holds, evaluateCondition py dep.condition answers = .ok holds) :
    ∃ modifications, resolveDependencies py answers dependencies = .ok modifications := by
  have general : ∀ (start : Dict Nat (List Modification)),
      ∃ modifications, dependencies.foldlM (applyDependency py answers) start = .ok modifications := by
    induction dependencies with
    | nil => intro start; exact ⟨start, rfl⟩
    | cons dep rest inductionHypothesis =>
      intro start
      obtain ⟨holds, evaluated⟩ := returns dep (by simp)
      have tail := inductionHypothesis fun other member => returns other (List.mem_cons_of_mem _ member)
      rw [List.foldlM_cons, applyDependency, evaluated]
      cases holds with
      | true => exact tail _
      | false => exact tail _
  exact general Dict.empty

/-- Every dependency is evaluated, so none of them raised. -/
theorem resolveDependencies_evaluated {dependencies : List FieldDependency}
    {modifications : Dict Nat (List Modification)}
    (result : resolveDependencies py answers dependencies = .ok modifications) :
    ∀ dep ∈ dependencies, ∃ holds, evaluateCondition py dep.condition answers = .ok holds := by
  have general : ∀ (start : Dict Nat (List Modification)),
      dependencies.foldlM (applyDependency py answers) start = .ok modifications →
      ∀ dep ∈ dependencies, ∃ holds, evaluateCondition py dep.condition answers = .ok holds := by
    clear result
    induction dependencies with
    | nil => simp
    | cons dep rest inductionHypothesis =>
      intro start result
      rw [List.foldlM_cons, bind_eq_ok] at result
      obtain ⟨next, headResult, restResult⟩ := result
      simp only [applyDependency, bind_eq_ok] at headResult
      obtain ⟨holds, evaluated, _⟩ := headResult
      rw [List.forall_mem_cons]
      exact ⟨⟨holds, evaluated⟩, inductionHypothesis next restResult⟩
  exact general Dict.empty result

end Active

end SurveyPlatform.Surveys

import SurveyPlatform.Verified.SubmissionStability

/-! # Dependencies only restrict

Dependencies take no part in visibility, and each active one is one more check
of its field's answer.  So what passes under some dependencies passes under any
of them (`validateSubmission_restricts`), in any order and however often each
is listed.
-/

namespace SurveyPlatform.Verified

open SurveyPlatform.Library SurveyPlatform.Python SurveyPlatform.Surveys SurveyPlatform.Responses

/-- The survey with another list of dependencies. -/
def withDependencies (survey : SurveyStructure) (dependencies : List FieldDependency) : SurveyStructure :=
  { survey with dependencies }

/-- The value respects every option list that is active for the field: an item
of a list is looked up by its text, and any other value as one item. -/
structure WithinOptions (py : Interpreter) (dependencies : List FieldDependency) (answers : Dict String Json)
    (fieldId : Nat) (value : Json) : Prop where
  inShown : ∀ dep ∈ dependencies, dep.dependentFieldId = fieldId → dep.action = .showOptions →
    evaluateCondition py dep.condition answers = .ok true →
      ∃ allowed, py.strs dep.actionValue = .ok allowed ∧ ∀ item ∈ checkedItems value, py.str item ∈ allowed
  notHidden : ∀ dep ∈ dependencies, dep.dependentFieldId = fieldId → dep.action = .hideOptions →
    evaluateCondition py dep.condition answers = .ok true →
      ∃ hidden, py.strs dep.actionValue = .ok hidden ∧ ∀ item ∈ checkedItems value, py.str item ∉ hidden

section Restrictions

variable {py : Interpreter} {survey : SurveyStructure} {answers : Dict String Json}
  {dependencies dependencies' : List FieldDependency}

/-! ## Fewer dependencies -/

theorem resolveDependencies_fewer (fewer : dependencies ⊆ dependencies')
    {modifications' : Dict Nat (List Modification)}
    (resolved : resolveDependencies py answers dependencies' = .ok modifications') :
    ∃ modifications, resolveDependencies py answers dependencies = .ok modifications :=
  resolveDependencies_returns fun dep member => resolveDependencies_evaluated resolved dep (fewer member)

theorem activeModifications_fewer (fewer : dependencies ⊆ dependencies') (fieldId : Nat) :
    activeModifications py answers dependencies fieldId ⊆ activeModifications py answers dependencies' fieldId := by
  intro modification member
  simp only [activeModifications, List.mem_map, List.mem_filter] at member ⊢
  obtain ⟨dep, ⟨listed, active⟩, same⟩ := member
  exact ⟨dep, ⟨fewer listed, active⟩, same⟩

/-- Each modification is judged on its own, so leaving some out finds no new fault. -/
theorem fieldError?_fewer (fewer : dependencies ⊆ dependencies') {field : Field}
    (faultless : fieldError? py (withDependencies survey dependencies') answers field = .ok none) :
    fieldError? py (withDependencies survey dependencies) answers field = .ok none := by
  unfold fieldError? at faultless ⊢
  cases found : answers.get? (fieldIdStr field.id) with
  | none => simpa only [found] using faultless
  | some value =>
    simp only [found] at faultless ⊢
    split
    · rename_i blank
      rwa [if_pos blank] at faultless
    · rename_i notBlank
      rw [if_neg notBlank, valueError?_eq_none] at faultless
      obtain ⟨typed, ruled, allowed⟩ := faultless
      rw [valueError?_eq_none]
      exact ⟨typed, ruled, fun modification active => allowed modification (activeModifications_fewer fewer _ active)⟩

/-- The loop over the visible ids only depends on the verdicts on them. -/
theorem recordLoop_congr {verdict verdict' : Nat → Except PyExn Verdict} {ids : List Nat}
    (same : ∀ id ∈ ids, verdict id = verdict' id) (start : Outcome) :
    ids.foldlM (fun outcome id => recordVerdict outcome id <$> verdict id) start =
      ids.foldlM (fun outcome id => recordVerdict outcome id <$> verdict' id) start := by
  induction ids generalizing start with
  | nil => rfl
  | cons id rest inductionHypothesis =>
    rw [List.foldlM_cons, List.foldlM_cons, same id List.mem_cons_self]
    congr
    funext next
    exact inductionHypothesis (fun other member => same other (List.mem_cons_of_mem _ member)) next

theorem runChecks_fewer (fewer : dependencies ⊆ dependencies') {order : SetOrder} {outcome : Outcome}
    (ran : runChecks py order (withDependencies survey dependencies') answers = .ok outcome)
    (empty : outcome.errors.isEmpty = true) :
    runChecks py order (withDependencies survey dependencies) answers = .ok outcome := by
  have faultless := ((runChecks_ok ran).accepted empty).faultless
  simp only [runChecks, bind_eq_ok] at ran ⊢
  obtain ⟨ids, idsResult, modifications', resolved', loopResult⟩ := ran
  obtain ⟨modifications, resolved⟩ := resolveDependencies_fewer fewer resolved'
  refine ⟨ids, idsResult, modifications, resolved, ?_⟩
  rw [checkLoop_eq resolved'] at loopResult
  rw [checkLoop_eq resolved]
  have same : ∀ id ∈ order.iterate ids, verdictOn py (withDependencies survey dependencies) answers id =
      verdictOn py (withDependencies survey dependencies') answers id := by
    intro id member
    rw [order.mem_iterate] at member
    obtain ⟨field, inFields, sameId, visible⟩ := (mem_visibleFieldIds idsResult id).mp member
    have found' := faultless field inFields visible
    -- the verdict on a field without fault is the same for every list of dependencies
    have onMore : verdictOn py (withDependencies survey dependencies') answers id = _ :=
      verdictOn_eq_ok.mpr ⟨field, inFields, sameId, none, found', rfl⟩
    have onFewer : verdictOn py (withDependencies survey dependencies) answers id = _ :=
      verdictOn_eq_ok.mpr ⟨field, inFields, sameId, none, fieldError?_fewer fewer found', rfl⟩
    rw [onMore, onFewer]
  rw [recordLoop_congr same]
  exact loopResult

theorem validateSubmission_fewer (fewer : dependencies ⊆ dependencies') {order : SetOrder}
    {cleaned : Dict String Json}
    (returned : validateSubmission py order (withDependencies survey dependencies') answers = .ok cleaned) :
    validateSubmission py order (withDependencies survey dependencies) answers = .ok cleaned := by
  obtain ⟨outcome, ran, empty, rfl⟩ := validateSubmission_eq_ok returned
  simp [validateSubmission, runChecks_fewer fewer ran empty, empty]

/-! ## What an active dependency forces -/

theorem modificationError_show {value : Json} {modification : Modification}
    (isShow : modification.action = .showOptions) :
    modificationError py value modification = .ok none ↔ ∃ allowed,
      py.strs modification.actionValue = .ok allowed ∧ ∀ item ∈ checkedItems value, py.str item ∈ allowed := by
  simp only [modificationError, isShow, bind_eq_ok, List.filter_eq_nil_iff, List.forall_mem_map]
  refine exists_congr fun allowed => and_congr_right fun _ => ?_
  split <;> simp_all [pure, Except.pure]

theorem modificationError_hide {value : Json} {modification : Modification}
    (isHide : modification.action = .hideOptions) :
    modificationError py value modification = .ok none ↔ ∃ hidden,
      py.strs modification.actionValue = .ok hidden ∧ ∀ item ∈ checkedItems value, py.str item ∉ hidden := by
  simp only [modificationError, isHide, bind_eq_ok, List.filter_eq_nil_iff, List.forall_mem_map]
  refine exists_congr fun hidden => and_congr_right fun _ => ?_
  split <;> simp_all [pure, Except.pure]

theorem Accepted.withinOptions {cleaned : Dict String Json} (accepted : Accepted py survey answers cleaned)
    {field : Field} (member : field ∈ survey.fields) (visible : Visible py survey answers field) {value : Json}
    (answered : answers.get? (fieldIdStr field.id) = some value) (notBlank : isBlank py (some value) = false) :
    WithinOptions py survey.dependencies answers field.id value := by
  have faultless := accepted.faultless field member visible
  simp only [fieldError?, answered, notBlank, Bool.false_eq_true, if_false, valueError?_eq_none] at faultless
  obtain ⟨_, _, allowed⟩ := faultless
  have active : ∀ dep ∈ survey.dependencies, dep.dependentFieldId = field.id →
      evaluateCondition py dep.condition answers = .ok true →
        modificationError py value dep.modification = .ok none := by
    intro dep listed sameField isTrue
    apply allowed
    simp only [activeModifications, List.mem_map, List.mem_filter, Bool.and_eq_true, decide_eq_true_eq, isActive_iff]
    exact ⟨dep, ⟨listed, sameField, isTrue⟩, rfl⟩
  constructor
  · intro dep listed sameField isShow isTrue
    exact (modificationError_show isShow).mp (active dep listed sameField isTrue)
  · intro dep listed sameField isHide isTrue
    exact (modificationError_hide isHide).mp (active dep listed sameField isTrue)

/-! ## The three statements together -/

variable (py) in
/-- What `validate_submission` returns under some dependencies it returns under
fewer; the same ones in another order, or listed more than once, make no
difference; and every visible answer it accepts respects the active lists. -/
theorem validateSubmission_restricts (order : SetOrder) (survey : SurveyStructure) (answers : Dict String Json)
    {dependencies dependencies' : List FieldDependency} (fewer : dependencies ⊆ dependencies') :
    (∀ cleaned, validateSubmission py order (withDependencies survey dependencies') answers = .ok cleaned →
      validateSubmission py order (withDependencies survey dependencies) answers = .ok cleaned) ∧
    (dependencies' ⊆ dependencies → ∀ cleaned,
      validateSubmission py order (withDependencies survey dependencies') answers = .ok cleaned ↔
        validateSubmission py order (withDependencies survey dependencies) answers = .ok cleaned) ∧
    (∀ cleaned, validateSubmission py order (withDependencies survey dependencies') answers = .ok cleaned →
      ∀ field ∈ survey.fields, Visible py survey answers field → ∀ value,
        answers.get? (fieldIdStr field.id) = some value → isBlank py (some value) = false →
          cleaned.get? (fieldIdStr field.id) = some value ∧
            WithinOptions py dependencies' answers field.id value) := by
  refine ⟨fun _ => validateSubmission_fewer fewer, ?_, ?_⟩
  · intro noMore cleaned
    exact ⟨validateSubmission_fewer fewer, validateSubmission_fewer noMore⟩
  · intro cleaned returned field member visible value answered notBlank
    obtain ⟨outcome, ran, empty, rfl⟩ := validateSubmission_eq_ok returned
    have accepted := (runChecks_ok ran).accepted empty
    have isAnswered : Answered py answers field := by rw [Answered, answered, notBlank]
    exact ⟨(accepted.cleaned _ value).mpr ⟨answered, field, member, visible, isAnswered, rfl⟩,
      accepted.withinOptions member visible answered notBlank⟩

end Restrictions

/-! ## A country and its cities -/

def choiceField (id : Nat) (label : String) (options : List Json) : Field :=
  { textField id id label with fieldType := .dropdown, options := .list options }

def countryField : Field := choiceField 1 "Country" [.str "US", .str "UK"]

def cityField : Field := choiceField 2 "City" [.str "NYC", .str "London"]

theorem city_fieldIds : ([countryField, cityField].map Field.id).Nodup := by decide

theorem city_placed : ∀ field ∈ [countryField, cityField],
    ∃ parent ∈ [(⟨1, 1, "Address", "", 1⟩ : Section)], parent.id = field.sectionId := by
  intro field member
  have sameSection : field.sectionId = 1 := by
    simp only [List.mem_cons, List.not_mem_nil, or_false] at member
    obtain rfl | rfl := member <;> rfl
  exact ⟨_, List.mem_singleton_self _, sameSection.symm⟩

/-- In the US only New York is offered. -/
def usCities : FieldDependency := ⟨1, 1, 2, 1, .equals, .str "US", .showOptions, .list [.str "NYC"]⟩

def citySurvey : SurveyStructure where
  sections := [⟨1, 1, "Address", "", 1⟩]
  fields := [countryField, cityField]
  sectionRules := []
  fieldRules := []
  dependencies := [usCities]
  sectionIds := List.nodup_singleton _
  fieldIds := city_fieldIds
  placed := city_placed

/-- What is accepted with the dependency listed twice is accepted without it. -/
theorem validateSubmission_restricts_city : ∃ cleaned,
    validateSubmission bareInterpreter .ascending (withDependencies citySurvey [usCities, usCities])
        ((Dict.empty.set "1" (.str "US")).set "2" (.str "NYC")) = .ok cleaned ∧
      validateSubmission bareInterpreter .ascending (withDependencies citySurvey [])
        ((Dict.empty.set "1" (.str "US")).set "2" (.str "NYC")) = .ok cleaned :=
  ⟨_, rfl, (validateSubmission_restricts bareInterpreter .ascending citySurvey _
    (List.nil_subset [usCities, usCities])).1 _ rfl⟩

end SurveyPlatform.Verified

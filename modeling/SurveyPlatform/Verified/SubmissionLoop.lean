import SurveyPlatform.Responses.Submission

/-! # What the loops of `validate_submission` compute

`Visible`, `fieldError?` and `Answered` say in one line each which fields count,
what is wrong with one, and which answers are kept.  The lemmas here connect
them to the loops: `mem_visibleFieldIds` for the section gate over the field
gate, `recordLoop_ok` for the loop over the unordered set of visible ids, and
`runChecks_ok` for both together.
-/

namespace SurveyPlatform.Verified

open SurveyPlatform.Library SurveyPlatform.Python SurveyPlatform.Surveys SurveyPlatform.Responses

section Submission

variable (py : Interpreter) (survey : SurveyStructure) (answers : Dict String Json)

/-! ## Which fields, which errors, which answers -/

/-- The field's section and the field itself are each shown. -/
def Visible (field : Field) : Prop :=
  Shown py answers (·.targetSectionId) survey.sectionRules field.sectionId ∧
    Shown py answers (·.targetFieldId) survey.fieldRules field.id

/-- The message of the first check the field's answer fails, with the
dependencies active on these answers. -/
def fieldError? (field : Field) : Except PyExn (Option String) :=
  match answers.get? (fieldIdStr field.id) with
  | none => .ok (if field.required then some "This field is required." else none)
  | some value =>
    if isBlank py (some value) then
      .ok (if field.required then some "This field is required." else none)
    else valueError? py field value (activeModifications py answers survey.dependencies field.id)

/-- The field has an answer that is not blank. -/
def Answered (field : Field) : Prop := isBlank py (answers.get? (fieldIdStr field.id)) = false

/-- Every condition of the survey: section rules, field rules, dependencies. -/
def conditions (survey : SurveyStructure) : List Condition :=
  survey.sectionRules.map (·.condition) ++ survey.fieldRules.map (·.condition) ++
    survey.dependencies.map (·.condition)

variable {py survey answers}

/-! ## Fields by id, fields by section -/

theorem get?_fieldsById {fields : List Field} (nodup : (fields.map Field.id).Nodup) (id : Nat)
    (field : Field) : (fieldsById fields).get? id = some field ↔ field ∈ fields ∧ field.id = id := by
  -- over any dict: a later field of the same id would overwrite, but there is none
  have general : ∀ (rest : List Field) (start : Dict Nat Field), (rest.map Field.id).Nodup →
      ((rest.foldl (fun d field => d.set field.id field) start).get? id = some field ↔
        (field ∈ rest ∧ field.id = id) ∨ (id ∉ rest.map Field.id ∧ start.get? id = some field)) := by
    intro rest
    induction rest with
    | nil => intro start _; simp
    | cons head rest inductionHypothesis =>
      intro start nodup
      rw [List.map_cons, List.nodup_cons] at nodup
      rw [List.foldl_cons, inductionHypothesis _ nodup.2, Dict.get?_set, List.map_cons, List.mem_cons,
        List.mem_cons, not_or]
      by_cases same : id = head.id
      · subst same
        have notLater : ¬ (field ∈ rest ∧ field.id = head.id) := by
          intro holds
          obtain ⟨member, sameId⟩ := holds
          exact nodup.1 (sameId ▸ List.mem_map_of_mem member)
        simp only [if_true, Option.some.injEq]
        constructor
        · rintro (later | ⟨_, rfl⟩)
          · exact absurd later notLater
          · exact Or.inl ⟨Or.inl rfl, rfl⟩
        · rintro (⟨rfl | later, sameId⟩ | ⟨absurdity, _⟩)
          · exact Or.inr ⟨nodup.1, rfl⟩
          · exact absurd ⟨later, sameId⟩ notLater
          · exact absurd trivial absurdity.1
      · simp only [same, if_false, not_false_eq_true, true_and]
        constructor
        · rintro (⟨member, sameId⟩ | older)
          · exact Or.inl ⟨Or.inr member, sameId⟩
          · exact Or.inr older
        · rintro (⟨rfl | member, sameId⟩ | older)
          · exact absurd sameId.symm same
          · exact Or.inl ⟨member, sameId⟩
          · exact Or.inr older
  simpa [fieldsById] using general fields Dict.empty nodup

theorem mem_fieldsBySection {fields : List Field} (sectionId : Nat) (field : Field) :
    field ∈ ((fieldsBySection fields).get? sectionId).getD [] ↔
      field ∈ fields ∧ field.sectionId = sectionId := by
  rw [fieldsBySection, Dict.getD_get?_groupBy]
  simp

/-! ## The section gate over the field gate -/

theorem sectionVisibleIds_ok {fieldRules : List ConditionalRule} {fields : List Field}
    {visibleSectionIds visibleIds : List Nat} {current : Section}
    (result : sectionVisibleIds py answers fieldRules (fieldsBySection fields) visibleSectionIds current =
      .ok visibleIds) (id : Nat) :
    id ∈ visibleIds ↔ current.id ∈ visibleSectionIds ∧
      ∃ field ∈ fields, field.sectionId = current.id ∧ field.id = id ∧
        Shown py answers (·.targetFieldId) fieldRules id := by
  unfold sectionVisibleIds at result
  split at result
  · rename_i member
    rw [getVisibleFields] at result
    rw [mem_visibleTargets result]
    simp only [List.mem_map, mem_fieldsBySection, member, true_and]
    constructor
    · intro holds
      obtain ⟨⟨field, ⟨inFields, inSection⟩, sameId⟩, shown⟩ := holds
      exact ⟨field, inFields, inSection, sameId, shown⟩
    · intro holds
      obtain ⟨field, inFields, inSection, sameId, shown⟩ := holds
      exact ⟨⟨field, ⟨inFields, inSection⟩, sameId⟩, shown⟩
  · rename_i absent
    cases result
    simp [absent]

theorem sectionVisibleIds_returns_iff {fieldRules : List ConditionalRule} {fields : List Field}
    {visibleSectionIds : List Nat} {current : Section} :
    (∃ ids, sectionVisibleIds py answers fieldRules (fieldsBySection fields) visibleSectionIds current = .ok ids) ↔
      (current.id ∈ visibleSectionIds → ∀ field ∈ fields, field.sectionId = current.id →
        ∃ shown, showsTarget py answers (rulesFor (·.targetFieldId) fieldRules field.id) = .ok shown) := by
  unfold sectionVisibleIds
  split
  · rename_i member
    rw [getVisibleFields, visibleTargets_returns_iff]
    simp only [List.forall_mem_map, mem_fieldsBySection, and_imp, member, forall_const]
  · rename_i absent
    simp [absent]

/-- The section loop of `validate_submission`, as a loop that records. -/
theorem visibleFieldIds_eq : visibleFieldIds py survey answers = (do
    let visibleSectionIds ← getVisibleSections py answers survey.sections survey.sectionRules
    survey.sections.foldlM (fun all current => (fun ids : List Nat => all ∪ ids.toFinset) <$>
      sectionVisibleIds py answers survey.fieldRules (fieldsBySection survey.fields) visibleSectionIds current) ∅) := by
  simp only [visibleFieldIds, bind_pure_comp]

variable (py survey answers) in
/-- When the visible ids can be computed: every section can be tested, and every
field of a section that is shown. -/
theorem visibleFieldIds_returns_iff : (∃ ids, visibleFieldIds py survey answers = .ok ids) ↔
    (∀ current ∈ survey.sections, ∃ shown, showsTarget py answers
      (rulesFor (·.targetSectionId) survey.sectionRules current.id) = .ok shown) ∧
    ∀ field ∈ survey.fields,
      showsTarget py answers (rulesFor (·.targetSectionId) survey.sectionRules field.sectionId) = .ok true →
      ∃ shown, showsTarget py answers (rulesFor (·.targetFieldId) survey.fieldRules field.id) = .ok shown := by
  have sections := visibleTargets_returns_iff py answers (·.targetSectionId) survey.sectionRules (survey.sections.map (·.id))
  simp only [List.forall_mem_map] at sections
  rw [← sections]
  have fields : ∀ visibleSectionIds, visibleTargets py answers (·.targetSectionId) survey.sectionRules
      (survey.sections.map (·.id)) = .ok visibleSectionIds →
      ((∃ ids, survey.sections.foldlM (fun all current => (fun ids : List Nat => all ∪ ids.toFinset) <$>
        sectionVisibleIds py answers survey.fieldRules (fieldsBySection survey.fields) visibleSectionIds current) ∅ =
          .ok ids) ↔ ∀ field ∈ survey.fields,
        showsTarget py answers (rulesFor (·.targetSectionId) survey.sectionRules field.sectionId) = .ok true →
        ∃ shown, showsTarget py answers (rulesFor (·.targetFieldId) survey.fieldRules field.id) = .ok shown) := by
    intro visibleSectionIds result
    -- every section was tested, so membership decides which test was true
    have tested := sections.mp ⟨_, result⟩
    rw [foldlM_record_returns_iff fun all _ (ids : List Nat) => all ∪ ids.toFinset]
    have gate : ∀ current ∈ survey.sections, (current.id ∈ visibleSectionIds ↔
        showsTarget py answers (rulesFor (·.targetSectionId) survey.sectionRules current.id) = .ok true) := by
      intro current member
      obtain ⟨shown, evaluated⟩ := tested current member
      rw [mem_visibleTargets result, ← showsTarget_ok_iff evaluated, evaluated, Except.ok.injEq]
      exact and_iff_right (List.mem_map_of_mem member)
    constructor
    · intro returns field inFields shown
      obtain ⟨parent, inSections, inSection⟩ := survey.placed field inFields
      exact sectionVisibleIds_returns_iff.mp (returns parent inSections)
        ((gate parent inSections).mpr (inSection ▸ shown)) field inFields inSection.symm
    · intro returns current inSections
      apply sectionVisibleIds_returns_iff.mpr
      intro member field inFields inSection
      exact returns field inFields (inSection ▸ (gate current inSections).mp member)
  simp only [visibleFieldIds_eq, bind_eq_ok, getVisibleSections]
  constructor
  · intro holds
    obtain ⟨ids, visibleSectionIds, result, loopResult⟩ := holds
    exact ⟨⟨visibleSectionIds, result⟩, (fields visibleSectionIds result).mp ⟨ids, loopResult⟩⟩
  · intro holds
    obtain ⟨⟨visibleSectionIds, result⟩, returns⟩ := holds
    obtain ⟨ids, loopResult⟩ := (fields visibleSectionIds result).mpr returns
    exact ⟨ids, visibleSectionIds, result, loopResult⟩

/-- `all_visible_field_ids` holds the ids of the visible fields. -/
theorem mem_visibleFieldIds {ids : Finset Nat} (result : visibleFieldIds py survey answers = .ok ids)
    (id : Nat) : id ∈ ids ↔ ∃ field ∈ survey.fields, field.id = id ∧ Visible py survey answers field := by
  simp only [visibleFieldIds, bind_eq_ok] at result
  obtain ⟨visibleSectionIds, sectionsResult, loopResult⟩ := result
  -- the union grows by one section at a time
  have loop : ∀ (sections : List Section) (start : Finset Nat),
      (sections.foldlM (fun all current => do
        let visibleIds ← sectionVisibleIds py answers survey.fieldRules (fieldsBySection survey.fields)
          visibleSectionIds current
        return all ∪ visibleIds.toFinset) start) = .ok ids →
      (id ∈ ids ↔ id ∈ start ∨ ∃ current ∈ sections, current.id ∈ visibleSectionIds ∧
        ∃ field ∈ survey.fields, field.sectionId = current.id ∧ field.id = id ∧
          Shown py answers (·.targetFieldId) survey.fieldRules id) := by
    intro sections
    induction sections with
    | nil => intro start result; cases result; simp
    | cons current rest inductionHypothesis =>
      intro start result
      simp only [List.foldlM_cons, bind_eq_ok, pure, Except.pure, Except.ok.injEq] at result
      obtain ⟨next, ⟨visibleIds, headResult, rfl⟩, restResult⟩ := result
      rw [inductionHypothesis _ restResult, Finset.mem_union, List.mem_toFinset,
        sectionVisibleIds_ok headResult, List.exists_mem_cons_iff, or_assoc]
  rw [loop survey.sections ∅ loopResult]
  rw [getVisibleSections] at sectionsResult
  simp only [Finset.notMem_empty, false_or, mem_visibleTargets sectionsResult, Visible]
  constructor
  · intro holds
    obtain ⟨current, _, ⟨_, sectionShown⟩, field, inFields, inSection, sameId, fieldShown⟩ := holds
    exact ⟨field, inFields, sameId, inSection ▸ sectionShown, sameId ▸ fieldShown⟩
  · intro holds
    obtain ⟨field, inFields, sameId, sectionShown, fieldShown⟩ := holds
    obtain ⟨current, inSections, inSection⟩ := survey.placed field inFields
    exact ⟨current, inSections, ⟨List.mem_map_of_mem inSections, inSection ▸ sectionShown⟩,
      field, inFields, inSection.symm, sameId, sameId ▸ fieldShown⟩

/-! ## One visible field -/

/-- The verdict on an answer, given the error found. -/
def verdictOf (py : Interpreter) (value? : Option Json) : Option String → Verdict
  | some message => .rejected message
  | none =>
    match value? with
    | some value => if isBlank py (some value) then .skipped else .kept value
    | none => .skipped

/-- The loop body is `fieldError?`, read as a verdict. -/
theorem checkField_eq (field : Field) :
    checkField py answers (activeModifications py answers survey.dependencies field.id) field =
      verdictOf py (answers.get? (fieldIdStr field.id)) <$> fieldError? py survey answers field := by
  unfold checkField fieldError?
  cases answers.get? (fieldIdStr field.id) with
  | none => cases field.required <;> rfl
  | some value =>
    by_cases blank : isBlank py (some value) = true
    · simp only [blank, if_true]
      cases field.required <;> simp [verdictOf, blank, Functor.map, Except.map]
    · simp only [blank]
      cases valueError? py field value (activeModifications py answers survey.dependencies field.id) with
      | error exn => rfl
      | ok error => cases error <;> simp [verdictOf, blank, Functor.map, Except.map, bind, Except.bind,
          pure, Except.pure]

theorem verdictOf_eq_rejected {value? : Option Json} {error : Option String} {message : String} :
    verdictOf py value? error = .rejected message ↔ error = some message := by
  cases error with
  | some text => simp [verdictOf]
  | none =>
    cases value? with
    | none => simp [verdictOf]
    | some value => by_cases blank : isBlank py (some value) = true <;> simp [verdictOf, blank]

theorem verdictOf_eq_kept {value? : Option Json} {error : Option String} {value : Json} :
    verdictOf py value? error = .kept value ↔
      error = none ∧ isBlank py value? = false ∧ value? = some value := by
  cases error with
  | some text => simp [verdictOf]
  | none =>
    cases value? with
    | none => simp [verdictOf]
    | some value' =>
      by_cases blank : isBlank py (some value') = true <;> simp [verdictOf, blank]

/-! ## The loop over the visible ids -/

theorem get?_errors_recordVerdict {outcome : Outcome} {id : Nat} {verdict : Verdict}
    (fresh : outcome.errors.get? (fieldIdStr id) = none) (key message : String) :
    (recordVerdict outcome id verdict).errors.get? key = some message ↔
      outcome.errors.get? key = some message ∨ (key = fieldIdStr id ∧ verdict = .rejected message) := by
  by_cases same : key = fieldIdStr id
  · subst same
    cases verdict <;> simp [recordVerdict, fresh]
  · cases verdict <;> simp [recordVerdict, same]

theorem get?_cleaned_recordVerdict {outcome : Outcome} {id : Nat} {verdict : Verdict}
    (fresh : outcome.cleaned.get? (fieldIdStr id) = none) (key : String) (value : Json) :
    (recordVerdict outcome id verdict).cleaned.get? key = some value ↔
      outcome.cleaned.get? key = some value ∨ (key = fieldIdStr id ∧ verdict = .kept value) := by
  by_cases same : key = fieldIdStr id
  · subst same
    cases verdict <;> simp [recordVerdict, fresh]
  · cases verdict <;> simp [recordVerdict, same]

theorem fresh_recordVerdict {outcome : Outcome} {id other : Nat} (verdict : Verdict)
    (different : other ≠ id) (fresh : outcome.errors.get? (fieldIdStr other) = none ∧
      outcome.cleaned.get? (fieldIdStr other) = none) :
    (recordVerdict outcome id verdict).errors.get? (fieldIdStr other) = none ∧
      (recordVerdict outcome id verdict).cleaned.get? (fieldIdStr other) = none := by
  have keys : fieldIdStr other ≠ fieldIdStr id := fun same => different (fieldIdStr_injective same)
  cases verdict <;> simp [recordVerdict, keys, fresh]

/-- A loop that records one verdict for each of distinct ids. -/
theorem recordLoop_ok {verdict : Nat → Except PyExn Verdict} {ids : List Nat} (nodup : ids.Nodup)
    {start outcome : Outcome}
    (result : ids.foldlM (fun outcome id => recordVerdict outcome id <$> verdict id) start = .ok outcome)
    (fresh : ∀ id ∈ ids, start.errors.get? (fieldIdStr id) = none ∧ start.cleaned.get? (fieldIdStr id) = none) :
    (∀ id ∈ ids, ∃ v, verdict id = .ok v) ∧
      (∀ key message, outcome.errors.get? key = some message ↔ start.errors.get? key = some message ∨
        ∃ id ∈ ids, key = fieldIdStr id ∧ verdict id = .ok (.rejected message)) ∧
      (∀ key value, outcome.cleaned.get? key = some value ↔ start.cleaned.get? key = some value ∨
        ∃ id ∈ ids, key = fieldIdStr id ∧ verdict id = .ok (.kept value)) := by
  induction ids generalizing start with
  | nil => cases result; simp
  | cons id rest inductionHypothesis =>
    rw [List.nodup_cons] at nodup
    rw [List.foldlM_cons, bind_eq_ok] at result
    obtain ⟨next, headResult, restResult⟩ := result
    cases headVerdict : verdict id with
    | error exn => rw [headVerdict] at headResult; cases headResult
    | ok v =>
      rw [headVerdict] at headResult
      cases headResult
      -- ids are distinct, so each verdict is recorded under a key nothing was recorded under
      have headFresh := fresh id (by simp)
      have restFresh : ∀ other ∈ rest, (recordVerdict start id v).errors.get? (fieldIdStr other) = none ∧
          (recordVerdict start id v).cleaned.get? (fieldIdStr other) = none := fun other member =>
        fresh_recordVerdict v (fun same => nodup.1 (same ▸ member)) (fresh other (List.mem_cons_of_mem _ member))
      obtain ⟨returns, errors, cleaned⟩ := inductionHypothesis nodup.2 restResult restFresh
      refine ⟨?_, ?_, ?_⟩
      · rw [List.forall_mem_cons]
        exact ⟨⟨v, headVerdict⟩, returns⟩
      · intro key message
        rw [errors, get?_errors_recordVerdict headFresh.1, List.exists_mem_cons_iff, or_assoc, headVerdict,
          Except.ok.injEq]
      · intro key value
        rw [cleaned, get?_cleaned_recordVerdict headFresh.2, List.exists_mem_cons_iff, or_assoc, headVerdict,
          Except.ok.injEq]

/-- The verdict on an id of `all_visible_field_ids`. -/
def verdictOn (py : Interpreter) (survey : SurveyStructure) (answers : Dict String Json) (id : Nat) :
    Except PyExn Verdict :=
  match (fieldsById survey.fields).get? id with
  | none => .error .keyError
  | some field =>
    verdictOf py (answers.get? (fieldIdStr field.id)) <$> fieldError? py survey answers field

theorem verdictOn_eq_ok {id : Nat} {verdict : Verdict} :
    verdictOn py survey answers id = .ok verdict ↔ ∃ field ∈ survey.fields, field.id = id ∧
      ∃ error, fieldError? py survey answers field = .ok error ∧
        verdict = verdictOf py (answers.get? (fieldIdStr field.id)) error := by
  unfold verdictOn
  cases found : (fieldsById survey.fields).get? id with
  | none =>
    -- an id without a field: both sides are false
    have absent : ∀ field ∈ survey.fields, field.id ≠ id := by
      intro field member sameId
      rw [(get?_fieldsById survey.fieldIds id field).mpr ⟨member, sameId⟩] at found
      cases found
    simp only [false_iff, reduceCtorEq]
    intro holds
    obtain ⟨field, member, sameId, _⟩ := holds
    exact absent field member sameId
  | some field =>
    obtain ⟨member, sameId⟩ := (get?_fieldsById survey.fieldIds id field).mp found
    have unique : ∀ other ∈ survey.fields, other.id = id → other = field := by
      intro other otherMember otherId
      have otherFound := (get?_fieldsById survey.fieldIds id other).mpr ⟨otherMember, otherId⟩
      rw [found, Option.some.injEq] at otherFound
      exact otherFound.symm
    constructor
    · intro result
      cases checked : fieldError? py survey answers field with
      | error exn => simp [checked, Functor.map, Except.map] at result
      | ok error =>
        simp only [checked, Functor.map, Except.map, Except.ok.injEq] at result
        exact ⟨field, member, sameId, error, checked, result.symm⟩
    · intro holds
      obtain ⟨other, otherMember, otherId, error, checked, rfl⟩ := holds
      rw [unique other otherMember otherId] at checked ⊢
      simp [checked, Functor.map, Except.map]

/-- The loop of `validate_submission` records the verdict on each id. -/
theorem checkLoop_eq {modifications : Dict Nat (List Modification)}
    (resolved : resolveDependencies py answers survey.dependencies = .ok modifications) :
    checkVisible py answers (fieldsById survey.fields) modifications =
      fun outcome id => recordVerdict outcome id <$> verdictOn py survey answers id := by
  funext outcome id
  unfold checkVisible verdictOn
  cases found : (fieldsById survey.fields).get? id with
  | none => rfl
  | some field =>
    obtain ⟨_, rfl⟩ := (get?_fieldsById survey.fieldIds id field).mp found
    simp only [resolveDependencies_ok resolved, checkField_eq]
    cases fieldError? py survey answers field <;> rfl

/-- What a completed run of the checks knows. -/
structure Checked (py : Interpreter) (survey : SurveyStructure) (answers : Dict String Json)
    (outcome : Outcome) : Prop where
  returned : ∀ field ∈ survey.fields, Visible py survey answers field →
    ∃ error, fieldError? py survey answers field = .ok error
  errors : ∀ key message, outcome.errors.get? key = some message ↔
    ∃ field ∈ survey.fields, Visible py survey answers field ∧ key = fieldIdStr field.id ∧
      fieldError? py survey answers field = .ok (some message)
  cleaned : ∀ key value, outcome.cleaned.get? key = some value ↔
    ∃ field ∈ survey.fields, Visible py survey answers field ∧ key = fieldIdStr field.id ∧
      fieldError? py survey answers field = .ok none ∧ Answered py answers field ∧
      answers.get? key = some value

theorem runChecks_ok {order : SetOrder} {outcome : Outcome}
    (result : runChecks py order survey answers = .ok outcome) : Checked py survey answers outcome := by
  simp only [runChecks, bind_eq_ok] at result
  obtain ⟨ids, idsResult, modifications, resolved, loopResult⟩ := result
  rw [checkLoop_eq resolved] at loopResult
  obtain ⟨returns, errors, cleaned⟩ := recordLoop_ok (order.nodup ids) loopResult (by simp)
  have member : ∀ id, id ∈ order.iterate ids ↔
      ∃ field ∈ survey.fields, field.id = id ∧ Visible py survey answers field :=
    fun id => (order.mem_iterate ids id).trans (mem_visibleFieldIds idsResult id)
  -- the id of a visible field is the id of no other field
  have unique : ∀ field ∈ survey.fields, ∀ other ∈ survey.fields, field.id = other.id → field = other :=
    fun field inFields other otherIn same =>
      List.inj_on_of_nodup_map survey.fieldIds inFields otherIn same
  refine ⟨?_, ?_, ?_⟩
  · intro field inFields visible
    obtain ⟨verdict, onId⟩ := returns field.id ((member _).mpr ⟨field, inFields, rfl, visible⟩)
    obtain ⟨other, otherIn, sameId, error, checked, _⟩ := verdictOn_eq_ok.mp onId
    rw [unique other otherIn field inFields sameId] at checked
    exact ⟨error, checked⟩
  · intro key message
    simp only [errors, Dict.get?_empty, reduceCtorEq, false_or]
    constructor
    · intro holds
      obtain ⟨id, inIds, rfl, onId⟩ := holds
      obtain ⟨field, inFields, sameId, error, checked, verdict⟩ := verdictOn_eq_ok.mp onId
      obtain ⟨other, otherIn, otherId, visible⟩ := (member id).mp inIds
      rw [unique other otherIn field inFields (otherId.trans sameId.symm)] at visible
      rw [verdictOf_eq_rejected.mp verdict.symm] at checked
      exact ⟨field, inFields, visible, sameId ▸ rfl, checked⟩
    · intro holds
      obtain ⟨field, inFields, visible, rfl, checked⟩ := holds
      exact ⟨field.id, (member _).mpr ⟨field, inFields, rfl, visible⟩, rfl,
        verdictOn_eq_ok.mpr ⟨field, inFields, rfl, _, checked, (verdictOf_eq_rejected.mpr rfl).symm⟩⟩
  · intro key value
    simp only [cleaned, Dict.get?_empty, reduceCtorEq, false_or]
    constructor
    · intro holds
      obtain ⟨id, inIds, rfl, onId⟩ := holds
      obtain ⟨field, inFields, rfl, error, checked, verdict⟩ := verdictOn_eq_ok.mp onId
      obtain ⟨other, otherIn, otherId, visible⟩ := (member field.id).mp inIds
      rw [unique other otherIn field inFields otherId] at visible
      obtain ⟨rfl, notBlank, found⟩ := verdictOf_eq_kept.mp verdict.symm
      exact ⟨field, inFields, visible, rfl, checked, notBlank, found⟩
    · intro holds
      obtain ⟨field, inFields, visible, rfl, checked, notBlank, found⟩ := holds
      exact ⟨field.id, (member _).mpr ⟨field, inFields, rfl, visible⟩, rfl,
        verdictOn_eq_ok.mpr ⟨field, inFields, rfl, _, checked,
          (verdictOf_eq_kept.mpr ⟨rfl, notBlank, found⟩).symm⟩⟩

/-- When the visible ids and the modifications are computed and no check raises,
the loop completes. -/
theorem runChecks_returns (order : SetOrder) {ids : Finset Nat} {modifications : Dict Nat (List Modification)}
    (idsResult : visibleFieldIds py survey answers = .ok ids)
    (resolved : resolveDependencies py answers survey.dependencies = .ok modifications)
    (checks : ∀ field ∈ survey.fields, Visible py survey answers field →
      ∃ error, fieldError? py survey answers field = .ok error) :
    ∃ outcome, runChecks py order survey answers = .ok outcome := by
  have verdicts : ∀ id ∈ order.iterate ids, ∃ v, verdictOn py survey answers id = .ok v := by
    intro id inIds
    obtain ⟨field, inFields, sameId, visible⟩ :=
      (mem_visibleFieldIds idsResult id).mp ((order.mem_iterate ids id).mp inIds)
    obtain ⟨error, checked⟩ := checks field inFields visible
    exact ⟨_, verdictOn_eq_ok.mpr ⟨field, inFields, sameId, error, checked, rfl⟩⟩
  obtain ⟨outcome, loopResult⟩ := (foldlM_record_returns_iff recordVerdict ⟨Dict.empty, Dict.empty⟩).mpr verdicts
  refine ⟨outcome, ?_⟩
  simp only [runChecks, bind_eq_ok]
  exact ⟨ids, idsResult, modifications, resolved, by rw [checkLoop_eq resolved]; exact loopResult⟩

end Submission

end SurveyPlatform.Verified

import SurveyPlatform.Verified.AnswerDurability
import SurveyPlatform.Verified.SubmissionStability

/-! # The order of submitted answers

`SurveySubmitView.post` folds the list of answers into a dict, so the last entry
of a field counts, and stops at the first field of another survey.  Lists that
agree on these are answered alike, whatever their order, and an accepted
submission stores every visible answer that no later entry of its field replaces
(`submit_order`).
-/

namespace SurveyPlatform.Verified

open SurveyPlatform.Library SurveyPlatform.Library.Program SurveyPlatform.Python
open SurveyPlatform.Surveys SurveyPlatform.Responses

/-! ## What the loop reads of a list -/

/-- `answers_dict` when every entry is for a field of the survey. -/
def readAnswers (answers : List Answer) : Dict String Json :=
  answers.foldl (fun d answer => d.set (toString answer.fieldId) answer.value) Dict.empty

/-- The value of the last entry of a field. -/
def lastValue (answers : List Answer) (fieldId : Int) : Option Json :=
  (answers.reverse.find? (·.fieldId = fieldId)).map Answer.value

/-- The field of the first entry that is not for a field of the survey. -/
def firstForeign (db : Database) (surveyId : Nat) (answers : List Answer) : Option Int :=
  (answers.find? fun answer => !(fieldOfSurvey db surveyId answer.fieldId).isSome).map Answer.fieldId

/-- A permutation that keeps the first entry of a foreign field first, or, if
there is none, the last entry of each field last. -/
structure SameReading (db : Database) (surveyId : Nat) (answers answers' : List Answer) : Prop where
  permuted : answers.Perm answers'
  sameForeign : firstForeign db surveyId answers = firstForeign db surveyId answers'
  sameLast : firstForeign db surveyId answers = none → ∀ fieldId, lastValue answers fieldId = lastValue answers' fieldId

/-! ## Validation looks answers up -/

section Lookups

variable {py : Interpreter} {answers answers' : Dict String Json} (same : answers.Same answers')
include same

theorem evaluateCondition_same (condition : Condition) :
    evaluateCondition py condition answers = evaluateCondition py condition answers' :=
  evaluateCondition_congr py condition (by rw [answerTo, answerTo, same])

theorem visibleTargets_same (target : ConditionalRule → Option Nat) (rules : List ConditionalRule) (ids : List Nat) :
    visibleTargets py answers target rules ids = visibleTargets py answers' target rules ids := by
  induction ids with
  | nil => rfl
  | cons id rest inductionHypothesis =>
    simp only [visibleTargets_cons, showsTarget, evaluateCondition_same same, inductionHypothesis]

theorem visibleFieldIds_same (survey : SurveyStructure) :
    visibleFieldIds py survey answers = visibleFieldIds py survey answers' := by
  simp only [visibleFieldIds, getVisibleSections, sectionVisibleIds, getVisibleFields, visibleTargets_same same]

theorem resolveDependencies_same (dependencies : List FieldDependency) :
    resolveDependencies py answers dependencies = resolveDependencies py answers' dependencies := by
  have applied : applyDependency py answers = applyDependency py answers' := by
    funext modifications dep
    simp only [applyDependency, evaluateCondition_same same]
  rw [resolveDependencies, resolveDependencies, applied]

theorem checkVisible_same (byId : Dict Nat Field) (modifications : Dict Nat (List Modification)) :
    checkVisible py answers byId modifications = checkVisible py answers' byId modifications := by
  funext outcome fieldId
  simp only [checkVisible, checkField, same _]

/-- Only what is found under a key matters, not the order of the dict. -/
theorem validateSubmission_same (order : SetOrder) (survey : SurveyStructure) :
    validateSubmission py order survey answers = validateSubmission py order survey answers' := by
  have ran : runChecks py order survey answers = runChecks py order survey answers' := by
    simp only [runChecks, visibleFieldIds_same same, resolveDependencies_same same, checkVisible_same same]
  rw [validateSubmission, validateSubmission, ran]

end Lookups

/-! ## Folding the list -/

/-- A sign is no digit, so the text of an integer says which one it is. -/
theorem toString_int_injective {a b : Int} (same : toString a = toString b) : a = b := by
  have noSign : ∀ m n : Nat, toString m ≠ "-" ++ toString n := by
    intro m n equal
    have chars := congrArg String.toList equal
    rw [String.toList_append, toList_toString_nat] at chars
    have first : '-' ∈ Nat.toDigits 10 m := chars ▸ List.mem_cons_self
    have digit := Nat.isDigit_of_mem_toDigits (by omega) (by omega) first
    cases digit
  cases a with
  | ofNat m =>
    cases b with
    | ofNat n => exact congrArg Int.ofNat (fieldIdStr_injective same)
    | negSucc n => exact absurd same (noSign m (n + 1))
  | negSucc m =>
    cases b with
    | ofNat n => exact absurd same.symm (noSign n (m + 1))
    | negSucc n =>
      have chars : ("-" ++ toString (m + 1)).toList = ("-" ++ toString (n + 1)).toList := congrArg String.toList same
      rw [String.toList_append, String.toList_append, List.append_cancel_left_eq] at chars
      rw [Nat.succ.inj (fieldIdStr_injective (String.toList_inj.mp chars))]

/-- A key holds the value of the last entry that was written under it. -/
theorem get?_readAnswers (answers : List Answer) (key : String) : (readAnswers answers).get? key =
    (answers.reverse.find? fun answer => toString answer.fieldId = key).map Answer.value := by
  have general : ∀ start : Dict String Json,
      (answers.foldl (fun d answer => d.set (toString answer.fieldId) answer.value) start).get? key =
        ((answers.reverse.find? fun answer => toString answer.fieldId = key).map Answer.value).or (start.get? key) := by
    induction answers with
    | nil => intro start; rfl
    | cons answer rest inductionHypothesis =>
      intro start
      rw [List.foldl_cons, inductionHypothesis, Dict.get?_set, List.reverse_cons, List.find?_append]
      cases rest.reverse.find? fun answer => toString answer.fieldId = key with
      | some later => rfl
      | none =>
        by_cases written : toString answer.fieldId = key
        · rw [if_pos written.symm, List.find?_singleton, if_pos (decide_eq_true written)]
          rfl
        · rw [if_neg (Ne.symm written), List.find?_singleton, if_neg (by rwa [decide_eq_true_eq])]
          rfl
  rw [readAnswers, general]
  simp

theorem get?_readAnswers_toString (answers : List Answer) (fieldId : Int) :
    (readAnswers answers).get? (toString fieldId) = lastValue answers fieldId := by
  have sameTest : (fun answer : Answer => decide (toString answer.fieldId = toString fieldId)) =
      fun answer => decide (answer.fieldId = fieldId) := by
    funext answer
    exact decide_eq_decide.mpr ⟨toString_int_injective, congrArg toString⟩
  rw [get?_readAnswers, sameTest, lastValue]

theorem readAnswers_same {answers answers' : List Answer}
    (sameLast : ∀ fieldId, lastValue answers fieldId = lastValue answers' fieldId) :
    (readAnswers answers).Same (readAnswers answers') := by
  intro key
  by_cases isId : ∃ fieldId : Int, toString fieldId = key
  · obtain ⟨fieldId, rfl⟩ := isId
    rw [get?_readAnswers_toString, get?_readAnswers_toString, sameLast]
  · -- nothing is written under a key that is no id
    have none : ∀ list : List Answer, list.reverse.find? (fun answer => toString answer.fieldId = key) = none := by
      intro list
      rw [List.find?_eq_none]
      intro answer _ written
      exact isId ⟨answer.fieldId, of_decide_eq_true written⟩
    rw [get?_readAnswers, get?_readAnswers, none, none]

/-- The loop stops at the first foreign field, or has read the whole list. -/
theorem answersDict_eq (db : Database) (surveyId : Nat) (answers : List Answer) :
    answersDict db surveyId answers Dict.empty = match firstForeign db surveyId answers with
      | some fieldId => .error (Dict.empty.set (toString fieldId) "Field does not belong to this survey.")
      | none => .ok (readAnswers answers) := by
  have general : ∀ start : Dict String Json, answersDict db surveyId answers start =
      match firstForeign db surveyId answers with
      | some fieldId => .error (Dict.empty.set (toString fieldId) "Field does not belong to this survey.")
      | none => .ok (answers.foldl (fun d answer => d.set (toString answer.fieldId) answer.value) start) := by
    induction answers with
    | nil => intro start; rfl
    | cons answer rest inductionHypothesis =>
      intro start
      rw [answersDict]
      split
      · rename_i ofSurvey
        rw [inductionHypothesis, firstForeign, firstForeign, List.find?_cons_of_neg (by simp [ofSurvey]), List.foldl_cons]
      · rename_i foreign
        rw [firstForeign, List.find?_cons_of_pos (by simp [foreign])]
        rfl
  exact general Dict.empty

theorem required_eq_ok {converted : Submitted (List Answer)} {answers : List Answer} :
    (do raiseErrors [("answers", converted.error? true)]; return converted.value?.getD []) = Except.ok answers ↔
      converted = .given answers := by
  cases converted <;> simp [Submitted.error?, Submitted.value?, raiseErrors, bind, Except.bind, pure, Except.pure]

/-- What `SurveySubmissionSerializer` accepts: no `null`, and only ids of fields. -/
theorem validateAnswers_given {db : Database} {answers : List Answer} :
    validateAnswers db (.given answers) = .ok answers ↔ ∀ answer ∈ answers, answer.value.isNone = false ∧
      0 ≤ answer.fieldId ∧ (db.fields.get answer.fieldId.toNat).isSome = true := by
  have noNull : (answers.any (·.value.isNone) = true) = ¬ ∀ answer ∈ answers, answer.value.isNone = false := by simp
  have noMissing : (((answers.map (·.fieldId)).filter
      fun id => !(0 ≤ id && (db.fields.get id.toNat).isSome)).isEmpty = true) =
      ∀ answer ∈ answers, 0 ≤ answer.fieldId ∧ (db.fields.get answer.fieldId.toNat).isSome = true := by
    rw [List.isEmpty_iff, List.filter_eq_nil_iff, List.forall_mem_map]
    simp only [Bool.not_eq_true', Bool.not_eq_false, Bool.and_eq_true, decide_eq_true_eq]
  rw [validateAnswers, required_eq_ok, Submitted.convert, forall₂_and]
  simp only [noNull, noMissing, ite_not]
  by_cases notNull : ∀ answer ∈ answers, answer.value.isNone = false
  · by_cases stored : ∀ answer ∈ answers, 0 ≤ answer.fieldId ∧ (db.fields.get answer.fieldId.toNat).isSome = true
    · simp only [if_pos notNull, if_pos stored]
      exact iff_of_true trivial ⟨notNull, stored⟩
    · simp only [if_pos notNull, if_neg stored, reduceCtorEq, false_iff]
      exact fun both => stored both.2
  · simp only [if_neg notNull, reduceCtorEq, false_iff]
    exact fun both => notNull both.1

/-! ## Two submissions -/

section Submit

variable {py : Interpreter} {order : SetOrder} {encryptValue : Encryption} {user : User} {surveyPk responseId : Nat}
  {w w' : World} {answers answers' : List Answer}

/-- Lists that are read alike are answered alike, and leave the same world behind. -/
theorem submit_sameReading (accepted : validateAnswers w.db (.given answers) = .ok answers)
    (same : SameReading w.db surveyPk answers answers') :
    submit py order encryptValue user surveyPk (.given answers') w =
      submit py order encryptValue user surveyPk (.given answers) w := by
  have accepted' : validateAnswers w.db (.given answers') = .ok answers' := by
    rw [validateAnswers_given] at accepted ⊢
    exact fun answer member => accepted answer (same.permuted.mem_iff.mpr member)
  refine query_bind_congr fun _ _ => getOr404_bind_congr fun survey found => ?_
  have sameKey : survey.id = surveyPk := w.db.surveys.keyed surveyPk survey (Option.filter_eq_some_iff.mp found).1
  rw [query_bind_of_ok accepted', query_bind_of_ok rfl, query_bind_of_ok accepted, query_bind_of_ok rfl, sameKey,
    answersDict_eq, answersDict_eq, ← same.sameForeign]
  cases foreign : firstForeign w.db surveyPk answers with
  | some fieldId => rfl
  | none =>
    have sameDict := readAnswers_same (same.sameLast foreign)
    simp only [validateSubmission_same sameDict]

/-! ## What is stored of a list -/

/-- Each prepared answer becomes a row. -/
theorem exists_numberRows {fields : Nat → Option Field} {entries : List (String × Json)} {prepared : List (Nat × String)}
    (ready : List.Forall₂ (Prepared py encryptValue fields) entries prepared) (surveyResponseId first : Nat)
    {id : Nat} {value : Json} (member : (fieldIdStr id, value) ∈ entries) :
    ∃ row ∈ numberRows surveyResponseId first prepared, row.fieldId = id ∧
      ∃ field, fields id = some field ∧ StoredAs encryptValue field (serializeValue py value) row.value := by
  induction ready generalizing first with
  | nil => cases member
  | @cons answer made entries others head _ inductionHypothesis =>
    rw [List.mem_cons] at member
    cases member with
    | inl same =>
      subst same
      obtain ⟨field, found, _, stored⟩ := head.field
      have sameId : id = made.1 := fieldIdStr_injective head.sameKey
      exact ⟨⟨first, surveyResponseId, made.1, made.2⟩, List.mem_cons_self, sameId.symm, field, sameId ▸ found, stored⟩
    | inr later =>
      obtain ⟨row, inRest, holds⟩ := inductionHypothesis (first + 1) later
      exact ⟨row, List.mem_cons_of_mem _ inRest, holds⟩

/-- The rows of an accepted submission: one for each answer that was kept. -/
theorem row_of_cleaned {survey : Survey} {response : SurveyResponse} {cleaned : Dict String Json}
    (accepted : CleanedAnswers py order w surveyPk (.given answers) cleaned)
    (stored : createSubmission py encryptValue survey user cleaned (fun id => fieldOfSurvey w.db surveyPk id) w =
      .ok response w')
    {id : Nat} {value : Json} (kept : cleaned.get? (fieldIdStr id) = some value) :
    ∃ row ∈ w'.db.fieldResponses.rows, row.surveyResponseId = response.id ∧ row.fieldId = id ∧
      ∃ field, fieldOfSurvey w.db surveyPk id = some field ∧
        StoredAs encryptValue field (serializeValue py value) row.value := by
  obtain ⟨prepared, result, rfl, rfl⟩ := createSubmission_ok stored
  have ready := prepareFieldResponses_ok (fun id field found => (fieldOfSurvey_eq_some found).2.1)
    (cleaned_fromFields accepted) result
  obtain ⟨row, inRows, sameField, holds⟩ := exists_numberRows ready w.db.responses.next w.db.fieldResponses.next
    ((cleaned.get?_eq_some_iff _ _).mp kept)
  refine ⟨row, ?_, (mem_numberRows inRows).1, sameField, holds⟩
  rw [bulkCreate_eq]
  exact (Table.mem_rows_saveAll nodup_numberRows).mpr (Or.inl inRows)

/-- The last entry of a field is the one that counts. -/
theorem lastValue_of_last {before after : List Answer} {entry : Answer}
    (last : ∀ later ∈ after, later.fieldId ≠ entry.fieldId) :
    lastValue (before ++ entry :: after) entry.fieldId = some entry.value := by
  have noLater : after.reverse.find? (fun answer => answer.fieldId = entry.fieldId) = none := by
    rw [List.find?_eq_none]
    intro later member same
    exact last later (List.mem_reverse.mp member) (of_decide_eq_true same)
  simp [lastValue, List.find?_append, noLater]

/-- An entry of a visible field that is not blank is stored, if no later entry has its field. -/
theorem stored_of_created (accepted : validateAnswers w.db (.given answers) = .ok answers)
    (created : submit py order encryptValue user surveyPk (.given answers) w = .ok (.created responseId) w')
    {before after : List Answer} {entry : Answer} {field : Field} (split : answers = before ++ entry :: after)
    (ofSurvey : fieldOfSurvey w.db surveyPk entry.fieldId = some field)
    (visible : Visible py (prefetchSurveyStructure w.db surveyPk) (readAnswers answers) field)
    (notBlank : isBlank py (some entry.value) = false) (last : ∀ later ∈ after, later.fieldId ≠ entry.fieldId) :
    ∃ row ∈ w'.db.fieldResponses.rows, row.surveyResponseId = responseId ∧ row.fieldId = field.id ∧
      StoredAs encryptValue field (serializeValue py entry.value) row.value := by
  obtain ⟨cleaned, survey, response, passed, _, _, rfl, stored⟩ := submit_created created
  obtain ⟨given, dict, validated, built, ran⟩ := id passed
  cases accepted.symm.trans validated
  have isDict : dict = readAnswers answers := by
    rw [answersDict_eq] at built
    cases foreign : firstForeign w.db surveyPk answers with
    | some fieldId => rw [foreign] at built; cases built
    | none => rw [foreign] at built; cases built; rfl
  subst isDict
  obtain ⟨outcome, completed, empty, rfl⟩ := validateSubmission_eq_ok ran
  have run := (runChecks_ok completed).accepted empty
  obtain ⟨id, isId⟩ := Int.eq_ofNat_of_zero_le
    (validateAnswers_given.mp accepted entry (split ▸ List.mem_append_right _ List.mem_cons_self)).2.1
  rw [isId] at ofSurvey
  obtain ⟨_, rfl, inRows⟩ := fieldOfSurvey_eq_some ofSurvey
  have given : (readAnswers answers).get? (fieldIdStr field.id) = some entry.value := by
    have sameKey : fieldIdStr field.id = toString entry.fieldId := by rw [isId]; rfl
    rw [sameKey, get?_readAnswers_toString, split, lastValue_of_last last]
  have answered : Answered py (readAnswers answers) field := by rw [Answered, given, notBlank]
  have kept := (run.cleaned _ _).mpr ⟨given, field, mem_structureFields.mpr inRows, visible, answered, rfl⟩
  obtain ⟨row, inRows, ofResponse, sameField, other, found, storedAs⟩ := row_of_cleaned passed stored kept
  rw [ofSurvey, Option.some.injEq] at found
  subst found
  exact ⟨row, inRows, ofResponse, sameField, storedAs⟩

end Submit

/-! ## Orders that are read alike -/

/-- A field that is listed once has the value of its entry. -/
theorem lastValue_eq_some {answers : List Answer} (distinct : (answers.map Answer.fieldId).Nodup) {fieldId : Int}
    {value : Json} : lastValue answers fieldId = some value ↔
      ∃ answer ∈ answers, answer.fieldId = fieldId ∧ answer.value = value := by
  rw [lastValue, Option.map_eq_some_iff]
  constructor
  · intro holds
    obtain ⟨answer, found, sameValue⟩ := holds
    have sameField : answer.fieldId = fieldId := by simpa using List.find?_some found
    exact ⟨answer, List.mem_reverse.mp (List.mem_of_find?_eq_some found), sameField, sameValue⟩
  · intro holds
    obtain ⟨answer, member, sameField, sameValue⟩ := holds
    have present : (answers.reverse.find? (·.fieldId = fieldId)).isSome = true :=
      List.find?_isSome.mpr ⟨answer, List.mem_reverse.mpr member, decide_eq_true sameField⟩
    obtain ⟨found, isFound⟩ := Option.isSome_iff_exists.mp present
    have sameAnswer : found = answer := by
      apply List.inj_on_of_nodup_map distinct (List.mem_reverse.mp (List.mem_of_find?_eq_some isFound)) member
      rw [sameField]
      simpa using List.find?_some isFound
    exact ⟨found, isFound, sameAnswer ▸ sameValue⟩

/-- When no field is listed twice and none is foreign, every order is read alike. -/
theorem sameReading_of_distinct {db : Database} {surveyId : Nat} {answers answers' : List Answer}
    (distinct : (answers.map Answer.fieldId).Nodup)
    (ofSurvey : ∀ answer ∈ answers, (fieldOfSurvey db surveyId answer.fieldId).isSome = true)
    (permuted : answers.Perm answers') : SameReading db surveyId answers answers' := by
  have noForeign : ∀ list : List Answer, list.Perm answers → firstForeign db surveyId list = none := by
    intro list same
    rw [firstForeign, Option.map_eq_none_iff, List.find?_eq_none]
    intro answer member
    simp [ofSurvey answer (same.mem_iff.mp member)]
  refine ⟨permuted, by rw [noForeign answers (.refl _), noForeign answers' permuted.symm], fun _ fieldId => ?_⟩
  apply Option.ext
  intro value
  rw [lastValue_eq_some distinct, lastValue_eq_some ((permuted.map _).nodup_iff.mp distinct)]
  exact exists_congr fun answer => and_congr_left fun _ => permuted.mem_iff

/-- Answers are answered alike in every order that is read alike, which is any order when no field
is listed twice and none is foreign; and an accepted submission stores each answer of a visible
field that is not blank, unless a later entry has its field. -/
theorem submit_order (py : Interpreter) (order : SetOrder) (encryptValue : Encryption) (user : User) (surveyPk : Nat)
    (w : World) (answers : List Answer) (accepted : validateAnswers w.db (.given answers) = .ok answers) :
    (∀ answers', SameReading w.db surveyPk answers answers' →
      submit py order encryptValue user surveyPk (.given answers') w =
        submit py order encryptValue user surveyPk (.given answers) w) ∧
    ((answers.map Answer.fieldId).Nodup →
      (∀ answer ∈ answers, (fieldOfSurvey w.db surveyPk answer.fieldId).isSome = true) →
      ∀ answers', answers.Perm answers' → submit py order encryptValue user surveyPk (.given answers') w =
        submit py order encryptValue user surveyPk (.given answers) w) ∧
    ∀ responseId w', submit py order encryptValue user surveyPk (.given answers) w = .ok (.created responseId) w' →
      ∀ before entry after field, answers = before ++ entry :: after →
        fieldOfSurvey w.db surveyPk entry.fieldId = some field →
        Visible py (prefetchSurveyStructure w.db surveyPk) (readAnswers answers) field →
        isBlank py (some entry.value) = false →
        (∃ later ∈ after, later.fieldId = entry.fieldId) ∨
          ∃ row ∈ w'.db.fieldResponses.rows, row.surveyResponseId = responseId ∧ row.fieldId = field.id ∧
            StoredAs encryptValue field (serializeValue py entry.value) row.value := by
  refine ⟨fun _ => submit_sameReading accepted, fun distinct ofSurvey _ permuted =>
    submit_sameReading accepted (sameReading_of_distinct distinct ofSurvey permuted), ?_⟩
  intro responseId w' created before entry after field split ofSurvey visible notBlank
  by_cases replaced : ∃ later ∈ after, later.fieldId = entry.fieldId
  · exact Or.inl replaced
  · push Not at replaced
    exact Or.inr (stored_of_created accepted created split ofSurvey visible notBlank replaced)

/-! ## One field answered three times -/

def publishedWorld : World := run (handle bareInterpreter) World.empty buildAndPublish

def thrice : List Answer := [⟨1, .str "x"⟩, ⟨1, .str "y"⟩, ⟨1, .str "z"⟩]

/-- The stored values of the responses of a request. -/
def storedValues (answers : List Answer) : List String :=
  (final (submit bareInterpreter .ascending prefixToken ⟨2, .customer⟩ 1 (.given answers))
    publishedWorld).db.fieldResponses.rows.map FieldResponse.value

/-- The first two entries may change places, and the last one is stored. -/
theorem submit_order_thrice : submit bareInterpreter .ascending prefixToken ⟨2, .customer⟩ 1
      (.given [⟨1, .str "y"⟩, ⟨1, .str "x"⟩, ⟨1, .str "z"⟩]) publishedWorld =
      submit bareInterpreter .ascending prefixToken ⟨2, .customer⟩ 1 (.given thrice) publishedWorld ∧
    ∃ responseId w', submit bareInterpreter .ascending prefixToken ⟨2, .customer⟩ 1 (.given thrice) publishedWorld =
        .ok (.created responseId) w' ∧
      ∃ row ∈ w'.db.fieldResponses.rows, row.surveyResponseId = responseId ∧ row.value = "gAAAAAz" := by
  have accepted : validateAnswers publishedWorld.db (.given thrice) = .ok thrice :=
    validateAnswers_given.mpr (by decide +kernel)
  obtain ⟨sameReading, _, stores⟩ := submit_order bareInterpreter .ascending prefixToken ⟨2, .customer⟩ 1 publishedWorld
    thrice accepted
  constructor
  · apply sameReading
    refine ⟨.swap _ _ _, by decide +kernel, fun _ fieldId => ?_⟩
    by_cases isField : 1 = fieldId <;> simp [lastValue, thrice, isField]
  · have answered : (outcome (submit bareInterpreter .ascending prefixToken ⟨2, .customer⟩ 1 (.given thrice))
        publishedWorld).toOption.bind createdId = some 1 := by decide +kernel
    obtain ⟨w', created⟩ := created_of_outcome answered
    refine ⟨1, w', created, ?_⟩
    have shown : ((fieldOfSurvey publishedWorld.db 1 1).any fun field => field.isEncrypted &&
        decide (Visible bareInterpreter (prefetchSurveyStructure publishedWorld.db 1) (readAnswers thrice) field)) =
        true := by decide +kernel
    obtain ⟨field, ofSurvey, holds⟩ := (Option.any_eq_true _ _).mp shown
    rw [Bool.and_eq_true, decide_eq_true_eq] at holds
    obtain ⟨encrypted, visible⟩ := holds
    obtain ⟨later, inNone, _⟩ | ⟨row, stored, ofResponse, _, storedAs⟩ :=
      stores 1 w' created [⟨1, .str "x"⟩, ⟨1, .str "y"⟩] ⟨1, .str "z"⟩ [] field rfl ofSurvey visible (by decide)
    · cases inNone
    · rw [StoredAs, if_pos encrypted] at storedAs
      have sameValue : "gAAAAA" ++ serializeValue bareInterpreter (.str "z") = row.value := Except.ok.inj storedAs
      exact ⟨row, stored, ofResponse, sameValue.symm.trans (by decide)⟩

/-- The order in which one field is answered twice decides which answer is stored. -/
theorem submit_order_matters : ∃ answers answers', answers.Perm answers' ∧
    validateAnswers publishedWorld.db (.given answers) = .ok answers ∧
    validateAnswers publishedWorld.db (.given answers') = .ok answers' ∧
    storedValues answers = ["gAAAAAy"] ∧ storedValues answers' = ["gAAAAAx"] :=
  ⟨[⟨1, .str "x"⟩, ⟨1, .str "y"⟩], [⟨1, .str "y"⟩, ⟨1, .str "x"⟩], .swap _ _ _,
    validateAnswers_given.mpr (by decide +kernel), validateAnswers_given.mpr (by decide +kernel),
    by decide +kernel, by decide +kernel⟩

end SurveyPlatform.Verified

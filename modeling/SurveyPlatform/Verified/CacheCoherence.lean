import SurveyPlatform.Library.CacheAside
import SurveyPlatform.Verified.RequestChanges
import SurveyPlatform.Verified.SurveyDetails

/-! # The cache over sequential runs

The entry of a survey is coherent when it is the serialized survey as some role
sees it.  Every request clears the entry of the survey whose rows it writes,
with three exceptions: an update that is refused after its status was written, a
deleted survey (the cleared key has `None` for an id), and the rules and
dependencies of other surveys that a deletion takes along.  `ClearsInTime` says
that none of these meets a cached survey; along such runs the cache is coherent
in every state (`cache_coherent`).
-/

namespace SurveyPlatform.Verified

open SurveyPlatform.Library SurveyPlatform.Library.Program SurveyPlatform.Python
open SurveyPlatform.Surveys SurveyPlatform.Responses

/-! ## Entries -/

/-- The entry under `survey:{id}:structure`. -/
def structureEntry (w : World) (surveyId : Nat) : Option Json := w.cache (structureKey (toString surveyId))

/-- Every entry is the serialized survey of the current rows. -/
def CacheCoherent (w : World) : Prop := CoherentCache Serialized w.db (structureEntry w)

theorem structureKey_injective {first second : String} (same : structureKey first = structureKey second) :
    first = second := by
  have chars := congrArg String.toList same
  simp only [structureKey, String.toList_append] at chars
  exact String.toList_inj.mp (List.append_cancel_left (List.append_cancel_right chars))

theorem structureKey_toString_inj {first second : Nat} :
    structureKey (toString first) = structureKey (toString second) ↔ first = second := by
  constructor
  · intro same
    exact fieldIdStr_injective (structureKey_injective same)
  · rintro rfl
    rfl

theorem structureEntry_invalidated (w : World) (surveyId : Nat) :
    structureEntry (invalidated (toString surveyId) w) = Function.update (structureEntry w) surveyId none := by
  funext other
  simp only [structureEntry, invalidated, structureKey_toString_inj, Function.update_apply]

theorem structureEntry_withEntry (w : World) (pk : String) (data : Json) :
    (∃ surveyId, pk = toString surveyId ∧
        structureEntry (w.withEntry pk data) = Function.update (structureEntry w) surveyId (some data)) ∨
      structureEntry (w.withEntry pk data) = structureEntry w := by
  by_cases numeral : ∃ surveyId : Nat, pk = toString surveyId
  · obtain ⟨surveyId, rfl⟩ := numeral
    refine Or.inl ⟨surveyId, rfl, ?_⟩
    funext other
    simp only [structureEntry, World.withEntry, structureKey_toString_inj, Function.update_apply]
  · refine Or.inr ?_
    funext surveyId
    apply Function.update_of_ne
    exact fun same => numeral ⟨surveyId, (structureKey_injective same).symm⟩

/-- Serializing the survey found under the key of the URL puts a coherent entry there. -/
theorem cacheCoherent_withEntry {w : World} {user : User} {pk : String} {survey : Survey} (coherent : CacheCoherent w)
    (found : visibleSurvey user pk w.db = some survey) :
    CacheCoherent (w.withEntry pk (surveyJson w.db user.role survey)) := by
  obtain ⟨parsed, stored, _⟩ := visibleSurvey_eq_some.mp found
  unfold CacheCoherent
  obtain ⟨surveyId, rfl, entry⟩ | entry := structureEntry_withEntry w pk (surveyJson w.db user.role survey)
  · -- the key of the URL is the id of the survey it finds
    rw [lookupKey_toString, Option.some.injEq] at parsed
    rw [entry]
    exact CoherentCache.fill coherent ⟨survey, user.role, parsed ▸ stored, rfl⟩
  · rw [entry]
    exact coherent

/-! ## Writes -/

/-- No other survey with an entry loses a rule or a dependency with these sections and fields. -/
def SparesCached (w : World) (goneSection goneField : Nat → Bool) (surveyId : Nat) : Prop :=
  ∀ other, other ≠ surveyId → structureEntry w other ≠ none → Unreferenced w.db goneSection goneField other

/-- The call leaves no entry behind that it makes stale. -/
def ClearsInTime (w : World) (call : Call) : Prop :=
  call.user.role = .admin →
    match call.request with
    -- refused for its title or description, with the status written
    | .updateSurvey pk isPartial body => ∀ current status, w.db.surveys.get pk = some current →
      BodyRefused isPartial body → WritesStatus w.db current body.status status → structureEntry w pk = none
    | .destroySurvey pk => ∀ survey, w.db.surveys.get pk = some survey →
      structureEntry w pk = none ∧ SparesCached w (sectionsIn w.db pk) (fieldsIn w.db (sectionsIn w.db pk)) pk
    | .destroySection surveyPk pk => ∀ row, getSection surveyPk pk w.db = some row → IsDraft w.db surveyPk →
      SparesCached w (· == pk) (fieldsIn w.db (· == pk)) surveyPk
    | .destroyField surveyPk sectionPk pk => ∀ field, getField sectionPk pk w.db = some field →
      field.surveyId = surveyPk → IsDraft w.db surveyPk → SparesCached w (fun _ => false) (· == pk) surveyPk
    | _ => True

section Writes

variable {w : World} {db : Database}

/-- With no entry touched, the surveys that are cached must keep their details. -/
theorem CacheCoherent.withDb (coherent : CacheCoherent w)
    (kept : ∀ surveyId, structureEntry w surveyId = none ∨ SameDetail w.db db surveyId) :
    CacheCoherent (withDb w db) := by
  apply CoherentCache.write coherent
  intro surveyId
  cases kept surveyId with
  | inl absent => exact Or.inl absent
  | inr same => exact Or.inr ⟨rfl, fun _ _ => same.serialized⟩

/-- The entry of one survey is cleared; the others that are cached keep their details. -/
theorem CacheCoherent.refreshed {surveyId : Nat} (coherent : CacheCoherent w)
    (kept : ∀ other, other ≠ surveyId → structureEntry w other = none ∨ SameDetail w.db db other) :
    CacheCoherent (refreshed surveyId w db) := by
  apply CoherentCache.write coherent
  intro other
  by_cases same : other = surveyId
  · refine Or.inl ?_
    subst same
    simp [structureEntry, Verified.refreshed, invalidated]
  · have untouched : structureEntry (Verified.refreshed surveyId w db) other = structureEntry w other :=
      if_neg fun sameKey => same (structureKey_toString_inj.mp sameKey)
    cases kept other same with
    | inl absent => exact Or.inl (untouched.trans absent)
    | inr details => exact Or.inr ⟨untouched, fun _ _ => details.serialized⟩

/-- The entry under the key `None` is no survey's. -/
theorem CacheCoherent.invalidated_None (coherent : CacheCoherent w) : CacheCoherent (invalidated "None" w) := by
  apply CoherentCache.write coherent
  intro surveyId
  have otherKey : structureKey (toString surveyId) ≠ structureKey "None" := by
    intro same
    have isNumeral := lookupKey_toString surveyId
    rw [structureKey_injective same] at isNumeral
    cases isNumeral
  exact Or.inr ⟨if_neg otherKey, fun _ _ still => still⟩

theorem CacheCoherent.stored (coherent : CacheCoherent w) {surveyId : Nat} (cached : structureEntry w surveyId ≠ none) :
    ∃ survey, w.db.surveys.get surveyId = some survey := by
  obtain ⟨data, entry⟩ := Option.ne_none_iff_exists'.mp cached
  obtain ⟨survey, _, found, _⟩ := coherent surveyId data entry
  exact ⟨survey, found⟩

/-! ## One kind of change at a time -/

/-- Nothing is cached under an id that was never handed out. -/
theorem CacheCoherent.surveyCreated (coherent : CacheCoherent w) (row : Survey) :
    CacheCoherent (Verified.withDb w { w.db with surveys := w.db.surveys.insert row.withId row.key_withId }) := by
  apply coherent.withDb
  intro surveyId
  by_cases new : surveyId = w.db.surveys.next
  · refine Or.inl ?_
    by_contra cached
    obtain ⟨survey, stored⟩ := coherent.stored cached
    rw [new, Table.get_next] at stored
    cases stored
  · exact Or.inr (SameDetail.of_surveys (by rw [Table.get_insert, if_neg new]))

theorem CacheCoherent.surveyMoved (coherent : CacheCoherent w) {pk : Nat} (status : SurveyStatus)
    (absent : structureEntry w pk = none) : CacheCoherent (Verified.withDb w (w.db.setStatus pk status)) := by
  apply coherent.withDb
  intro surveyId
  by_cases same : surveyId = pk
  · exact Or.inl (same ▸ absent)
  · exact Or.inr (SameDetail.of_surveys (by rw [Table.get_modify, if_neg same]))

theorem CacheCoherent.surveyDeleted (coherent : CacheCoherent w) {pk : Nat} (absent : structureEntry w pk = none)
    (spared : SparesCached w (sectionsIn w.db pk) (fieldsIn w.db (sectionsIn w.db pk)) pk) :
    CacheCoherent (invalidated "None" (Verified.withDb w (w.db.deleteSurvey pk))) := by
  apply CacheCoherent.invalidated_None
  apply coherent.withDb
  intro other
  by_cases same : other = pk
  · exact Or.inl (same ▸ absent)
  · exact or_iff_not_imp_left.mpr fun cached => sameDetail_deleteSurvey same (spared other same cached)

theorem CacheCoherent.sectionDeleted (coherent : CacheCoherent w) {row : Section}
    (stored : w.db.sections.get row.id = some row)
    (spared : SparesCached w (· == row.id) (fieldsIn w.db (· == row.id)) row.surveyId) :
    CacheCoherent (Verified.refreshed row.surveyId w (w.db.deleteSections (· == row.id))) := by
  apply coherent.refreshed
  intro other different
  exact or_iff_not_imp_left.mpr fun cached =>
    sameDetail_deleteSection (spared other different cached) (Table.forall_of_get stored different.symm)

theorem CacheCoherent.fieldDeleted (coherent : CacheCoherent w) {row : PlacedField}
    (stored : w.db.placedField row.id = some row) (spared : SparesCached w (fun _ => false) (· == row.id) row.surveyId) :
    CacheCoherent (Verified.refreshed row.surveyId w (w.db.deleteFields (· == row.id))) := by
  obtain ⟨fieldStored, parentStored⟩ := Database.placedField_eq_some.mp stored
  apply coherent.refreshed
  intro other different
  exact or_iff_not_imp_left.mpr fun cached => sameDetail_deleteField (spared other different cached)
    (Table.forall_of_get fieldStored (Table.forall_of_get parentStored different.symm))

/-- Every other change is to rows of the one survey whose entry it clears. -/
theorem CacheCoherent.ownChanged {surveyId : Nat} (coherent : CacheCoherent w)
    (elsewhere : ∀ other, other ≠ surveyId → SameDetail w.db db other) :
    CacheCoherent (Verified.refreshed surveyId w db) :=
  coherent.refreshed fun other different => Or.inr (elsewhere other different)

/-- A change that clears in time keeps the cache coherent. -/
theorem Change.cacheCoherent {call : Call} {w' : World} (change : Change w call w') (clears : ClearsInTime w call)
    (coherent : CacheCoherent w) : CacheCoherent w' := by
  cases change with
  | quiet => exact coherent
  | cleared surveyId => exact coherent.ownChanged fun other _ => .refl w.db other
  | surveyCreated draft => exact coherent.surveyCreated _
  | surveyMoved admin request refused stored writes =>
    have uncached := clears admin
    simp only [request] at uncached
    exact coherent.surveyMoved _ (uncached _ _ stored refused writes)
  | surveySaved stored sameStatus =>
    apply coherent.ownChanged
    intro other different
    exact SameDetail.of_surveys (by rw [Table.get_save, key_survey, if_neg different])
  | surveyMovedSaved stored accepted sameKey sameStatus =>
    apply coherent.ownChanged
    intro other different
    exact SameDetail.of_surveys (by
      rw [Table.get_save, key_survey, if_neg different, Database.setStatus, Table.get_modify,
        if_neg (sameKey ▸ different)])
  | surveyDeleted admin request stored =>
    have uncached := clears admin
    simp only [request] at uncached
    obtain ⟨absent, spared⟩ := uncached _ stored
    exact coherent.surveyDeleted absent spared
  | sectionCreated draft => exact coherent.ownChanged fun other different => sameDetail_sectionInsert different.symm
  | sectionUpdated data stored draft =>
    exact coherent.ownChanged fun other different =>
      sameDetail_sectionUpdate data (Table.forall_of_get stored different.symm)
  | sectionDeleted admin request stored draft =>
    rename_i row
    have spared := clears admin
    simp only [request] at spared
    have found : getSection row.surveyId row.id w.db = some row := by
      rw [getSection, stored]
      exact Option.filter_some_pos (decide_eq_true rfl)
    exact coherent.sectionDeleted stored (spared row found draft)
  | fieldCreated stored draft =>
    exact coherent.ownChanged fun other different => sameDetail_fieldInsert (Table.forall_of_get stored different.symm)
  | fieldUpdated data stored draft =>
    obtain ⟨fieldStored, parentStored⟩ := Database.placedField_eq_some.mp stored
    exact coherent.ownChanged fun other different => sameDetail_fieldUpdate data
      (Table.forall_of_get fieldStored (Table.forall_of_get parentStored different.symm))
  | fieldDeleted admin request stored draft =>
    rename_i row
    have spared := clears admin
    simp only [request] at spared
    have found : getField row.sectionId row.id w.db = some row := by
      rw [getField, stored]
      exact Option.filter_some_pos (decide_eq_true rfl)
    exact coherent.fieldDeleted stored (spared row found rfl draft)
  | ruleUpdated data stored draft =>
    exact coherent.ownChanged fun other different => sameDetail_ruleUpdate data (Table.forall_of_get stored different.symm)
  | ruleDeleted stored draft =>
    exact coherent.ownChanged fun other different => sameDetail_ruleDelete (Table.forall_of_get stored different.symm)
  | dependencyCreated draft =>
    exact coherent.ownChanged fun other different => sameDetail_dependencyInsert different.symm
  | dependencyUpdated data stored draft =>
    exact coherent.ownChanged fun other different =>
      sameDetail_dependencyUpdate data (Table.forall_of_get stored different.symm)
  | dependencyDeleted stored draft =>
    exact coherent.ownChanged fun other different =>
      sameDetail_dependencyDelete (Table.forall_of_get stored different.symm)
  | submitted fieldResponses new isPublished =>
    exact coherent.withDb fun surveyId => Or.inr ⟨rfl, fun _ => rfl, fun _ _ _ _ => rfl, fun _ => rfl, fun _ => rfl⟩

end Writes

/-! ## Runs -/

/-- A read leaves nothing stale behind. -/
def LeavesNothingStale (w : World) : ApiCall → Prop
  | .write call => ClearsInTime w call
  | .retrieve _ _ => True

theorem serve_cacheCoherent (py : Interpreter) (w : World) (request : ApiCall) (clears : LeavesNothingStale w request)
    (coherent : CacheCoherent w) : CacheCoherent (serve py w request) := by
  cases request with
  | write call => exact (handle_change py w call).cacheCoherent clears coherent
  | retrieve user pk =>
    obtain same | ⟨survey, found, _, filled⟩ := surveyRetrieve_cases user pk w
    · rw [serve, same]
      exact coherent
    · rw [serve, filled]
      exact cacheCoherent_withEntry coherent found

/-- Along requests that leave nothing stale, the entry of every survey is absent
or the survey as it is stored, in every state. -/
theorem cache_coherent (py : Interpreter) {w : World} (start : CacheCoherent w) {requests : List ApiCall}
    (clears : Along (serve py) LeavesNothingStale w requests) :
    ∀ state ∈ trace (serve py) w requests, CacheCoherent state :=
  Along.trace_invariant (serve_cacheCoherent py) start clears

/-! ## A survey that is read and changed -/

theorem cacheCoherent_empty : CacheCoherent World.empty := by
  intro surveyId data entry
  cases entry

/-- A survey is created, read, renamed and read again. -/
def renamedRequests : List ApiCall :=
  [.write (adminCall (.createSurvey ⟨.given "Health", .missing, .missing⟩)),
    .retrieve administrator "1",
    .write (adminCall (.updateSurvey 1 true ⟨.given "Fitness", .missing, .missing⟩)),
    .retrieve administrator "1"]

theorem cache_coherent_renamed : CacheCoherent (run (serve bareInterpreter) World.empty renamedRequests) := by
  apply cache_coherent bareInterpreter cacheCoherent_empty _ _ (run_mem_trace World.empty renamedRequests)
  refine ⟨fun _ => trivial, trivial, fun _ current status _ refused _ => ?_, trivial, trivial⟩
  rcases refused with refused | refused <;> cases refused

/-- A survey is created, read and deleted. -/
def deletedRequests : List ApiCall :=
  [.write (adminCall (.createSurvey ⟨.given "Health", .missing, .missing⟩)),
    .retrieve administrator "1",
    .write (adminCall (.destroySurvey 1))]

/-- The entry outlives the survey. -/
theorem cache_not_coherent_deleted :
    ¬ ∀ state ∈ trace (serve bareInterpreter) World.empty deletedRequests, CacheCoherent state := by
  intro coherent
  have last := coherent _ (run_mem_trace World.empty deletedRequests)
  have cached : (structureEntry (run (serve bareInterpreter) World.empty deletedRequests) 1).isSome = true := by
    decide +kernel
  have gone : (run (serve bareInterpreter) World.empty deletedRequests).db.surveys.get 1 = none := by
    decide +kernel
  obtain ⟨data, entry⟩ := Option.isSome_iff_exists.mp cached
  obtain ⟨survey, _, stored, _⟩ := last 1 data entry
  rw [gone] at stored
  cases stored

end SurveyPlatform.Verified

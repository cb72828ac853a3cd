import SurveyPlatform.Library.Numerals
import SurveyPlatform.Verified.CacheCoherence

/-! # Spellings of a primary key

The lookup of a survey reads the key of the URL as an integer, and the cache key
is made of its text.  The text is the one mutations clear exactly when it is the
numeral of the survey's id (`structureKey_cleared_iff`); a survey that is read
under `01` is cached under a key that nothing clears.
-/

namespace SurveyPlatform.Verified

open SurveyPlatform.Library SurveyPlatform.Library.Program SurveyPlatform.Python SurveyPlatform.Surveys

/-- A canonical key is the numeral of the id it is read as. -/
theorem eq_toString_of_lookupKey {pk : String} {id : Nat} (canonical : CanonicalDecimal pk.toList)
    (parsed : lookupKey pk = some id) : pk = toString id := by
  obtain ⟨n, written⟩ := canonicalDecimal_iff.mp canonical
  have numeral : pk = toString n := String.toList_inj.mp (written.trans (toList_toString_nat n).symm)
  rw [numeral, lookupKey_toString, Option.some.injEq] at parsed
  rw [numeral, parsed]

/-- Where `retrieve` finds the survey under a key, it is cached under the entry
mutations clear exactly when the key is a decimal numeral without leading zeros. -/
theorem structureKey_cleared_iff {user : User} {pk : String} {db : Database} {survey : Survey}
    (found : visibleSurvey user pk db = some survey) :
    structureKey pk = structureKey (toString survey.id) ↔ CanonicalDecimal pk.toList := by
  obtain ⟨parsed, _, _⟩ := visibleSurvey_eq_some.mp found
  constructor
  · intro same
    rw [structureKey_injective same, toList_toString_nat]
    exact canonicalDecimal_toDigits survey.id
  · intro canonical
    rw [← eq_toString_of_lookupKey canonical parsed]

theorem structureKey_cleared_one : ∃ survey, visibleSurvey administrator "1" draftDatabase = some survey ∧
    (structureKey "1" = structureKey (toString survey.id) ↔ CanonicalDecimal "1".toList) :=
  ⟨_, rfl, @structureKey_cleared_iff administrator "1" draftDatabase _ rfl⟩

/-- `GET /surveys/01/` finds survey 1, and its entry stays when the survey changes. -/
theorem structureKey_not_cleared_zero : ∃ survey, visibleSurvey administrator "01" draftDatabase = some survey ∧
    survey.id = 1 ∧ structureKey "01" ≠ structureKey (toString survey.id) :=
  ⟨_, rfl, rfl, by decide⟩

end SurveyPlatform.Verified

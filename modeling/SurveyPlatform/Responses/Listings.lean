import SurveyPlatform.Responses.Details
import SurveyPlatform.Surveys.Listings

/-! # Listing the responses of a survey

`SurveyResponseListView.list`.  The column `submitted_at` is a parameter, since a
response is stored without it here.
-/

namespace SurveyPlatform.Responses

open SurveyPlatform.Library SurveyPlatform.Library.Program SurveyPlatform.Python SurveyPlatform.Surveys

/-- `SurveyResponseListSerializer` -/
structure SurveyResponseSummary where
  id : Nat
  survey : Nat
  user : Nat
  submittedAt : Nat
  deriving DecidableEq, Repr

abbrev ResponsePage := Page SurveyResponseSummary

/-- `survey.responses` -/
def responsesOf (db : Database) (surveyPk : Nat) : List SurveyResponse :=
  db.responses.rows.filter (·.surveyId = surveyPk)

/-- `SurveyResponseListView.get_queryset`, with `ordering = ["-submitted_at"]` -/
def responsesNewestFirst (submittedAt : SurveyResponse → Nat) (db : Database) (surveyPk : Nat) : List SurveyResponse :=
  (responsesOf db surveyPk).mergeSort fun a b => submittedAt b ≤ submittedAt a

def summary (submittedAt : SurveyResponse → Nat) (row : SurveyResponse) : SurveyResponseSummary :=
  ⟨row.id, row.surveyId, row.userId, submittedAt row⟩

/-- `SurveyResponseListView.list` -/
def surveyResponseList (submittedAt : SurveyResponse → Nat) (user : User) (surveyPk number : Nat) :
    Procedure ResponsePage := do
  requireViewer user
  let _ ← getOr404 fun db => db.surveys.get surveyPk
  query fun db => paginate number ((responsesNewestFirst submittedAt db surveyPk).map (summary submittedAt))

section Listings

variable {submittedAt : SurveyResponse → Nat} {user : User} {surveyPk number : Nat} {w w' : World}

/-- Who may view responses gets a page of those of a stored survey, and nothing changes. -/
theorem surveyResponseList_eq_ok {answer : ResponsePage} : surveyResponseList submittedAt user surveyPk number w = .ok answer w' ↔
    user.role ≠ .customer ∧ (w.db.surveys.get surveyPk).isSome = true ∧
      paginate number ((responsesNewestFirst submittedAt w.db surveyPk).map (summary submittedAt)) = .ok answer ∧ w' = w := by
  unfold surveyResponseList requireViewer
  rw [check_bind_eq_ok_iff, getOr404_bind_eq_ok_iff]
  simp only [query_eq_ok_iff, exists_and_right, Option.isSome_iff_exists]
  by_cases customer : user.role = .customer <;> simp [customer]

end Listings

end SurveyPlatform.Responses

import SurveyPlatform.Library.Pages
import SurveyPlatform.Surveys.Retrieval

/-! # Listing surveys

`PageNumberPagination`, and `SurveyViewSet.list` with its three filter backends: what
the query string asks for is given as it is understood.  The timestamps and
`created_by` are left out of the serialized survey.
-/

namespace SurveyPlatform.Surveys

open SurveyPlatform.Library SurveyPlatform.Library.Program SurveyPlatform.Python

/-! ## Pages -/

/-- The answer of `PageNumberPagination`; a link is the number of its page. -/
structure Page (α : Type) where
  count : Nat
  next : Option Nat
  previous : Option Nat
  results : List α
  deriving DecidableEq, Repr

/-- `PAGE_SIZE` -/
def pageSize : Nat := 20

/-- `PageNumberPagination.paginate_queryset` and `get_paginated_response` -/
def paginate {α : Type} (number : Nat) (rows : List α) : Except PyExn (Page α) :=
  if number < 1 || numPages pageSize rows.length < number then .error .http404
  else .ok {
    count := rows.length
    next := if number < numPages pageSize rows.length then some (number + 1) else none
    previous := if 1 < number then some (number - 1) else none
    results := page pageSize (number - 1) rows }

theorem paginate_eq_ok {α : Type} {number : Nat} {rows : List α} {answer : Page α} :
    paginate number rows = .ok answer ↔ (1 ≤ number ∧ number ≤ numPages pageSize rows.length) ∧
      answer = ⟨rows.length, if number < numPages pageSize rows.length then some (number + 1) else none,
        if 1 < number then some (number - 1) else none, page pageSize (number - 1) rows⟩ := by
  unfold paginate
  split
  · rename_i outside
    simp only [Bool.or_eq_true, decide_eq_true_eq] at outside
    simp only [reduceCtorEq, false_iff]
    omega
  · rename_i inside
    simp only [Bool.or_eq_true, decide_eq_true_eq] at inside
    rw [and_iff_right (by omega), Except.ok.injEq, eq_comm]

/-! ## Surveys -/

/-- The query string of the list. -/
structure ListQuery where
  status : Submitted SurveyStatus
  -- what `SearchFilter` finds in the title and the description
  search : String → String → Bool
  -- what `OrderingFilter` sorts by, or the newest first
  before : Survey → Survey → Bool
  page : Nat

/-- `SurveyViewSet.get_queryset`: customers only see published surveys. -/
def visibleSurveys (user : User) (db : Database) : List Survey :=
  db.surveys.rows.filter fun survey => user.role ≠ .customer || survey.status = .published

/-- `DjangoFilterBackend` with `filterset_fields = ["status"]` -/
def filterStatus (status : Submitted SurveyStatus) (rows : List Survey) : Except PyExn (List Survey) :=
  match status with
  | .missing => .ok rows
  | .refused message => .error (.apiValidationError [("status", message)])
  | .given status => .ok (rows.filter (·.status = status))

/-- `SurveyListSerializer` -/
def surveyListJson (survey : Survey) : Json :=
  .object [("id", .int survey.id), ("title", .str survey.title), ("description", .str survey.description),
    ("status", .str survey.status.value)]

/-- `filter_queryset` and `paginate_queryset` on the surveys of `get_queryset` -/
def listRows (asked : ListQuery) (rows : List Survey) : Except PyExn (Page Json) := do
  let rows ← filterStatus asked.status rows
  let found := rows.filter fun survey => asked.search survey.title survey.description
  paginate asked.page ((found.mergeSort asked.before).map surveyListJson)

/-- `SurveyViewSet.list` -/
def surveyList (user : User) (asked : ListQuery) : Procedure (Page Json) :=
  query fun db => listRows asked (visibleSurveys user db)

end SurveyPlatform.Surveys

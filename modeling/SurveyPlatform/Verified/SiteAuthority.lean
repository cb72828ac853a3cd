import SurveyPlatform.Verified.Integrity
import SurveyPlatform.Verified.SiteSteps

/-! # What the site allows to whom

Without an active administrator nothing can be taken over: accounts and surveys
are frozen, and all that still happens is that customers register and submit
(`frozen_without_admin`).  Every stored response goes back to a submission whose
token was that of a stored, active customer (`responses_by_customers`).
-/

namespace SurveyPlatform.Verified

open SurveyPlatform.Library SurveyPlatform.Library.Program SurveyPlatform.Library.Table SurveyPlatform.Python
open SurveyPlatform.Surveys SurveyPlatform.Responses SurveyPlatform.Accounts

/-! ## Databases that only gain submissions -/

structure OnlySubmissions (db db' : Database) : Prop where
  surveys : db'.surveys = db.surveys
  sections : db'.sections = db.sections
  fields : db'.fields = db.fields
  conditionalRules : db'.conditionalRules = db.conditionalRules
  fieldDependencies : db'.fieldDependencies = db.fieldDependencies
  responses : ∀ id row, db.responses.get id = some row → db'.responses.get id = some row
  fieldResponses : ∀ id row, db.fieldResponses.get id = some row → db'.fieldResponses.get id = some row

theorem OnlySubmissions.refl (db : Database) : OnlySubmissions db db :=
  ⟨rfl, rfl, rfl, rfl, rfl, fun _ _ => id, fun _ _ => id⟩

theorem OnlySubmissions.trans {a b c : Database} (first : OnlySubmissions a b) (second : OnlySubmissions b c) :
    OnlySubmissions a c where
  surveys := second.surveys.trans first.surveys
  sections := second.sections.trans first.sections
  fields := second.fields.trans first.fields
  conditionalRules := second.conditionalRules.trans first.conditionalRules
  fieldDependencies := second.fieldDependencies.trans first.fieldDependencies
  responses id row stored := second.responses id row (first.responses id row stored)
  fieldResponses id row stored := second.fieldResponses id row (first.fieldResponses id row stored)

section Calls

variable {py : Interpreter} {w : World} {call : Call}

theorem onlySubmissions_submitted {db : Database} {row : SurveyResponse} (prepared : List (Nat × String))
    (new : row.id = db.responses.next) :
    OnlySubmissions db (bulkCreate row.id prepared { db with responses := db.responses.save row }) := by
  rw [bulkCreate_eq]
  refine ⟨rfl, rfl, rfl, rfl, rfl, fun id old stored => ?_, fun id old stored => ?_⟩
  · show (db.responses.save row).get id = some old
    rw [get_save, key_surveyResponse, new, if_neg (Nat.ne_of_lt (lt_next stored)), stored]
  · show (db.fieldResponses.saveAll _).get id = some old
    rw [get_saveAll_of_not_mem, stored]
    intro answer member sameKey
    have above : db.fieldResponses.next ≤ answer.id := (mem_numberRows member).2.1
    have below := lt_next stored
    rw [key_fieldResponse] at sameKey
    omega

theorem Served.onlySubmissions {ends : Option PyExn × World} (served : Served py w call ends)
    (notAdmin : call.user.role ≠ .admin) : OnlySubmissions w.db ends.2.db := by
  cases served with
  | refused => exact .refl _
  | invalid => exact .refl _
  | submitted customer request isPublished new => exact onlySubmissions_submitted _ new
  | surveyCreated admin | statusWritten exn admin | surveyUpdated admin | surveyDeleted admin | sectionCreated admin
  | sectionUpdated admin | sectionDeleted admin | fieldCreated admin | fieldUpdated admin | fieldDeleted admin
  | ruleUpdated admin | ruleDeleted admin | dependencyCreated admin | dependencyUpdated admin | dependencyDeleted admin =>
    exact absurd admin notAdmin

end Calls

/-! ## Sites without an administrator -/

section Frozen

variable {emails : EmailNormalizer} {auth : Authentication} {py : Interpreter} {site site' : Site} {call : SiteCall}

def NoActiveAdmin (site : Site) : Prop :=
  ∀ id row, site.accounts.get id = some row → row.isActive = true → row.role ≠ .admin

/-- Accounts and surveys are as they were, apart from new customers and submissions. -/
structure FrozenSince (site site' : Site) : Prop where
  kept : ∀ id row, site.accounts.get id = some row → site'.accounts.get id = some row
  added : ∀ id row, site'.accounts.get id = some row → site.accounts.get id = some row ∨
    row.role = .customer ∧ row.isActive = true ∧ row.isStaff = false ∧ row.isSuperuser = false
  world : OnlySubmissions site.world.db site'.world.db

theorem FrozenSince.refl (site : Site) : FrozenSince site site :=
  ⟨fun _ _ => id, fun _ _ stored => Or.inl stored, .refl _⟩

theorem FrozenSince.trans {a b c : Site} (first : FrozenSince a b) (second : FrozenSince b c) : FrozenSince a c where
  kept id row stored := second.kept id row (first.kept id row stored)
  added id row stored := (second.added id row stored).elim (first.added id row) Or.inr
  world := first.world.trans second.world

theorem not_activeAdmin (nobody : NoActiveAdmin site) (token : Option String) : ¬ ActiveAdmin auth site token := by
  intro holds
  obtain ⟨account, _, stored, isActive, admin⟩ := holds
  exact nobody account.id account stored isActive admin

theorem handle_onlySubmissions {account : Account} {token : Option String} (nobody : NoActiveAdmin site)
    (requester : auth.account site token = some account) (order : SetOrder) (encryptValue : Encryption) (request : Request) :
    OnlySubmissions site.world.db (handle py site.world ⟨account.user, order, encryptValue, request⟩).db := by
  obtain ⟨_, served⟩ := handle_served py site.world ⟨account.user, order, encryptValue, request⟩
  apply served.onlySubmissions
  exact fun admin => not_activeAdmin nobody token (activeAdmin_of_requester requester admin)

theorem SiteStep.frozen (step : SiteStep emails auth py site call site') (nobody : NoActiveAdmin site)
    (notOperator : call.byOperator = false) : FrozenSince site site' := by
  have kept : ∀ id row, site.accounts.get id = some row → site'.accounts.get id = some row := by
    intro id row stored
    by_contra differs
    obtain ⟨token, _, _, _, admin⟩ := step.changed stored differs
    exact not_activeAdmin nobody token admin
  have added : ∀ id row, site'.accounts.get id = some row → site.accounts.get id = some row ∨
      row.role = .customer ∧ row.isActive = true ∧ row.isStaff = false ∧ row.isSuperuser = false := by
    intro id row stored
    cases before : site.accounts.get id with
    | some old => exact Or.inl ((kept id old before).symm.trans stored)
    | none =>
      right
      obtain ⟨origin, isActive, _⟩ := step.added before stored
      cases origin with
      | registered plain granted =>
        exact ⟨granted.resolve_right (not_activeAdmin nobody _), isActive, plain⟩
      | operator => cases notOperator
  refine ⟨kept, added, ?_⟩
  cases step with
  | surveyed requester => exact handle_onlySubmissions nobody requester _ _ _
  | retrieved requester =>
    rename_i pk account
    show OnlySubmissions site.world.db (serve py site.world (.retrieve account.user pk)).db
    rw [serve_retrieve_db]
    exact .refl _
  | refused | registered | updated | superuserCreated => exact .refl _

end Frozen

/-! ## Where responses come from -/

section Responses

variable {emails : EmailNormalizer} {auth : Authentication} {py : Interpreter} {site : Site} {row : SurveyResponse}

variable (auth site row) in
/-- The call submits this response: its token is that of the stored, active customer
whose response it is, and the survey is published. -/
def SubmittedBy (call : SiteCall) : Prop :=
  ∃ token order encryptValue answers account, call = .survey token order encryptValue (.submit row.surveyId answers) ∧
    auth.account site token = some account ∧ site.accounts.get row.userId = some account ∧ account.isActive = true ∧
    account.role = .customer ∧ Published row.surveyId site.world.db

theorem submittedBy_of_new {call : SiteCall} (missing : site.world.db.responses.get row.id ≠ some row)
    (stored : (siteServe emails auth py site call).world.db.responses.get row.id = some row) :
    SubmittedBy auth site row call := by
  have step := siteServe_step emails auth py site call
  generalize siteServe emails auth py site call = site' at step stored
  cases step with
  | surveyed requester =>
    rename_i token order encryptValue request account
    obtain ⟨_, served⟩ := handle_served py site.world ⟨account.user, order, encryptValue, request⟩
    obtain old | ⟨answers, _, _, submits, _⟩ := served.response_cases stored
    · exact absurd old missing
    · have known := requester_stored requester
      have submitter : row.userId = account.id := submits.submitter
      have isSubmit : request = .submit row.surveyId answers := submits.request
      subst isSubmit
      exact ⟨token, order, encryptValue, answers, account, rfl, requester, submitter ▸ known.1, known.2, submits.customer,
        submits.isPublished⟩
  | retrieved requester =>
    rename_i pk account
    replace stored : (serve py site.world (.retrieve account.user pk)).db.responses.get row.id = some row := stored
    rw [serve_retrieve_db] at stored
    exact absurd stored missing
  | refused | registered | updated | superuserCreated => exact absurd stored missing

/-- Every response in the database was submitted, in the state of its submission, with
the token of a stored and active customer, who is its user, and has stayed since. -/
theorem responses_by_customers (emails : EmailNormalizer) (auth : Authentication) (py : Interpreter) (calls : List SiteCall)
    (stored : (run (siteServe emails auth py) site calls).world.db.responses.get row.id = some row)
    (missing : site.world.db.responses.get row.id ≠ some row) :
    ∃ earlier call later, calls = earlier ++ call :: later ∧
      SubmittedBy auth (run (siteServe emails auth py) site earlier) row call ∧
      ∀ state ∈ trace (siteServe emails auth py) (run (siteServe emails auth py) site (earlier ++ [call])) later,
        state.world.db.responses.get row.id = some row := by
  obtain ⟨earlier, call, later, rfl, before, since⟩ := @exists_cause _ _ (siteServe emails auth py)
    (fun state => state.world.db.responses.get row.id = some row) site calls ⟨site, mem_trace_head _ _, missing⟩ stored
  have after := since _ (mem_trace_head _ _)
  rw [run_append] at after
  exact ⟨earlier, call, later, rfl, submittedBy_of_new before after, since⟩

/-- The administrator builds a survey, and a customer registers and answers it. -/
def answeredCalls : List SiteCall :=
  buildAndPublish.map (fun call => .survey (some "root@example.com") call.order call.encryptValue call.request) ++
    [signUp "ann@example.com", .survey (some "ann@example.com") customerCall.order customerCall.encryptValue customerCall.request]

theorem responses_by_customers_answered : ∃ earlier call later, answeredCalls = earlier ++ call :: later ∧
    SubmittedBy emailTokens (run (siteServe lowerCaseEmails emailTokens bareInterpreter) rootSite earlier) ⟨1, 1, 2⟩ call := by
  obtain ⟨earlier, call, later, split_, submitted, _⟩ := @responses_by_customers rootSite ⟨1, 1, 2⟩ lowerCaseEmails
    emailTokens bareInterpreter answeredCalls (by decide +kernel) (by decide +kernel)
  exact ⟨earlier, call, later, split_, submitted⟩

end Responses

end SurveyPlatform.Verified

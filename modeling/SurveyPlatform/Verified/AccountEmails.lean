import SurveyPlatform.Library.References
import SurveyPlatform.Verified.SiteSteps

/-! # The emails of accounts

No two accounts of a reachable site have the same email.  The manager normalizes
the emails of new accounts, but the update of an account stores what it is given:
all emails are normal exactly as long as every accepted update gives a normal one
(`emails_normal_iff`).
-/

namespace SurveyPlatform.Verified

open SurveyPlatform.Library SurveyPlatform.Library.Program SurveyPlatform.Library.Table SurveyPlatform.Python
open SurveyPlatform.Surveys SurveyPlatform.Responses SurveyPlatform.Accounts

variable {emails : EmailNormalizer} {auth : Authentication} {py : Interpreter} {site site' : Site} {call : SiteCall}

/-! ## Distinct emails -/

theorem distinctIn_saved {accounts : Table Account} {row : Account} (distinct : DistinctIn accounts Account.email)
    (checked : accountConstraints accounts row = .ok ()) : DistinctIn (accounts.save row) Account.email :=
  distinct.save fun other stored sameEmail => by
    by_contra differs
    exact (accountConstraints_eq_ok.mp checked).2 other stored differs sameEmail

theorem SiteStep.distinct (step : SiteStep emails auth py site call site') (distinct : DistinctIn site.accounts Account.email) :
    DistinctIn site'.accounts Account.email := by
  cases step with
  | registered requester valid created => exact distinctIn_saved distinct (createUser_eq_ok.mp created).2.2.1
  | superuserCreated created => exact distinctIn_saved distinct (createUser_eq_ok.mp created).2.2.1
  | updated requester admin found valid checked => exact distinctIn_saved distinct checked
  | refused | surveyed | retrieved => exact distinct

/-! ## Normal emails -/

def EmailsNormal (emails : EmailNormalizer) (site : Site) : Prop :=
  ∀ row ∈ site.accounts.rows, emails.normalizeEmail row.email = row.email

/-- An accepted update that gives an email gives a normal one. -/
def GivesNormalEmail (emails : EmailNormalizer) (auth : Authentication) (site : Site) (call : SiteCall) : Prop :=
  ∀ token pk isPartial body email account row accounts, call = .updateUser token pk isPartial body →
    body.email = .given email → auth.account site token = some account →
      userUpdate account pk isPartial body site.accounts = .ok row accounts → emails.normalizeEmail email = email

/-- A conversion that accepts without changing what it is given. -/
theorem value?_convert {α : Type} {f : α → Except String α} (returns : ∀ value value', f value = .ok value' → value' = value)
    {submitted : Submitted α} {required : Bool} (noError : (submitted.convert f).error? required = none) :
    (submitted.convert f).value? = submitted.value? := by
  cases submitted with
  | missing => rfl
  | refused message => rfl
  | given value =>
    rw [Submitted.convert] at noError ⊢
    cases result : f value with
    | error message =>
      rw [result] at noError
      cases noError
    | ok value' => exact congrArg some (returns value value' result)

theorem uniqueEmail_returns {accounts : Table Account} {current : Option Nat} {email email' : String}
    (accepted : uniqueEmail accounts current email = .ok email') : email' = email := by
  unfold uniqueEmail at accepted
  split at accepted
  · cases accepted
  · exact (Except.ok.inj accepted).symm

/-- The email an update writes is the one it is given, as it is. -/
theorem validateUserUpdate_email {accounts : Table Account} {current : Account} {isPartial : Bool} {body : UserUpdateBody}
    {data : UserUpdateData} (valid : validateUserUpdate accounts current isPartial body = .ok data) :
    data.email = body.email.value? := by
  simp only [validateUserUpdate, bind_eq_ok, pure_eq_ok] at valid
  obtain ⟨_, noErrors, rfl⟩ := valid
  have noError := raiseErrors_eq_ok.mp noErrors _ List.mem_cons_self
  exact value?_convert (fun _ _ => uniqueEmail_returns) noError

theorem given_of_value? {α : Type} {submitted : Submitted α} {value : α} (found : submitted.value? = some value) :
    submitted = .given value := by
  cases submitted with
  | missing => cases found
  | refused message => cases found
  | given other => exact congrArg Submitted.given (Option.some.inj found)

/-- What is saved over normal emails leaves normal ones exactly when its own is normal. -/
theorem emailsNormal_saved {row : Account} (normal : EmailsNormal emails site) :
    EmailsNormal emails { site with accounts := site.accounts.save row } ↔ emails.normalizeEmail row.email = row.email := by
  constructor
  · exact fun after => after row (mem_rows_save.mpr (Or.inl rfl))
  · intro rowNormal other member
    cases mem_rows_save.mp member with
    | inl isRow => rwa [isRow]
    | inr kept => exact normal other kept.2

theorem emailsNormal_created {makePassword : MakePassword} {email : String} {password : Option String} {extra : ExtraFields}
    {row : Account} {accounts : Table Account} (normal : EmailsNormal emails site)
    (created : createUser emails makePassword email password extra site.accounts = .ok row accounts) :
    EmailsNormal emails { site with accounts := site.accounts.save row } := by
  obtain ⟨_, rfl, _, _⟩ := createUser_eq_ok.mp created
  exact (emailsNormal_saved normal).mpr (emails.normalize_normalize _)

/-- An accepted update, as the site performs it. -/
theorem siteServe_updateUser {token : Option String} {pk : Nat} {isPartial : Bool} {body : UserUpdateBody}
    {account row : Account} {accounts : Table Account} (requester : auth.account site token = some account)
    (accepted : userUpdate account pk isPartial body site.accounts = .ok row accounts) :
    siteServe emails auth py site (.updateUser token pk isPartial body) = { site with accounts } := by
  simp only [siteServe, requester, final_of_ok accepted]

theorem siteServe_emailsNormal_iff (normal : EmailsNormal emails site) :
    EmailsNormal emails (siteServe emails auth py site call) ↔ GivesNormalEmail emails auth site call := by
  constructor
  · intro after token pk isPartial body email account row accounts isUpdate given requester accepted
    subst isUpdate
    obtain ⟨_, current, data, _, valid, rfl, _, rfl⟩ := userUpdate_eq_ok.mp accepted
    rw [siteServe_updateUser requester accepted, emailsNormal_saved normal] at after
    have written : (data.assign current).email = email := by
      show data.email.getD current.email = email
      rw [validateUserUpdate_email valid, given]
      rfl
    rwa [written] at after
  · intro gives
    have step := siteServe_step emails auth py site call
    generalize siteServe emails auth py site call = site' at step
    cases step with
    | registered requester valid created => exact emailsNormal_created normal created
    | superuserCreated created => exact emailsNormal_created normal created
    | updated requester admin found valid checked =>
      rename_i token pk isPartial body account current data
      have accepted : userUpdate account pk isPartial body site.accounts =
          .ok (data.assign current) (site.accounts.save (data.assign current)) :=
        userUpdate_eq_ok.mpr ⟨admin, current, data, found, valid, rfl, checked, rfl⟩
      rw [emailsNormal_saved normal]
      show emails.normalizeEmail (data.email.getD current.email) = data.email.getD current.email
      rw [validateUserUpdate_email valid]
      cases given : body.email.value? with
      | none =>
        have sameKey : current.id = pk := site.accounts.keyed pk current found
        exact normal current (mem_rows.mpr (by rwa [key_account, sameKey]))
      | some email => exact gives _ _ _ _ email _ _ _ rfl (given_of_value? given) requester accepted
    | refused | surveyed | retrieved => exact normal

/-- Emails that are normal differ in more than what normalization drops. -/
theorem distinctIn_normalized (normal : EmailsNormal emails site) (distinct : DistinctIn site.accounts Account.email) :
    DistinctIn site.accounts fun row => emails.normalizeEmail row.email := by
  intro row stored other stored' same
  have sameEmail : row.email = other.email := (normal row stored).symm.trans (same.trans (normal other stored'))
  exact distinct row stored other stored' sameEmail

/-- In every run the emails of the stored accounts are distinct.  They are all normal
in every state exactly when each accepted update that gives one gives a normal one,
and then no two of them have the same normal form. -/
theorem emails_normal_iff (emails : EmailNormalizer) (auth : Authentication) (py : Interpreter) (calls : List SiteCall) :
    (∀ state ∈ trace (siteServe emails auth py) Site.empty calls, DistinctIn state.accounts Account.email) ∧
      ((∀ state ∈ trace (siteServe emails auth py) Site.empty calls, EmailsNormal emails state) ↔
        Along (siteServe emails auth py) (GivesNormalEmail emails auth) Site.empty calls) ∧
      (Along (siteServe emails auth py) (GivesNormalEmail emails auth) Site.empty calls →
        ∀ state ∈ trace (siteServe emails auth py) Site.empty calls,
          DistinctIn state.accounts fun row => emails.normalizeEmail row.email) := by
  have nothing : ∀ row : Account, row ∉ Site.empty.accounts.rows := fun row member => by cases mem_rows.mp member
  have distinct : ∀ state ∈ trace (siteServe emails auth py) Site.empty calls, DistinctIn state.accounts Account.email := by
    have kept : ∀ (state : Site) (call : SiteCall), DistinctIn state.accounts Account.email →
        DistinctIn (siteServe emails auth py state call).accounts Account.email :=
      fun state call => (siteServe_step emails auth py state call).distinct
    exact trace_invariant kept (fun row member => absurd member (nothing row)) calls
  have agree : ∀ (state : Site) (call : SiteCall), True → EmailsNormal emails state →
      (EmailsNormal emails (siteServe emails auth py state call) ↔ GivesNormalEmail emails auth state call) :=
    fun _ _ _ => siteServe_emailsNormal_iff
  have normal_iff := forall_trace_iff agree (fun row member => absurd member (nothing row))
    (along_of_forall (fun _ _ => trivial) Site.empty calls)
  refine ⟨distinct, normal_iff, fun gives state member => ?_⟩
  exact distinctIn_normalized (normal_iff.mpr gives state member) (distinct state member)

end SurveyPlatform.Verified

import SurveyPlatform.Accounts.Views
import SurveyPlatform.Library.Histories

/-! # What a call of the site does

`SiteStep` lists what a call can do to accounts and world, with all that was
checked for it (`siteServe_step`).  What the results on accounts need of a step is
read off its cases: accounts stay, and a row that changes was changed by an
administrator (`SiteStep.kept`, `SiteStep.changed`, `SiteStep.added`).
-/

namespace SurveyPlatform.Verified

open SurveyPlatform.Library SurveyPlatform.Library.Program SurveyPlatform.Library.Table SurveyPlatform.Python
open SurveyPlatform.Surveys SurveyPlatform.Responses SurveyPlatform.Accounts

variable {emails : EmailNormalizer} {auth : Authentication} {py : Interpreter} {site site' : Site} {call : SiteCall}

/-! ## Steps -/

variable (emails auth py site) in
/-- What a call does, and what was checked before. -/
inductive SiteStep : SiteCall → Site → Prop where
  | refused (call : SiteCall) : SiteStep call site
  | registered {token : Option String} {makePassword : MakePassword} {body : RegistrationBody} {user : Option Account}
      {data : RegistrationData} {row : Account} (requester : ∀ account, user = some account → auth.account site token = some account)
      (valid : validateRegistration user site.accounts body = .ok data)
      (created : createUser emails makePassword (data.email.getD "") data.password data.extra site.accounts =
        .ok row (site.accounts.save row)) :
      SiteStep (.register token makePassword body) { site with accounts := site.accounts.save row }
  | updated {token : Option String} {pk : Nat} {isPartial : Bool} {body : UserUpdateBody} {account current : Account}
      {data : UserUpdateData} (requester : auth.account site token = some account) (admin : account.role = .admin)
      (found : site.accounts.get pk = some current)
      (valid : validateUserUpdate site.accounts current isPartial body = .ok data)
      (checked : accountConstraints site.accounts (data.assign current) = .ok ()) :
      SiteStep (.updateUser token pk isPartial body) { site with accounts := site.accounts.save (data.assign current) }
  | surveyed {token : Option String} {order : SetOrder} {encryptValue : Encryption} {request : Request} {account : Account}
      (requester : auth.account site token = some account) : SiteStep (.survey token order encryptValue request)
        { site with world := handle py site.world ⟨account.user, order, encryptValue, request⟩ }
  | retrieved {token : Option String} {pk : String} {account : Account}
      (requester : auth.account site token = some account) : SiteStep (.retrieve token pk)
        { site with world := serve py site.world (.retrieve account.user pk) }
  | superuserCreated {makePassword : MakePassword} {email : String} {password : Option String} {row : Account}
      (created : createSuperuser emails makePassword email password .none site.accounts =
        .ok row (site.accounts.save row)) :
      SiteStep (.createSuperuser makePassword email password) { site with accounts := site.accounts.save row }

theorem register_step {token : Option String} {makePassword : MakePassword} {body : RegistrationBody} {user : Option Account}
    (requester : ∀ account, user = some account → auth.account site token = some account) :
    SiteStep emails auth py site (.register token makePassword body)
      { site with accounts := final (register emails makePassword user body) site.accounts } := by
  obtain same | ⟨row, accepted⟩ := (raisesClean_register emails makePassword user body).final_cases site.accounts
  · rw [same]
    exact .refused _
  · obtain ⟨data, valid, created⟩ := register_eq_ok.mp accepted
    have saved := (createUser_eq_ok.mp created).2.2.2
    rw [saved] at created ⊢
    exact .registered requester valid created

theorem siteServe_step (emails : EmailNormalizer) (auth : Authentication) (py : Interpreter) (site : Site) (call : SiteCall) :
    SiteStep emails auth py site call (siteServe emails auth py site call) := by
  cases call with
  | register token makePassword body =>
    cases token with
    | none => exact register_step fun _ none_ => by cases none_
    | some token =>
      cases known : auth.authenticate site.accounts token with
      | none =>
        simp only [siteServe, known]
        exact .refused _
      | some account =>
        simp only [siteServe, known]
        exact register_step fun other same => by rw [← same]; exact known
  | updateUser token pk isPartial body =>
    cases known : auth.account site token with
    | none =>
      simp only [siteServe, known]
      exact .refused _
    | some account =>
      simp only [siteServe, known]
      obtain same | ⟨row, accepted⟩ := (raisesClean_userUpdate account pk isPartial body).final_cases site.accounts
      · rw [same]
        exact .refused _
      · obtain ⟨admin, current, data, found, valid, rfl, checked, saved⟩ := userUpdate_eq_ok.mp accepted
        rw [saved]
        exact .updated known admin found valid checked
  | survey token order encryptValue request =>
    cases known : auth.account site token with
    | none =>
      simp only [siteServe, known]
      exact .refused _
    | some account =>
      simp only [siteServe, known]
      exact .surveyed known
  | retrieve token pk =>
    cases known : auth.account site token with
    | none =>
      simp only [siteServe, known]
      exact .refused _
    | some account =>
      simp only [siteServe, known]
      exact .retrieved known
  | createSuperuser makePassword email password =>
    obtain same | ⟨row, created⟩ := (raisesClean_createUser email password _).final_cases site.accounts
    · have unchanged : siteServe emails auth py site (.createSuperuser makePassword email password) = site := by
        show ({ site with accounts := _ } : Site) = site
        exact congrArg (fun accounts => ({ site with accounts } : Site)) same
      rw [unchanged]
      exact .refused _
    · have saved := (createUser_eq_ok.mp created).2.2.2
      have served : siteServe emails auth py site (.createSuperuser makePassword email password) =
          { site with accounts := site.accounts.save row } :=
        congrArg (fun accounts => ({ site with accounts } : Site)) saved
      rw [served]
      rw [saved] at created
      exact .superuserCreated created

/-! ## What a step leaves of the accounts -/

/-- No view writes these columns of a stored account. -/
structure SameCredentials (row row' : Account) : Prop where
  id : row'.id = row.id
  password : row'.password = row.password
  isStaff : row'.isStaff = row.isStaff
  isSuperuser : row'.isSuperuser = row.isSuperuser

theorem SameCredentials.refl (row : Account) : SameCredentials row row := ⟨rfl, rfl, rfl, rfl⟩

theorem SameCredentials.trans {a b c : Account} (first : SameCredentials a b) (second : SameCredentials b c) :
    SameCredentials a c :=
  ⟨second.id.trans first.id, second.password.trans first.password, second.isStaff.trans first.isStaff,
    second.isSuperuser.trans first.isSuperuser⟩

theorem sameCredentials_assign (data : UserUpdateData) (row : Account) : SameCredentials row (data.assign row) :=
  ⟨rfl, rfl, rfl, rfl⟩

variable {id : Nat} {row row' : Account}

/-- A new account is stored beside the others. -/
theorem get_saved_new {makePassword : MakePassword} {email : String} {password : Option String} {extra : ExtraFields}
    {accounts accounts' : Table Account} (created : createUser emails makePassword email password extra accounts = .ok row accounts') :
    (accounts.save row).get id = if id = accounts.next then some row else accounts.get id := by
  obtain ⟨_, rfl, _, _⟩ := createUser_eq_ok.mp created
  rw [get_save]
  rfl

theorem get_saved_old {makePassword : MakePassword} {email : String} {password : Option String} {extra : ExtraFields}
    {accounts accounts' : Table Account} (created : createUser emails makePassword email password extra accounts = .ok row accounts')
    {old : Account} (found : accounts.get id = some old) : (accounts.save row).get id = some old := by
  rw [get_saved_new created, if_neg (Nat.ne_of_lt (lt_next found)), found]

theorem SiteStep.kept (step : SiteStep emails auth py site call site') (found : site.accounts.get id = some row) :
    ∃ row', site'.accounts.get id = some row' ∧ SameCredentials row row' := by
  cases step with
  | registered requester valid created => exact ⟨row, get_saved_old created found, .refl row⟩
  | superuserCreated created => exact ⟨row, get_saved_old created found, .refl row⟩
  | updated requester admin found' valid checked =>
    rename_i pk _ _ _ current data
    show ∃ row', (site.accounts.save (data.assign current)).get id = some row' ∧ _
    rw [get_save]
    split
    · rename_i same
      have sameKey : id = pk := same.trans (site.accounts.keyed pk current found')
      rw [sameKey, found', Option.some.injEq] at found
      exact ⟨_, rfl, found ▸ sameCredentials_assign data current⟩
    · exact ⟨row, found, .refl row⟩
  | refused | surveyed | retrieved => exact ⟨row, found, .refl row⟩

/-- The token is that of a stored, active administrator. -/
def ActiveAdmin (auth : Authentication) (site : Site) (token : Option String) : Prop :=
  ∃ account, auth.account site token = some account ∧ site.accounts.get account.id = some account ∧
    account.isActive = true ∧ account.role = .admin

theorem requester_stored {token : Option String} {account : Account} (requester : auth.account site token = some account) :
    site.accounts.get account.id = some account ∧ account.isActive = true := by
  obtain ⟨token, _, known⟩ := Option.bind_eq_some_iff.mp requester
  exact ⟨auth.stored _ _ _ known, auth.active _ _ _ known⟩

theorem activeAdmin_of_requester {token : Option String} {account : Account}
    (requester : auth.account site token = some account) (admin : account.role = .admin) : ActiveAdmin auth site token :=
  ⟨account, requester, (requester_stored requester).1, (requester_stored requester).2, admin⟩

/-- A stored row changes only where an active administrator updates it. -/
theorem SiteStep.changed (step : SiteStep emails auth py site call site') (found : site.accounts.get id = some row)
    (differs : site'.accounts.get id ≠ some row) :
    ∃ token isPartial body, call = .updateUser token id isPartial body ∧ ActiveAdmin auth site token := by
  cases step with
  | registered requester valid created => exact absurd (get_saved_old created found) differs
  | superuserCreated created => exact absurd (get_saved_old created found) differs
  | updated requester admin found' valid checked =>
    rename_i token pk isPartial body account current data
    by_cases same : id = pk
    · subst same
      exact ⟨token, isPartial, body, rfl, activeAdmin_of_requester requester admin⟩
    · refine absurd ?_ differs
      show (site.accounts.save (data.assign current)).get id = _
      rw [get_save, if_neg, found]
      intro sameKey
      exact same (sameKey.trans (site.accounts.keyed pk current found'))
  | refused | surveyed | retrieved => exact absurd found differs

/-- Where a new account comes from: anyone may register a customer, an administrator
any account without flags, the server's operator a superuser. -/
inductive Origin (emails : EmailNormalizer) (auth : Authentication) (site : Site) : SiteCall → Account → Prop where
  | registered {token : Option String} {makePassword : MakePassword} {body : RegistrationBody} {row : Account}
      (plain : row.isStaff = false ∧ row.isSuperuser = false)
      (granted : row.role = .customer ∨ ActiveAdmin auth site token) : Origin emails auth site (.register token makePassword body) row
  | operator {makePassword : MakePassword} {email : String} {password : Option String} {row : Account} :
      Origin emails auth site (.createSuperuser makePassword email password) row

theorem SiteStep.added (step : SiteStep emails auth py site call site') (missing : site.accounts.get id = none)
    (found : site'.accounts.get id = some row) :
    Origin emails auth site call row ∧ row.isActive = true ∧ emails.normalizeEmail row.email = row.email := by
  cases step with
  | registered requester valid created =>
    rename_i user data new
    replace found : (site.accounts.save new).get id = some row := found
    rw [get_saved_new created] at found
    split at found
    · cases found
      obtain ⟨_, rfl, _, _⟩ := createUser_eq_ok.mp created
      obtain ⟨noStaff, noSuperuser, customer | ⟨account, known, admin⟩⟩ := validateRegistration_extra valid
      · exact ⟨.registered ⟨congrArg (·.getD false) noStaff, congrArg (·.getD false) noSuperuser⟩ (Or.inl customer), rfl,
          emails.normalize_normalize _⟩
      · exact ⟨.registered ⟨congrArg (·.getD false) noStaff, congrArg (·.getD false) noSuperuser⟩
          (Or.inr (activeAdmin_of_requester (requester account known) admin)), rfl, emails.normalize_normalize _⟩
    · rw [missing] at found
      cases found
  | superuserCreated created =>
    rename_i new
    replace found : (site.accounts.save new).get id = some row := found
    rw [get_saved_new created] at found
    split at found
    · cases found
      obtain ⟨_, rfl, _, _⟩ := createUser_eq_ok.mp created
      exact ⟨.operator, rfl, emails.normalize_normalize _⟩
    · rw [missing] at found
      cases found
  | updated requester admin found' valid checked =>
    rename_i pk _ _ _ current data
    replace found : (site.accounts.save (data.assign current)).get id = some row := found
    rw [get_save] at found
    split at found
    · rename_i same
      have sameKey : id = pk := same.trans (site.accounts.keyed pk current found')
      rw [sameKey, found'] at missing
      cases missing
    · rw [missing] at found
      cases found
  | refused | surveyed | retrieved =>
    rw [missing] at found
    cases found

end SurveyPlatform.Verified

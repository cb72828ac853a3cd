import SurveyPlatform.Accounts.Models
import SurveyPlatform.Api

/-! # Account views

The serializers and the writing views of `apps/accounts`, and the whole site: a
request names nobody or brings a token, the token is turned into an account, and
the view of that account runs.

What `JWTAuthentication` does with a token is not in this repository.  It is a
parameter that is known to return stored and active accounts only.
-/

namespace SurveyPlatform.Accounts

open SurveyPlatform.Library SurveyPlatform.Library.Program SurveyPlatform.Python SurveyPlatform.Surveys
open SurveyPlatform.Responses

/-! ## Serializers -/

/-- `UniqueValidator`; the instance that is updated does not count. -/
def uniqueEmail (accounts : Table Account) (current : Option Nat) (email : String) : Except String String :=
  if accounts.rows.any fun other => some other.id != current && other.email == email then
    .error "user with this email already exists."
  else .ok email

structure RegistrationBody where
  email : Submitted String
  password : Submitted String
  firstName : Submitted String
  lastName : Submitted String
  role : Submitted Role

/-- `UserRegistrationSerializer.validate_role` -/
def validateRole (user : Option Account) (value : Role) : Except String Role :=
  if value ≠ .customer ∧ user.map Account.role ≠ some .admin then .error "Only admins can create non-customer users."
  else .ok value

/-- `min_length=8` -/
def validatePassword (value : String) : Except String String :=
  if value.length < 8 then .error "Ensure this field has at least 8 characters." else .ok value

/-- `validated_data` of a registration. -/
structure RegistrationData where
  email : Option String
  password : Option String
  extra : ExtraFields

/-- `UserRegistrationSerializer.is_valid(raise_exception=True)` -/
def validateRegistration (user : Option Account) (accounts : Table Account) (body : RegistrationBody) :
    Except PyExn RegistrationData := do
  let email := body.email.convert (uniqueEmail accounts none)
  let password := body.password.convert validatePassword
  let role := body.role.convert (validateRole user)
  raiseErrors [("email", email.error? true), ("password", password.error? true),
    ("first_name", body.firstName.error? false), ("last_name", body.lastName.error? false), ("role", role.error? false)]
  return ⟨email.value?, password.value?, ⟨body.firstName.value?, body.lastName.value?, role.value?, none, none⟩⟩

structure UserUpdateBody where
  email : Submitted String
  firstName : Submitted String
  lastName : Submitted String
  role : Submitted Role
  isActive : Submitted Bool

/-- `validated_data` of an update. -/
structure UserUpdateData where
  email : Option String
  firstName : Option String
  lastName : Option String
  role : Option Role
  isActive : Option Bool

/-- `UserUpdateSerializer.is_valid(raise_exception=True)` -/
def validateUserUpdate (accounts : Table Account) (current : Account) (isPartial : Bool) (body : UserUpdateBody) :
    Except PyExn UserUpdateData := do
  let email := body.email.convert (uniqueEmail accounts (some current.id))
  raiseErrors [("email", email.error? !isPartial), ("first_name", body.firstName.error? false),
    ("last_name", body.lastName.error? false), ("role", body.role.error? false), ("is_active", body.isActive.error? false)]
  return ⟨email.value?, body.firstName.value?, body.lastName.value?, body.role.value?, body.isActive.value?⟩

/-- `setattr(instance, attr, value)` for the validated keys. -/
def UserUpdateData.assign (data : UserUpdateData) (row : Account) : Account :=
  { row with
    email := data.email.getD row.email
    firstName := data.firstName.getD row.firstName
    lastName := data.lastName.getD row.lastName
    role := data.role.getD row.role
    isActive := data.isActive.getD row.isActive }

/-! ## Views -/

/-- `RegisterView.create`, with `UserRegistrationSerializer.create`. -/
def register (emails : EmailNormalizer) (makePassword : MakePassword) (user : Option Account) (body : RegistrationBody) :
    AccountProcedure Account := do
  let data ← reading fun accounts => validateRegistration user accounts body
  -- the validated data always has an email
  createUser emails makePassword (data.email.getD "") data.password data.extra

/-- `UserDetailView.update` -/
def userUpdate (user : Account) (pk : Nat) (isPartial : Bool) (body : UserUpdateBody) : AccountProcedure Account := do
  -- `IsAdmin`
  reading fun _ => if user.role = .admin then .ok () else .error .permissionDenied
  let current ← reading fun accounts =>
    match accounts.get pk with
    | some row => .ok row
    | none => .error .http404
  let data ← reading fun accounts => validateUserUpdate accounts current isPartial body
  saveAccount (data.assign current)
  return data.assign current

theorem raisesClean_register (emails : EmailNormalizer) (makePassword : MakePassword) (user : Option Account)
    (body : RegistrationBody) : RaisesClean (register emails makePassword user body) :=
  raisesClean_reading_bind fun _ => raisesClean_createUser _ _ _

theorem raisesClean_userUpdate (user : Account) (pk : Nat) (isPartial : Bool) (body : UserUpdateBody) :
    RaisesClean (userUpdate user pk isPartial body) := by
  refine raisesClean_reading_bind fun _ => raisesClean_reading_bind fun _ => raisesClean_reading_bind fun _ => ?_
  exact (raisesClean_reading_bind fun _ => raisesClean_writing _).bind_pure _

/-! ### What was accepted -/

section Accepted

variable {emails : EmailNormalizer} {makePassword : MakePassword} {accounts accounts' : Table Account}

theorem register_eq_ok {user : Option Account} {body : RegistrationBody} {row : Account} :
    register emails makePassword user body accounts = .ok row accounts' ↔ ∃ data,
      validateRegistration user accounts body = .ok data ∧
        createUser emails makePassword (data.email.getD "") data.password data.extra accounts = .ok row accounts' := by
  rw [register, reading_bind_eq_ok_iff]

theorem userUpdate_eq_ok {user : Account} {pk : Nat} {isPartial : Bool} {body : UserUpdateBody} {row : Account} :
    userUpdate user pk isPartial body accounts = .ok row accounts' ↔ user.role = .admin ∧ ∃ current data,
      accounts.get pk = some current ∧ validateUserUpdate accounts current isPartial body = .ok data ∧
        row = data.assign current ∧ accountConstraints accounts row = .ok () ∧ accounts' = accounts.save row := by
  simp only [userUpdate, reading_bind_eq_ok_iff]
  simp only [bind_eq_ok_iff, saveAccount_eq_ok, pure_eq_ok_iff]
  constructor
  · intro holds
    obtain ⟨_, isAdmin, current, found, data, valid, _, _, ⟨checked, rfl⟩, rfl, rfl⟩ := holds
    have admin : user.role = .admin := by
      by_contra other
      rw [if_neg other] at isAdmin
      cases isAdmin
    refine ⟨admin, current, data, ?_, valid, rfl, checked, rfl⟩
    cases stored : accounts.get pk with
    | none => rw [stored] at found; cases found
    | some row => rw [stored] at found; cases found; rfl
  · intro holds
    obtain ⟨admin, current, data, found, valid, rfl, checked, rfl⟩ := holds
    exact ⟨(), if_pos admin, current, by rw [found], data, valid, (), _, ⟨checked, rfl⟩, rfl, rfl⟩

/-- Only administrators hand out a role. -/
theorem validateRole_eq_ok {user : Option Account} {value role : Role} (accepted : validateRole user value = .ok role) :
    role = value ∧ (value = .customer ∨ ∃ account, user = some account ∧ account.role = .admin) := by
  unfold validateRole at accepted
  split at accepted
  · cases accepted
  · rename_i allowed
    cases accepted
    refine ⟨rfl, ?_⟩
    by_cases customer : value = .customer
    · exact Or.inl customer
    · right
      have granted : user.map Account.role = some .admin := by
        by_contra other
        exact allowed ⟨customer, other⟩
      exact Option.map_eq_some_iff.mp granted

/-- A registration gives the customer role, or one that an administrator chose, and no flags. -/
theorem validateRegistration_extra {user : Option Account} {body : RegistrationBody} {data : RegistrationData}
    (valid : validateRegistration user accounts body = .ok data) : data.extra.isStaff = none ∧ data.extra.isSuperuser = none ∧
      (data.extra.role.getD .customer = .customer ∨ ∃ account, user = some account ∧ account.role = .admin) := by
  simp only [validateRegistration, bind_eq_ok, pure_eq_ok] at valid
  obtain ⟨_, _, rfl⟩ := valid
  refine ⟨rfl, rfl, ?_⟩
  show ((body.role.convert (validateRole user)).value?.getD .customer) = .customer ∨ _
  cases given : body.role.convert (validateRole user) with
  | missing => exact Or.inl rfl
  | refused message => exact Or.inl rfl
  | given role =>
    obtain ⟨raw, _, accepted⟩ := convert_eq_given given
    obtain ⟨rfl, customer | byAdmin⟩ := validateRole_eq_ok accepted
    · exact Or.inl customer
    · exact Or.inr byAdmin

end Accepted

/-! ## The site -/

/-- `JWTAuthentication`: the account a valid token names, when it is stored and active. -/
structure Authentication where
  authenticate : Table Account → String → Option Account
  stored : ∀ accounts token account, authenticate accounts token = some account →
    accounts.get account.id = some account
  active : ∀ accounts token account, authenticate accounts token = some account → account.isActive = true

structure Site where
  accounts : Table Account
  world : World

/-- Nothing is stored yet. -/
def Site.empty : Site := ⟨Table.empty, World.empty⟩

/-- A request to the API, or a call of `create_superuser` from a shell of the server. -/
inductive SiteCall where
  | register (token : Option String) (makePassword : MakePassword) (body : RegistrationBody)
  | updateUser (token : Option String) (pk : Nat) (isPartial : Bool) (body : UserUpdateBody)
  | survey (token : Option String) (order : SetOrder) (encryptValue : Encryption) (request : Request)
  | retrieve (token : Option String) (pk : String)
  | createSuperuser (makePassword : MakePassword) (email : String) (password : Option String)

/-- The token that comes with a call. -/
def SiteCall.token : SiteCall → Option String
  | .register token _ _ => token
  | .updateUser token _ _ _ => token
  | .survey token _ _ _ => token
  | .retrieve token _ => token
  | .createSuperuser _ _ _ => none

def SiteCall.byOperator : SiteCall → Bool
  | .createSuperuser _ _ _ => true
  | _ => false

/-- `request.user` of a view that wants one. -/
def Authentication.account (auth : Authentication) (site : Site) (token : Option String) : Option Account :=
  token.bind (auth.authenticate site.accounts)

/-- The site after a call. -/
def siteServe (emails : EmailNormalizer) (auth : Authentication) (py : Interpreter) (site : Site) : SiteCall → Site
  | .register none makePassword body =>
    { site with accounts := final (register emails makePassword none body) site.accounts }
  | .register (some token) makePassword body =>
    match auth.authenticate site.accounts token with
    -- 401: a bad token is refused even where none is needed
    | none => site
    | some account => { site with accounts := final (register emails makePassword (some account) body) site.accounts }
  | .updateUser token pk isPartial body =>
    match auth.account site token with
    | none => site
    | some account => { site with accounts := final (userUpdate account pk isPartial body) site.accounts }
  | .survey token order encryptValue request =>
    match auth.account site token with
    | none => site
    | some account => { site with world := handle py site.world ⟨account.user, order, encryptValue, request⟩ }
  | .retrieve token pk =>
    match auth.account site token with
    | none => site
    | some account => { site with world := serve py site.world (.retrieve account.user pk) }
  | .createSuperuser makePassword email password =>
    { site with accounts := final (createSuperuser emails makePassword email password .none) site.accounts }

/-! ## A site with an administrator -/

/-- Addresses are written in lower case already. -/
def lowerCaseEmails : EmailNormalizer := ⟨id, fun _ => rfl⟩

theorem active_of_found {rows : List Account} {token : String} {account : Account}
    (found : rows.find? (fun row => row.email == token && row.isActive) = some account) : account.isActive = true := by
  have passed := List.find?_some found
  simp only [Bool.and_eq_true] at passed
  exact passed.2

/-- A token is the address of its account. -/
def emailTokens : Authentication where
  authenticate accounts token := accounts.rows.find? fun row => row.email == token && row.isActive
  stored _ _ _ found := Table.mem_rows.mp (List.mem_of_find?_eq_some found)
  active _ _ _ found := active_of_found found

def rootAccount : Account := ⟨1, "root@example.com", "hash", "", "", .admin, true, true, true⟩

/-- After `createsuperuser`. -/
def rootSite : Site := ⟨Table.empty.save rootAccount, World.empty⟩

/-- The administrator changes an account. -/
def rootUpdate (pk : Nat) (body : UserUpdateBody) : SiteCall := .updateUser (some "root@example.com") pk true body

/-- Someone registers as a customer. -/
def signUp (email : String) : SiteCall :=
  .register none (fun _ => "hash") ⟨.given email, .given "correct horse", .missing, .missing, .missing⟩

end SurveyPlatform.Accounts

import SurveyPlatform.Library.Programs
import SurveyPlatform.Library.Table
import SurveyPlatform.Surveys.Views

/-! # Accounts

The rows of `apps/accounts/models.py` and their manager.  `date_joined`,
`last_login`, groups and permissions are left out, since no modelled function
reads them.

`normalize_email` and `make_password` come from the framework: the first is a
parameter known to be idempotent, the second, which salts, one of each call.
-/

namespace SurveyPlatform.Accounts

open SurveyPlatform.Library SurveyPlatform.Library.Program SurveyPlatform.Python SurveyPlatform.Surveys

/-! ## Rows -/

structure Account where
  id : Nat
  email : String
  password : String
  firstName : String
  lastName : String
  role : Role
  isActive : Bool
  isStaff : Bool
  isSuperuser : Bool
  deriving DecidableEq, Repr

instance : Keyed Account := ⟨Account.id⟩

@[simp] theorem key_account (row : Account) : key row = row.id := rfl

def Account.withId (row : Account) (id : Nat) : Account := { row with id }

theorem Account.key_withId (row : Account) (id : Nat) : key (row.withId id) = id := rfl

/-- What the views of the other apps read of `request.user`. -/
def Account.user (row : Account) : User := ⟨row.id, row.role⟩

/-! ## Statements -/

/-- A computation on the table of accounts that may raise. -/
abbrev AccountProcedure := EStateM PyExn (Table Account)

/-- `max_length` of an `EmailField` -/
def maxEmail : Nat := 254

/-- `email = models.EmailField(unique=True)` -/
def accountConstraints (accounts : Table Account) (row : Account) : Except PyExn Unit := do
  if row.email.length > maxEmail then throw .dataError
  if accounts.rows.any fun other => other.id != row.id && other.email == row.email then throw .integrityError

/-- `user.save()` of a new instance. -/
def insertAccount (new : Account) : AccountProcedure Account := do
  let row ← reading fun accounts => do
    let row := new.withId accounts.next
    accountConstraints accounts row
    return row
  writing fun accounts => accounts.insert new.withId new.key_withId
  return row

/-- `instance.save()` writes every column. -/
def saveAccount (row : Account) : AccountProcedure Unit := do
  reading fun accounts => accountConstraints accounts row
  writing fun accounts => accounts.save row

theorem accountConstraints_eq_ok {accounts : Table Account} {row : Account} :
    accountConstraints accounts row = .ok () ↔ row.email.length ≤ maxEmail ∧
      ∀ other ∈ accounts.rows, other.id ≠ row.id → other.email ≠ row.email := by
  unfold accountConstraints
  by_cases long : row.email.length > maxEmail
  · rw [if_pos long]
    simp only [reduceCtorEq, false_iff, not_and, bind, Except.bind, throw, throwThe, MonadExceptOf.throw]
    omega
  · rw [if_neg long]
    simp only [pure, Except.pure, throw, throwThe, MonadExceptOf.throw]
    split
    · rename_i taken
      obtain ⟨other, member, same⟩ := List.any_eq_true.mp taken
      simp only [Bool.and_eq_true, bne_iff_ne, ne_eq, beq_iff_eq] at same
      simp only [reduceCtorEq, false_iff, not_and, not_forall]
      exact fun _ => ⟨other, member, same.1, fun differs => differs same.2⟩
    · rename_i free
      simp only [Bool.not_eq_true, List.any_eq_false, Bool.and_eq_true, bne_iff_ne, ne_eq, beq_iff_eq, not_and] at free
      simp only [true_iff]
      exact ⟨by omega, free⟩

/-! ## `UserManager` -/

/-- `**extra_fields` -/
structure ExtraFields where
  firstName : Option String
  lastName : Option String
  role : Option Role
  isStaff : Option Bool
  isSuperuser : Option Bool

def ExtraFields.none : ExtraFields := ⟨.none, .none, .none, .none, .none⟩

/-- `self.model(email=email, **extra_fields)`, with the defaults of the model. -/
def ExtraFields.account (extra : ExtraFields) (email password : String) : Account where
  id := 0
  email := email
  password := password
  firstName := extra.firstName.getD ""
  lastName := extra.lastName.getD ""
  role := extra.role.getD .customer
  isActive := true
  isStaff := extra.isStaff.getD false
  isSuperuser := extra.isSuperuser.getD false

/-- `normalize_email` of the framework's `BaseUserManager`. -/
structure EmailNormalizer where
  normalizeEmail : String → String
  normalize_normalize : ∀ email, normalizeEmail (normalizeEmail email) = normalizeEmail email

/-- What `make_password` makes of a password in one call. -/
abbrev MakePassword := Option String → String

def createUser (emails : EmailNormalizer) (makePassword : MakePassword) (email : String) (password : Option String)
    (extra : ExtraFields) : AccountProcedure Account := do
  reading fun _ => if email = "" then .error .valueError else .ok ()
  insertAccount (extra.account (emails.normalizeEmail email) (makePassword password))

def createSuperuser (emails : EmailNormalizer) (makePassword : MakePassword) (email : String) (password : Option String)
    (extra : ExtraFields) : AccountProcedure Account :=
  -- `setdefault`
  createUser emails makePassword email password { extra with
    isStaff := some (extra.isStaff.getD true)
    isSuperuser := some (extra.isSuperuser.getD true)
    role := some (extra.role.getD .admin) }

section Manager

variable {emails : EmailNormalizer} {makePassword : MakePassword} {accounts accounts' : Table Account}

theorem insertAccount_eq_ok {new row : Account} : insertAccount new accounts = .ok row accounts' ↔
    row = new.withId accounts.next ∧ accountConstraints accounts row = .ok () ∧ accounts' = accounts.save row := by
  simp only [insertAccount, bind_eq_ok_iff, reading_eq_ok_iff, writing_eq_ok_iff, pure_eq_ok_iff, bind_eq_ok, pure_eq_ok,
    Table.insert_eq_save]
  constructor
  · intro holds
    obtain ⟨_, _, ⟨⟨_, checked, rfl⟩, rfl⟩, _, _, rfl, rfl, rfl⟩ := holds
    exact ⟨rfl, checked, rfl⟩
  · intro holds
    obtain ⟨rfl, checked, rfl⟩ := holds
    exact ⟨_, accounts, ⟨⟨(), checked, rfl⟩, rfl⟩, (), _, rfl, rfl, rfl⟩

theorem saveAccount_eq_ok {row : Account} {u : Unit} : saveAccount row accounts = .ok u accounts' ↔
    accountConstraints accounts row = .ok () ∧ accounts' = accounts.save row := by
  simp only [saveAccount, reading_bind_eq_ok_iff, writing_eq_ok_iff, Unique.exists_iff]

/-- A new account is stored under the next id, with a normal email that no other has. -/
theorem createUser_eq_ok {email : String} {password : Option String} {extra : ExtraFields} {row : Account} :
    createUser emails makePassword email password extra accounts = .ok row accounts' ↔ email ≠ "" ∧
      row = (extra.account (emails.normalizeEmail email) (makePassword password)).withId accounts.next ∧
        accountConstraints accounts row = .ok () ∧ accounts' = accounts.save row := by
  unfold createUser
  rw [reading_bind_eq_ok_iff, ← insertAccount_eq_ok]
  by_cases empty : email = "" <;> simp [empty]

theorem raisesClean_insertAccount (new : Account) : RaisesClean (insertAccount new) :=
  raisesClean_reading_bind fun _ => (raisesClean_writing _).bind_pure _

theorem raisesClean_createUser (email : String) (password : Option String) (extra : ExtraFields) :
    RaisesClean (createUser emails makePassword email password extra) :=
  raisesClean_reading_bind fun _ => raisesClean_insertAccount _

end Manager

end SurveyPlatform.Accounts

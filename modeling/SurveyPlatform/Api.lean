import SurveyPlatform.Library.Runs
import SurveyPlatform.Responses.Storage
import SurveyPlatform.Surveys.Retrieval

/-! # The API

Every writing endpoint as one request type, and `handle`, which runs a call to
its end.  A call brings what its outcome may depend on besides the database: the
user, the order in which sets are iterated, and what `encrypt_value` does.
-/

namespace SurveyPlatform

open SurveyPlatform.Library SurveyPlatform.Library.Program SurveyPlatform.Python
open SurveyPlatform.Surveys SurveyPlatform.Responses

inductive Request where
  | createSurvey (body : SurveyBody)
  | updateSurvey (pk : Nat) (isPartial : Bool) (body : SurveyBody)
  | destroySurvey (pk : Nat)
  | createSection (surveyPk : Nat) (body : SectionBody)
  | updateSection (surveyPk pk : Nat) (isPartial : Bool) (body : SectionBody)
  | destroySection (surveyPk pk : Nat)
  | createField (surveyPk sectionPk : Nat) (body : FieldBody)
  | updateField (surveyPk sectionPk pk : Nat) (isPartial : Bool) (body : FieldBody)
  | destroyField (surveyPk sectionPk pk : Nat)
  | createConditionalRule (surveyPk : Nat) (body : ConditionalRuleBody)
  | updateConditionalRule (surveyPk pk : Nat) (isPartial : Bool) (body : ConditionalRuleBody)
  | destroyConditionalRule (surveyPk pk : Nat)
  | createFieldDependency (surveyPk : Nat) (body : FieldDependencyBody)
  | updateFieldDependency (surveyPk pk : Nat) (isPartial : Bool) (body : FieldDependencyBody)
  | destroyFieldDependency (surveyPk pk : Nat)
  | submit (surveyPk : Nat) (answers : Submitted (List Answer))

structure Call where
  user : User
  order : SetOrder
  encryptValue : Encryption
  request : Request

/-- The view of a call. -/
def Call.procedure (py : Interpreter) (call : Call) : Procedure Unit :=
  match call.request with
  | .createSurvey body => do let _ ← surveyCreate call.user body
  | .updateSurvey pk isPartial body => do let _ ← surveyUpdate call.user pk isPartial body
  | .destroySurvey pk => surveyDestroy call.user pk
  | .createSection surveyPk body => do let _ ← sectionCreate call.user surveyPk body
  | .updateSection surveyPk pk isPartial body => do let _ ← sectionUpdate call.user surveyPk pk isPartial body
  | .destroySection surveyPk pk => sectionDestroy call.user surveyPk pk
  | .createField surveyPk sectionPk body => do let _ ← fieldCreate py call.user surveyPk sectionPk body
  | .updateField surveyPk sectionPk pk isPartial body => do
    let _ ← fieldUpdate py call.user surveyPk sectionPk pk isPartial body
  | .destroyField surveyPk sectionPk pk => fieldDestroy call.user surveyPk sectionPk pk
  | .createConditionalRule surveyPk body => do
    let _ ← conditionalRuleCreate py call.order call.user surveyPk body
  | .updateConditionalRule surveyPk pk isPartial body => do
    let _ ← conditionalRuleUpdate py call.order call.user surveyPk pk isPartial body
  | .destroyConditionalRule surveyPk pk => conditionalRuleDestroy call.user surveyPk pk
  | .createFieldDependency surveyPk body => do
    let _ ← fieldDependencyCreate py call.order call.user surveyPk body
  | .updateFieldDependency surveyPk pk isPartial body => do
    let _ ← fieldDependencyUpdate py call.order call.user surveyPk pk isPartial body
  | .destroyFieldDependency surveyPk pk => fieldDependencyDestroy call.user surveyPk pk
  | .submit surveyPk answers => do let _ ← submit py call.order call.encryptValue call.user surveyPk answers

/-- The world after a call, whether it returned or raised. -/
def handle (py : Interpreter) (w : World) (call : Call) : World := final (call.procedure py) w

/-- A call, or the one read that uses the cache. -/
inductive ApiCall where
  | write (call : Call)
  | retrieve (user : User) (pk : String)

/-- The world after an API call. -/
def serve (py : Interpreter) (w : World) : ApiCall → World
  | .write call => handle py w call
  | .retrieve user pk => final (surveyRetrieve user pk) w

/-- Nothing is stored yet. -/
def World.empty : World := ⟨Database.empty, fun _ => none⟩

/-! ## Calls of the administrator -/

/-- A token is the text behind the prefix of every Fernet token. -/
def prefixToken : Encryption := fun _ value => .ok ("gAAAAA" ++ value)

def adminCall (request : Request) : Call := ⟨administrator, .ascending, prefixToken, request⟩

end SurveyPlatform

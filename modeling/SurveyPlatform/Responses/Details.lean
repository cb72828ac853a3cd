import SurveyPlatform.Responses.Storage

/-! # Reading a response

`FieldResponseSerializer.get_value` and `SurveyResponseDetailView.retrieve`.
`decrypt_value` is a parameter, as `encrypt_value` is.
-/

namespace SurveyPlatform.Responses

open SurveyPlatform.Library SurveyPlatform.Library.Program SurveyPlatform.Python SurveyPlatform.Surveys

/-- `decrypt_value` -/
abbrev Decryption := String → Except PyExn String

structure FieldResponseDetail where
  id : Nat
  field : Nat
  fieldLabel : String
  fieldType : FieldType
  value : String

structure SurveyResponseDetail where
  id : Nat
  survey : Nat
  user : Nat
  fieldResponses : List FieldResponseDetail

/-- `FieldResponseSerializer.get_value`; the flag is the field's current one. -/
def getValue (decryptValue : Decryption) (field : Field) (row : FieldResponse) : String :=
  if field.isEncrypted && row.value != "" then
    match decryptValue row.value with
    | .ok value => value
    | .error _ => "[decryption error]"
  else row.value

def fieldResponseDetail (decryptValue : Decryption) (field : Field) (row : FieldResponse) : FieldResponseDetail :=
  ⟨row.id, row.fieldId, field.label, field.fieldType, getValue decryptValue field row⟩

/-- `survey_response.field_responses.all()` -/
def fieldResponsesOf (db : Database) (surveyResponseId : Nat) : List FieldResponse :=
  db.fieldResponses.rows.filter (·.surveyResponseId = surveyResponseId)

/-- The nested serializer, on the prefetched rows and their fields. -/
def fieldResponseDetails (decryptValue : Decryption) (db : Database) (surveyResponseId : Nat) :
    List FieldResponseDetail :=
  (fieldResponsesOf db surveyResponseId).filterMap fun row =>
    (db.fields.get row.fieldId).map fun field => fieldResponseDetail decryptValue field row

/-- `CanViewResponses` -/
def requireViewer (user : User) : Procedure Unit :=
  query fun _ => if user.role = .customer then .error .permissionDenied else .ok ()

/-- `SurveyResponseDetailView.retrieve` -/
def surveyResponseRetrieve (decryptValue : Decryption) (user : User) (surveyPk pk : Nat) :
    Procedure SurveyResponseDetail := do
  requireViewer user
  let _ ← getOr404 fun db => db.surveys.get surveyPk
  let response ← getOr404 fun db => (db.responses.get pk).filter (·.surveyId = surveyPk)
  let fieldResponses ← query fun db => return fieldResponseDetails decryptValue db response.id
  return ⟨response.id, response.surveyId, response.userId, fieldResponses⟩

theorem mem_fieldResponsesOf {db : Database} {surveyResponseId : Nat} {row : FieldResponse} :
    row ∈ fieldResponsesOf db surveyResponseId ↔
      db.fieldResponses.get row.id = some row ∧ row.surveyResponseId = surveyResponseId := by
  simp [fieldResponsesOf, Table.mem_rows]

theorem nodup_fieldResponsesOf (db : Database) (surveyResponseId : Nat) :
    (fieldResponsesOf db surveyResponseId).Nodup :=
  (db.fieldResponses.nodup_rows.of_map key).filter _

/-- The view on a stored response of a stored survey. -/
theorem surveyResponseRetrieve_of_stored {decryptValue : Decryption} {user : User} {surveyPk pk : Nat} {w : World}
    {survey : Survey} {response : SurveyResponse} (mayView : user.role ≠ .customer)
    (surveyStored : w.db.surveys.get surveyPk = some survey)
    (stored : w.db.responses.get pk = some response) (inSurvey : response.surveyId = surveyPk) :
    surveyResponseRetrieve decryptValue user surveyPk pk w =
      .ok ⟨response.id, response.surveyId, response.userId, fieldResponseDetails decryptValue w.db response.id⟩ w := by
  have found : (w.db.responses.get pk).filter (·.surveyId = surveyPk) = some response := by
    rw [stored, Option.filter_some_pos]
    exact decide_eq_true inSurvey
  rw [surveyResponseRetrieve, requireViewer, query_bind_of_ok (if_neg mayView), getOr404_bind_of_some surveyStored,
    getOr404_bind_of_some found]
  rfl

end SurveyPlatform.Responses

import SurveyPlatform.Verified.RequestChanges
import Mathlib.Logic.Relation

/-! # What requests do to the structure of surveys

`Effect` is the list of changes a request can make to surveys, sections and
fields, each with what was checked before it was made.  Every call of the API
is a sequence of effects (`handle_effects`), whatever it returns or raises.
-/

namespace SurveyPlatform.Verified

open SurveyPlatform.Library SurveyPlatform.Library.Program SurveyPlatform.Python
open SurveyPlatform.Surveys SurveyPlatform.Responses
open Relation (ReflTransGen)

/-! ## Effects -/

inductive Effect : Database → Database → Prop where
  | createSurvey {db : Database} {row : Survey} (draft : row.status = .draft) :
      Effect db { db with surveys := db.surveys.insert row.withId row.key_withId }
  | transition {db : Database} {survey : Survey} {status : SurveyStatus}
      (stored : db.surveys.get survey.id = some survey) (accepted : checkTransition db survey status = .ok ()) :
      Effect db (db.setStatus survey.id status)
  | saveSurvey {db : Database} {row old : Survey} (stored : db.surveys.get row.id = some old)
      (sameStatus : row.status = old.status) : Effect db { db with surveys := db.surveys.save row }
  | deleteSurvey {db : Database} (surveyId : Nat) : Effect db (db.deleteSurvey surveyId)
  | createSection {db : Database} {row : Section} (draft : IsDraft db row.surveyId) :
      Effect db { db with sections := db.sections.insert row.withId row.key_withId }
  | updateSection {db : Database} {row : Section} (data : SectionData) (stored : db.sections.get row.id = some row)
      (draft : IsDraft db row.surveyId) :
      Effect db { db with sections := db.sections.modify row.id data.assign data.key_assign }
  | deleteSection {db : Database} {row : Section} (stored : db.sections.get row.id = some row)
      (draft : IsDraft db row.surveyId) : Effect db (db.deleteSections (· == row.id))
  | createField {db : Database} {row : Field} {parent : Section} (stored : db.sections.get row.sectionId = some parent)
      (draft : IsDraft db parent.surveyId) :
      Effect db { db with fields := db.fields.insert row.withId row.key_withId }
  | updateField {db : Database} {row : PlacedField} (data : FieldData) (stored : db.placedField row.id = some row)
      (draft : IsDraft db row.surveyId) :
      Effect db { db with fields := db.fields.modify row.id data.assign data.key_assign }
  | deleteField {db : Database} {row : PlacedField} (stored : db.placedField row.id = some row)
      (draft : IsDraft db row.surveyId) : Effect db (db.deleteFields (· == row.id))
  -- rules, dependencies and responses
  | elsewhere {db db' : Database} (surveys : db'.surveys = db.surveys) (sections : db'.sections = db.sections)
      (fields : db'.fields = db.fields) : Effect db db'

/-- From one world to another by effects. -/
def Effects (w w' : World) : Prop := ReflTransGen Effect w.db w'.db

theorem Effects.refl (w : World) : Effects w w := ReflTransGen.refl

theorem Effects.of_same {w w' : World} (same : w'.db = w.db) : Effects w w' := by
  rw [Effects, same]

theorem Effects.of_effect {w w' : World} (effect : Effect w.db w'.db) : Effects w w' := ReflTransGen.single effect

/-! ## Every call -/

/-- A change of the world is a sequence of effects on its structure. -/
theorem Change.effects {w w' : World} {call : Call} (change : Change w call w') : Effects w w' := by
  cases change with
  | quiet => exact Effects.refl w
  | cleared surveyId => exact Effects.of_same rfl
  | surveyCreated draft => exact Effects.of_effect (.createSurvey draft)
  | surveyMoved _ _ _ stored writes => exact Effects.of_effect (.transition stored writes.2.2)
  | surveySaved stored sameStatus => exact Effects.of_effect (.saveSurvey stored sameStatus)
  | surveyMovedSaved stored accepted sameKey sameStatus =>
    rename_i survey row status
    -- the row that is saved over is the one the transition left
    have moved : (w.db.setStatus survey.id status).surveys.get row.id = some (survey.withStatus status) := by
      simp [Database.setStatus, sameKey, stored]
    exact ReflTransGen.tail (ReflTransGen.single (.transition stored accepted)) (.saveSurvey moved sameStatus)
  | surveyDeleted _ _ stored => exact Effects.of_effect (.deleteSurvey _)
  | sectionCreated draft => exact Effects.of_effect (.createSection draft)
  | sectionUpdated data stored draft => exact Effects.of_effect (.updateSection data stored draft)
  | sectionDeleted _ _ stored draft => exact Effects.of_effect (.deleteSection stored draft)
  | fieldCreated stored draft => exact Effects.of_effect (.createField stored draft)
  | fieldUpdated data stored draft => exact Effects.of_effect (.updateField data stored draft)
  | fieldDeleted _ _ stored draft => exact Effects.of_effect (.deleteField stored draft)
  -- rules, dependencies and responses are no part of the structure
  | ruleUpdated | ruleDeleted | dependencyCreated | dependencyUpdated | dependencyDeleted | submitted =>
    exact Effects.of_effect (.elsewhere rfl rfl rfl)

/-- Every call of the API is a sequence of effects. -/
theorem handle_effects (py : Interpreter) (w : World) (call : Call) : Effects w (handle py w call) :=
  (handle_change py w call).effects

end SurveyPlatform.Verified

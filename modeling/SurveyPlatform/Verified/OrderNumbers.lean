import SurveyPlatform.Verified.RuleValidity

/-! # Order numbers of new sections and fields

A new row takes the submitted order or the largest order of its siblings plus
one.  The unique constraint is answered as a validation error; the range of the
column is checked by nobody, so a creation keeps its orders in range exactly
when the number it uses fits the column (`creationOrders_iff`).
-/

namespace SurveyPlatform.Verified

open SurveyPlatform.Library SurveyPlatform.Library.Program SurveyPlatform.Python SurveyPlatform.Surveys
open SurveyPlatform.Surveys.Database (maxInteger)

/-- The result of a creation: a new row with an order of its own in range, or a
validation error and no change; and without a submitted order always a row
behind all its siblings while the largest of them leaves room. -/
structure OrderKept {α : Type} (order : α → Nat) (stored : World → α → Prop) (siblings : List Nat)
    (submitted : Option Nat) (w : World) (result : EStateM.Result PyExn World α) : Prop where
  answered : (∃ row w', result = .ok row w' ∧ stored w' row ∧ 1 ≤ order row ∧ order row ≤ maxInteger ∧
      order row ∉ siblings) ∨
    ∃ errors, result = .error (.apiValidationError errors) w
  automatic : submitted = none → (∀ sibling ∈ siblings, sibling < maxInteger) →
    ∃ row w', result = .ok row w' ∧ stored w' row ∧ ∀ sibling ∈ siblings, sibling < order row

/-- The number a creation uses fits the column: the submitted one, or the one after all siblings. -/
def OrderFits (siblings : List Nat) : Option Nat → Prop
  | some order => order ≤ maxInteger
  | none => ∀ sibling ∈ siblings, sibling < maxInteger

/-- A row of the table that was not there before. -/
def NewRow {α : Type} [Keyed α] (table : World → Table α) (w w' : World) (row : α) : Prop :=
  (table w).get (key row) = none ∧ (table w').get (key row) = some row

/-! ## The next number -/

theorem lt_nextOrder {orders : List Nat} : ∀ order ∈ orders, order < nextOrder orders := by
  induction orders with
  | nil => exact fun order member => absurd member List.not_mem_nil
  | cons first rest inductionHypothesis =>
    rw [List.forall_mem_cons]
    simp only [nextOrder, List.foldr_cons] at inductionHypothesis ⊢
    refine ⟨by omega, fun order member => ?_⟩
    have bound := inductionHypothesis order member
    omega

theorem nextOrder_le_iff {orders : List Nat} {bound : Nat} (positive : 0 < bound) :
    nextOrder orders ≤ bound ↔ ∀ order ∈ orders, order < bound := by
  constructor
  · intro fits order member
    exact Nat.lt_of_lt_of_le (lt_nextOrder order member) fits
  · intro below
    induction orders with
    | nil => exact positive
    | cons first rest inductionHypothesis =>
      rw [List.forall_mem_cons] at below
      have tail := inductionHypothesis below.2
      simp only [nextOrder, List.foldr_cons] at tail ⊢
      omega

/-! ## What becomes of a number -/

/-- The three answers to a number: no error is raised for one in range that is free. -/
structure Uses {α : Type} (order : α → Nat) (stored : World → α → Prop) (siblings : List Nat) (number : Nat)
    (w : World) (result : EStateM.Result PyExn World α) : Prop where
  tooLarge : maxInteger < number → result = .error .dataError w
  taken : number ≤ maxInteger → number ∈ siblings → ∃ errors, result = .error (.apiValidationError errors) w
  free : number ≤ maxInteger → number ∉ siblings → ∃ row w', result = .ok row w' ∧ stored w' row ∧ order row = number

section Kept

variable {α : Type} {order : α → Nat} {stored : World → α → Prop} {siblings : List Nat} {submitted : Option Nat}
  {w : World} {result : EStateM.Result PyExn World α}

theorem orderFits_iff : OrderFits siblings submitted ↔ submitted.getD (nextOrder siblings) ≤ maxInteger := by
  cases submitted with
  | some number => rfl
  | none => exact (nextOrder_le_iff (by simp [maxInteger])).symm

theorem orderKept_iff (uses : Uses order stored siblings (submitted.getD (nextOrder siblings)) w result)
    (positive : ∀ number, submitted = some number → 1 ≤ number) :
    OrderKept order stored siblings submitted w result ↔ OrderFits siblings submitted := by
  rw [orderFits_iff]
  constructor
  · intro kept
    by_contra tooLarge
    have raised := uses.tooLarge (Nat.lt_of_not_le tooLarge)
    obtain ⟨_, _, returned, _⟩ | ⟨_, refused⟩ := kept.answered
    · cases raised.symm.trans returned
    · cases raised.symm.trans refused
  · intro fits
    constructor
    · by_cases taken : submitted.getD (nextOrder siblings) ∈ siblings
      · exact Or.inr (uses.taken fits taken)
      · obtain ⟨row, w', returned, isStored, sameOrder⟩ := uses.free fits taken
        refine Or.inl ⟨row, w', returned, isStored, ?_, sameOrder ▸ fits, sameOrder ▸ taken⟩
        rw [sameOrder]
        cases submitted with
        | some number => exact positive number rfl
        | none => exact Nat.succ_pos _
    · rintro rfl _
      -- the next number is above all siblings, so it is none of them
      have free : nextOrder siblings ∉ siblings := fun member => lt_irrefl _ (lt_nextOrder _ member)
      obtain ⟨row, w', returned, isStored, sameOrder⟩ := uses.free fits free
      exact ⟨row, w', returned, isStored, sameOrder ▸ lt_nextOrder⟩

/-- Among rows with other ids, the unique constraint looks for a sibling with this order. -/
theorem any_sibling_iff {rows : List α} {id parent : α → Nat} {newId newParent newOrder : Nat}
    (fresh : ∀ other ∈ rows, id other ≠ newId) :
    (rows.any fun other => id other != newId && parent other == newParent && order other == newOrder) = true ↔
      newOrder ∈ (rows.filter fun other => parent other = newParent).map order := by
  simp only [List.any_eq_true, Bool.and_eq_true, bne_iff_ne, beq_iff_eq, List.mem_map, List.mem_filter,
    decide_eq_true_eq]
  constructor
  · intro holds
    obtain ⟨other, member, ⟨_, sibling⟩, sameOrder⟩ := holds
    exact ⟨other, ⟨member, sibling⟩, sameOrder⟩
  · intro holds
    obtain ⟨other, ⟨member, sibling⟩, sameOrder⟩ := holds
    exact ⟨other, member, ⟨fresh other member, sibling⟩, sameOrder⟩

/-- A key the table has not handed out is the key of none of its rows. -/
theorem key_ne_next [Keyed α] (table : Table α) : ∀ other ∈ table.rows, key other ≠ table.next := by
  intro other member same
  rw [Table.mem_rows, same, Table.get_next] at member
  cases member

/-- An insert puts a row under a key that no row had. -/
theorem get_insert_new [Keyed α] (table : Table α) {make : Nat → α} (keyedMake : ∀ i, key (make i) = i) :
    table.get (key (make table.next)) = none ∧
      (table.insert make keyedMake).get (key (make table.next)) = some (make table.next) := by
  rw [keyedMake, Table.get_next, Table.get_insert, if_pos rfl]
  exact ⟨rfl, rfl⟩

end Kept

/-! ## Sections -/

section Sections

variable {w : World} {survey : Survey} {data : SectionData}

theorem sectionConstraints_new {db : Database} {row : Section} (parent : (db.surveys.get row.surveyId).isSome = true)
    (fresh : row.id = db.sections.next) :
    Database.sectionConstraints db row = if maxInteger < row.order then .error .dataError
      else if row.order ∈ (db.sectionsOf row.surveyId).map Section.order then .error .integrityError else .ok () := by
  have siblings : (db.sections.rows.any fun other => other.id != row.id && other.surveyId == row.surveyId &&
      other.order == row.order) = true ↔ row.order ∈ (db.sectionsOf row.surveyId).map Section.order :=
    any_sibling_iff (fresh ▸ key_ne_next db.sections)
  simp only [Database.sectionConstraints, Database.requireRow, parent, ← siblings]
  rfl

/-- The row `Section.objects.create` inserts. -/
def newSection (db : Database) (survey : Survey) (data : SectionData) (order : Nat) : Section :=
  ({ data with order := some order }.assign ⟨0, survey.id, "", "", 0⟩).withId db.sections.next

theorem sectionInsert_of_error {exn : PyExn} (refused : Database.sectionConstraints w.db (newSection w.db survey data
      (data.order.getD (nextOrder ((w.db.sectionsOf survey.id).map Section.order)))) = .error exn) :
    sectionInsert survey data w = .error (onIntegrityError
      (.apiValidationError [("order", "A section with this order already exists in this survey.")]) exn) w := by
  rw [sectionInsert, query_pure_bind]
  exact bind_of_error (translating_of_error (Model.insert_of_error _ refused))

theorem sectionInsert_uses (stored : w.db.surveys.get survey.id = some survey) :
    Uses Section.order (fun w' row => NewRow (·.db.sections) w w' row ∧ row.surveyId = survey.id)
      ((w.db.sectionsOf survey.id).map Section.order)
      (data.order.getD (nextOrder ((w.db.sectionsOf survey.id).map Section.order))) w (sectionInsert survey data w) := by
  have constraints : Database.sectionConstraints w.db (newSection w.db survey data
      (data.order.getD (nextOrder ((w.db.sectionsOf survey.id).map Section.order)))) = _ :=
    sectionConstraints_new (Option.isSome_of_eq_some stored) rfl
  constructor
  · intro tooLarge
    rw [sectionInsert_of_error (constraints.trans (if_pos tooLarge))]
    rfl
  · intro fits taken
    rw [sectionInsert_of_error (constraints.trans ((if_neg (Nat.not_lt_of_le fits)).trans (if_pos taken)))]
    exact ⟨_, rfl⟩
  · intro fits free
    have accepted := constraints.trans ((if_neg (Nat.not_lt_of_le fits)).trans (if_neg free))
    have inserted : sectionModel.insert _ (Section.key_withId _) w = _ := Model.insert_of_constraints _ accepted
    rw [sectionInsert, query_pure_bind, bind_of_ok (translating_eq_ok_iff.mpr inserted)]
    exact ⟨_, _, rfl, ⟨get_insert_new w.db.sections (Section.key_withId _), rfl⟩, rfl⟩

theorem sectionCreate_eq {user : User} (admin : user.role = .admin) {surveyPk : Nat}
    (stored : w.db.surveys.get surveyPk = some survey) (draft : survey.status = .draft) {body : SectionBody}
    (accepted : validateSection false body = .ok data) :
    sectionCreate user surveyPk body w = sectionInsert survey data w := by
  rw [sectionCreate, requireAdmin_bind_of_admin admin, query_bind_of_ok accepted, sectionPerformCreate,
    getOr404_bind_of_some stored, query_bind_of_ok (ensureDraftSurvey_eq_ok.mpr draft)]

end Sections

/-! ## Fields -/

section Fields

variable {w : World} {parent : Section} {data : FieldData}

theorem fieldConstraints_new {db : Database} {row : Field} (options : row.options.isNone = false)
    (validationRules : row.validationRules.isNone = false) (stored : (db.sections.get row.sectionId).isSome = true)
    (fresh : row.id = db.fields.next) :
    Database.fieldConstraints db row = if maxInteger < row.order then .error .dataError
      else if row.order ∈ (db.fieldsOf row.sectionId).map Field.order then .error .integrityError else .ok () := by
  have siblings : (db.fields.rows.any fun other => other.id != row.id && other.sectionId == row.sectionId &&
      other.order == row.order) = true ↔ row.order ∈ (db.fieldsOf row.sectionId).map Field.order :=
    any_sibling_iff (fresh ▸ key_ne_next db.fields)
  simp only [Database.fieldConstraints, Database.requireRow, options, validationRules, stored,
    ← siblings]
  rfl

/-- The row `create_field` inserts. -/
def newField (db : Database) (parent : Section) (data : FieldData) (order : Nat) : Field :=
  ({ data with order := some order }.assign (blankField parent.id)).withId db.fields.next

theorem fieldInsert_of_error {exn : PyExn} (refused : Database.fieldConstraints w.db (newField w.db parent data
      (data.order.getD (nextOrder ((w.db.fieldsOf parent.id).map Field.order)))) = .error exn) :
    fieldInsert parent data w = .error (underMessageDict (onIntegrityError
      (.validationErrorDict "order" "A field with this order already exists in this section.") exn)) w := by
  rw [fieldInsert, query_pure_bind]
  exact translating_of_error (bind_of_error (translating_of_error (Model.insert_of_error _ refused)))

theorem fieldInsert_uses (stored : w.db.sections.get parent.id = some parent)
    (options : ∀ value, data.options = some value → value.isNone = false)
    (validationRules : ∀ value, data.validationRules = some value → value.isNone = false) :
    Uses Field.order (fun w' row => NewRow (·.db.fields) w w' row ∧ row.sectionId = parent.id)
      ((w.db.fieldsOf parent.id).map Field.order)
      (data.order.getD (nextOrder ((w.db.fieldsOf parent.id).map Field.order))) w (fieldInsert parent data w) := by
  have notNone : ∀ {submitted : Option Json} {default : Json},
      (∀ value, submitted = some value → value.isNone = false) → default.isNone = false →
        (submitted.getD default).isNone = false := by
    intro submitted default given isDefault
    cases submitted with
    | none => exact isDefault
    | some value => exact given value rfl
  have constraints : Database.fieldConstraints w.db (newField w.db parent data
      (data.order.getD (nextOrder ((w.db.fieldsOf parent.id).map Field.order)))) = _ :=
    fieldConstraints_new (notNone options rfl) (notNone validationRules rfl) (Option.isSome_of_eq_some stored) rfl
  constructor
  · intro tooLarge
    rw [fieldInsert_of_error (constraints.trans (if_pos tooLarge))]
    rfl
  · intro fits taken
    rw [fieldInsert_of_error (constraints.trans ((if_neg (Nat.not_lt_of_le fits)).trans (if_pos taken)))]
    exact ⟨_, rfl⟩
  · intro fits free
    have accepted := constraints.trans ((if_neg (Nat.not_lt_of_le fits)).trans (if_neg free))
    have inserted : fieldModel.insert _ (Field.key_withId _) w = _ := Model.insert_of_constraints _ accepted
    rw [fieldInsert, query_pure_bind]
    simp only [createField, translating_eq_ok_iff]
    rw [bind_of_ok (translating_eq_ok_iff.mpr inserted)]
    exact ⟨_, _, rfl, ⟨get_insert_new w.db.fields (Field.key_withId _), rfl⟩, rfl⟩

theorem fieldCreate_eq {py : Interpreter} {user : User} (admin : user.role = .admin) {survey : Survey}
    {surveyPk sectionPk : Nat} (stored : w.db.surveys.get surveyPk = some survey) (draft : survey.status = .draft)
    (found : getSection surveyPk sectionPk w.db = some parent) {body : FieldBody}
    (accepted : validateField py false (blankField sectionPk) body = .ok data) :
    fieldCreate py user surveyPk sectionPk body w = fieldInsert parent data w := by
  obtain ⟨_, inSurvey⟩ := Option.filter_eq_some_iff.mp found
  rw [decide_eq_true_eq] at inSurvey
  rw [fieldCreate, requireAdmin_bind_of_admin admin, query_bind_of_ok accepted, fieldPerformCreate,
    getOr404_bind_of_some stored, getOr404_bind_of_some found, ensureDraftSurveyOf,
    query_bind_of_ok (by rw [inSurvey, stored]; exact ensureDraftSurvey_eq_ok.mpr draft)]

/-- Accepted data has the order and the JSON columns of the body. -/
theorem validateField_data {py : Interpreter} {current : Field} {body : FieldBody}
    (accepted : validateField py false current body = .ok data) : data.order = body.order.value? ∧
      (∀ value, data.options = some value → value.isNone = false) ∧
      ∀ value, data.validationRules = some value → value.isNone = false := by
  simp only [validateField, validateFieldData, bind_eq_ok, pure, Except.pure, Except.ok.injEq] at accepted
  obtain ⟨_, _, _, _, _, _, rfl⟩ := accepted
  exact ⟨rfl, fun _ given => value?_notNull given, fun _ given => value?_notNull given⟩

end Fields

/-! ## Both -/

/-- The orders of a creation are kept exactly when the number it uses fits the
column: the submitted order, or the one after the largest of the siblings. -/
theorem creationOrders_iff {py : Interpreter} {user : User} (admin : user.role = .admin) {w : World} {surveyPk : Nat}
    {survey : Survey} (stored : w.db.surveys.get surveyPk = some survey) (draft : survey.status = .draft) :
    (∀ body data, validateSection false body = .ok data → (∀ order, body.order = .given order → 1 ≤ order) →
      (OrderKept Section.order (fun w' row => NewRow (·.db.sections) w w' row ∧ row.surveyId = surveyPk)
          ((w.db.sectionsOf surveyPk).map Section.order) body.order.value? w (sectionCreate user surveyPk body w) ↔
        OrderFits ((w.db.sectionsOf surveyPk).map Section.order) body.order.value?)) ∧
    (∀ sectionPk parent body data, getSection surveyPk sectionPk w.db = some parent →
      validateField py false (blankField sectionPk) body = .ok data →
      (∀ order, body.order = .given order → 1 ≤ order) →
        (OrderKept Field.order (fun w' row => NewRow (·.db.fields) w w' row ∧ row.sectionId = sectionPk)
            ((w.db.fieldsOf sectionPk).map Field.order) body.order.value? w
            (fieldCreate py user surveyPk sectionPk body w) ↔
          OrderFits ((w.db.fieldsOf sectionPk).map Field.order) body.order.value?)) := by
  have value_pos : ∀ {submitted : Submitted Nat}, (∀ order, submitted = .given order → 1 ≤ order) →
      ∀ order, submitted.value? = some order → 1 ≤ order := by
    intro submitted positive order given
    cases submitted with
    | given value => cases given; exact positive _ rfl
    | missing => cases given
    | refused message => cases given
  constructor
  · intro body data accepted positive
    obtain rfl : survey.id = surveyPk := w.db.surveys.keyed _ _ stored
    rw [sectionCreate_eq admin stored draft accepted]
    have sameOrder : data.order = body.order.value? := by
      simp only [validateSection, bind_eq_ok, pure, Except.pure, Except.ok.injEq] at accepted
      obtain ⟨_, _, rfl⟩ := accepted
      rfl
    have uses := @sectionInsert_uses w survey data stored
    rw [sameOrder] at uses
    exact orderKept_iff uses (value_pos positive)
  · intro sectionPk parent body data found accepted positive
    obtain ⟨isStored, _⟩ := Option.filter_eq_some_iff.mp found
    obtain rfl : parent.id = sectionPk := w.db.sections.keyed _ _ isStored
    rw [fieldCreate_eq admin stored draft found accepted]
    obtain ⟨sameOrder, options, validationRules⟩ := validateField_data accepted
    have uses := fieldInsert_uses isStored options validationRules
    rw [sameOrder] at uses
    exact orderKept_iff uses (value_pos positive)

/-- A section without an order, after the two of the draft. -/
def lastSectionBody : SectionBody := ⟨.given "Sleep", .missing, .missing⟩

theorem creationOrders_draft : validateSection false lastSectionBody = .ok ⟨some "Sleep", none, none⟩ ∧
    (OrderKept Section.order (fun w' row => NewRow (·.db.sections) draftWorld w' row ∧ row.surveyId = 1)
        ((draftDatabase.sectionsOf 1).map Section.order) none draftWorld
        (sectionCreate administrator 1 lastSectionBody draftWorld) ↔
      OrderFits ((draftDatabase.sectionsOf 1).map Section.order) none) :=
  ⟨rfl, (@creationOrders_iff bareInterpreter administrator rfl draftWorld 1 _ rfl rfl).1
    lastSectionBody _ rfl (fun _ given => by cases given)⟩

/-- The number after the largest the column holds is accepted, and the insert raises. -/
def hugeOrderBody : SectionBody := ⟨.given "Sleep", .missing, .given 2147483648⟩

theorem creationOrders_not_kept : validateSection false hugeOrderBody = .ok ⟨some "Sleep", none, some 2147483648⟩ ∧
    sectionCreate administrator 1 hugeOrderBody draftWorld = .error .dataError draftWorld ∧
    ¬ OrderKept Section.order (fun w' row => NewRow (·.db.sections) draftWorld w' row ∧ row.surveyId = 1)
      ((draftDatabase.sectionsOf 1).map Section.order) (some 2147483648) draftWorld
      (sectionCreate administrator 1 hugeOrderBody draftWorld) := by
  have raised : sectionCreate administrator 1 hugeOrderBody draftWorld = .error .dataError draftWorld := by
    have beyond : maxInteger < 2147483648 := by simp [maxInteger]
    have stored : draftDatabase.surveys.get 1 = some ⟨1, "Health", "", 1, .draft⟩ := rfl
    rw [sectionCreate_eq rfl stored rfl rfl]
    exact (sectionInsert_uses rfl).tooLarge beyond
  refine ⟨rfl, raised, ?_⟩
  intro kept
  obtain ⟨_, _, returned, _⟩ | ⟨_, refused⟩ := kept.answered
  · cases raised.symm.trans returned
  · cases raised.symm.trans refused

end SurveyPlatform.Verified

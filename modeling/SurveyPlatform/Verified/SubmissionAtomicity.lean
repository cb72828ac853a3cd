import SurveyPlatform.Responses.Transactions

/-! # Submissions at the same time

Any number of calls of `create_submission` run interleaved, and encryption may
fail at any field of any of them.  At every moment the stored submissions are
those of the calls that returned, one for each survey and user, each with one
field response for each of its own cleaned answers (`createSubmission_atomic`).

The invariant speaks of the row a transaction has made from the moment it is
inserted: no two such rows share their id, nor their survey and user.  The
second part is what the unique index gives, the committed rows and the rows it
makes others wait for taken together.
-/

namespace SurveyPlatform.Verified

open SurveyPlatform.Library SurveyPlatform.Library.Program SurveyPlatform.Python SurveyPlatform.Surveys
open SurveyPlatform.Responses

section SubmissionAtomicity

variable {ι : Type}

/-! ## What is stored for a submission -/

/-- `fieldResponse` is for the field that the key of the answer names, and stores the
answer as text, or what that text is encrypted to. -/
def Answers (py : Interpreter) (call : SubmissionCall) (answer : String × Json) (fieldResponse : FieldResponse) : Prop :=
  ∃ id : Nat, ∃ field, parseInt answer.1 = some (id : Int) ∧ call.surveyFields id = some field ∧
    fieldResponse.fieldId = field.id ∧
    if field.isEncrypted then call.encryptValue answer.1 (serializeValue py answer.2) = .ok fieldResponse.value
    else fieldResponse.value = serializeValue py answer.2

/-- The field responses of `row` are one for each cleaned answer of the call, and no others. -/
def AnswersStored (py : Interpreter) (call : SubmissionCall) (row : SurveyResponse)
    (fieldResponses : Table FieldResponse) : Prop :=
  ∃ rows : List FieldResponse, rows.Nodup ∧
    (∀ fieldResponse, fieldResponse ∈ rows ↔
      fieldResponse ∈ fieldResponses.rows ∧ fieldResponse.surveyResponseId = row.id) ∧
    List.Forall₂ (Answers py call) call.cleanedAnswers.entries rows

/-- The committed rows are those of the calls that returned. -/
structure Atomic (py : Interpreter) (calls : ι → SubmissionCall) (c : Config ι (Store ι) TransactionStage) : Prop where
  unique : ∀ row ∈ c.shared.db.responses.rows, ∀ other ∈ c.shared.db.responses.rows,
    row.surveyId = other.surveyId → row.userId = other.userId → row = other
  complete : ∀ row ∈ c.shared.db.responses.rows, ∃ i, c.locals i = .returned row ∧
    (∀ j, c.locals j = .returned row → j = i) ∧
    row.surveyId = (calls i).survey.id ∧ row.userId = (calls i).user.id ∧
    AnswersStored py (calls i) row c.shared.db.fieldResponses
  owned : ∀ fieldResponse ∈ c.shared.db.fieldResponses.rows, ∃ row ∈ c.shared.db.responses.rows,
    fieldResponse.surveyResponseId = row.id
  returned : ∀ i row, c.locals i = .returned row → row ∈ c.shared.db.responses.rows
  released : ∀ i exn, c.locals i = .raised exn → ∀ key, c.shared.holder key ≠ some i

/-! ## What a step does -/

inductive TransactionEffect (py : Interpreter) (call : SubmissionCall) (i : ι) (store : Store ι) :
    TransactionStage → Store ι → TransactionStage → Prop where
  | stays {stage : TransactionStage} : TransactionEffect py call i store stage store stage
  | refused {exn : SubmissionExn} : TransactionEffect py call i store .received store (.raised exn)
  | inserts {row : SurveyResponse} (made : row = ⟨store.nextResponse, call.survey.id, call.user.id⟩)
      (allowed : surveyResponseConstraints store.db row = .ok ()) (free : store.holder call.uniqueKey = none) :
      TransactionEffect py call i store .received
        { store with
          nextResponse := store.nextResponse + 1
          holder := Function.update store.holder call.uniqueKey (some i) }
        (.inserted row [] call.cleanedAnswers.entries)
  | prepares {row : SurveyResponse} {prepared : List (Nat × String)} {answer : String × Json}
      {rest : List (String × Json)} {fieldResponse : Nat × String}
      (ready : prepareFieldResponse py call.encryptValue call.surveyFields answer.1 answer.2 = .ok fieldResponse) :
      TransactionEffect py call i store (.inserted row prepared (answer :: rest)) store
        (.inserted row (prepared ++ [fieldResponse]) rest)
  | rollsBack {row : SurveyResponse} {prepared : List (Nat × String)} {rest : List (String × Json)}
      {exn : SubmissionExn} :
      TransactionEffect py call i store (.inserted row prepared rest) (store.release call.uniqueKey) (.raised exn)
  | creates {row : SurveyResponse} {prepared : List (Nat × String)} :
      TransactionEffect py call i store (.inserted row prepared [])
        { store with nextFieldResponse := store.nextFieldResponse + prepared.length }
        (.created row (numberRows row.id store.nextFieldResponse prepared))
  | commits {row : SurveyResponse} {rows : List FieldResponse} :
      TransactionEffect py call i store (.created row rows) ((store.commit row rows).release call.uniqueKey)
        (.returned row)

theorem step_effect (py : Interpreter) (call : SubmissionCall) (i : ι) (store : Store ι) (stage : TransactionStage) :
    TransactionEffect py call i store stage (call.step py i store stage).1 (call.step py i store stage).2 := by
  cases stage with
  | received =>
    rw [SubmissionCall.step]
    split
    · exact .refused
    · rename_i allowed
      split
      · exact .stays
      · rename_i free
        exact .inserts rfl allowed free
  | inserted row prepared rest =>
    cases rest with
    | nil =>
      rw [SubmissionCall.step]
      split
      · exact .creates
      · exact .rollsBack
    | cons answer rest =>
      rw [SubmissionCall.step]
      split
      · rename_i ready
        exact .prepares ready
      · exact .rollsBack
  | created row rows => exact .commits
  | returned row => exact .stays
  | raised exn => exact .stays

/-! ## The invariant -/

end SubmissionAtomicity

/-- The parent row of a call, from its insert on, unless it was rolled back. -/
def parentRow : TransactionStage → Option SurveyResponse
  | .inserted row _ _ => some row
  | .created row _ => some row
  | .returned row => some row
  | _ => none

/-- The rows of `bulk_create` before they are committed. -/
def pendingRows : TransactionStage → List FieldResponse
  | .created _ rows => rows
  | _ => []

/-- Inside the transaction, after the insert. -/
def IsOpen : TransactionStage → Prop
  | .inserted _ _ _ => True
  | .created _ _ => True
  | _ => False

/-- The rows of two calls do not collide. -/
structure Apart (stage other : TransactionStage) : Prop where
  parents : ∀ row row', parentRow stage = some row → parentRow other = some row' →
    row.id ≠ row'.id ∧ ¬ (row.surveyId = row'.surveyId ∧ row.userId = row'.userId)
  children : ∀ child ∈ pendingRows stage, ∀ child' ∈ pendingRows other, child.id ≠ child'.id

section Invariant

variable {ι : Type} {py : Interpreter} {calls : ι → SubmissionCall} {call : SubmissionCall}
  {c : Config ι (Store ι) TransactionStage} {i : ι} {store store' : Store ι} {stage stage' : TransactionStage}

/-- The parent row as the call asks for it, numbered by the sequence. -/
structure ParentRow (call : SubmissionCall) (store : Store ι) (row : SurveyResponse) : Prop where
  survey : row.surveyId = call.survey.id
  user : row.userId = call.user.id
  numbered : row.id < store.nextResponse

structure ChildRows (py : Interpreter) (call : SubmissionCall) (store : Store ι) (row : SurveyResponse)
    (rows : List FieldResponse) : Prop where
  distinct : (rows.map key).Nodup
  children : ∀ child ∈ rows, child.surveyResponseId = row.id
  numbered : ∀ child ∈ rows, child.id < store.nextFieldResponse
  new : ∀ child ∈ rows, ∀ stored ∈ store.db.fieldResponses.rows, child.id ≠ stored.id
  answers : List.Forall₂ (Answers py call) call.cleanedAnswers.entries rows

/-- What a call at this stage has done. -/
def TransactionHolds (py : Interpreter) (call : SubmissionCall) (store : Store ι) : TransactionStage → Prop
  | .inserted row prepared rest => ParentRow call store row ∧ ∃ before,
      call.cleanedAnswers.entries = before ++ rest ∧
      List.Forall₂ (fun answer fieldResponse =>
        prepareFieldResponse py call.encryptValue call.surveyFields answer.1 answer.2 = .ok fieldResponse) before prepared
  | .created row rows => ParentRow call store row ∧ ChildRows py call store row rows
  | .returned row => ParentRow call store row ∧ AnswersStored py call row store.db.fieldResponses
  | _ => True

structure Consistent (py : Interpreter) (calls : ι → SubmissionCall) (c : Config ι (Store ι) TransactionStage) :
    Prop where
  stages : ∀ i, TransactionHolds py (calls i) c.shared (c.locals i)
  apart : ∀ i j, i ≠ j → Apart (c.locals i) (c.locals j)
  holders : ∀ key i, c.shared.holder key = some i ↔ key = (calls i).uniqueKey ∧ IsOpen (c.locals i)
  committed : ∀ row, row ∈ c.shared.db.responses.rows ↔ ∃ i, c.locals i = .returned row
  owned : ∀ child ∈ c.shared.db.fieldResponses.rows,
    child.id < c.shared.nextFieldResponse ∧ ∃ i row, c.locals i = .returned row ∧ child.surveyResponseId = row.id

theorem TransactionHolds.parentRow {row : SurveyResponse} (holds : TransactionHolds py call store stage)
    (parent : parentRow stage = some row) : ParentRow call store row := by
  cases stage with
  | received => cases parent
  | raised exn => cases parent
  | inserted row prepared rest =>
    cases parent
    exact holds.1
  | created row rows =>
    cases parent
    exact holds.1
  | returned row =>
    cases parent
    exact holds.1

theorem TransactionHolds.numbered {child : FieldResponse} (holds : TransactionHolds py call store stage)
    (pending : child ∈ pendingRows stage) : child.id < store.nextFieldResponse := by
  cases stage with
  | created row rows => exact holds.2.numbered child pending
  | _ => cases pending

theorem Apart.symm {other : TransactionStage} (apart : Apart stage other) : Apart other stage := by
  constructor
  · intro row row' parent parent'
    obtain ⟨ids, keys⟩ := apart.parents row' row parent' parent
    exact ⟨ids.symm, fun same => keys ⟨same.1.symm, same.2.symm⟩⟩
  · intro child member child' member'
    exact (apart.children child' member' child member).symm

/-! ### Who holds the index -/

theorem holder_update_iff {holder : Nat × Nat → Option ι} {key changed : Nat × Nat} {value : Option ι} {j : ι}
    (notHeld : holder changed ≠ some j) (notGiven : value ≠ some j) :
    Function.update holder changed value key = some j ↔ holder key = some j := by
  by_cases same : key = changed
  · subst same
    rw [Function.update_self]
    exact iff_of_false notGiven notHeld
  · rw [Function.update_of_ne same]

/-- An open transaction keeps everyone else from its index entry. -/
theorem Consistent.not_held (consistent : Consistent py calls c) (isOpen : IsOpen (c.locals i)) {j : ι}
    (different : j ≠ i) : c.shared.holder (calls i).uniqueKey ≠ some j := by
  intro held
  rw [(consistent.holders _ i).mpr ⟨rfl, isOpen⟩, Option.some.injEq] at held
  exact different held.symm

/-! ### Committing -/

theorem ChildRows.stored {row : SurveyResponse} {rows : List FieldResponse} (children : ChildRows py call store row rows)
    (unused : ∀ stored ∈ store.db.fieldResponses.rows, stored.surveyResponseId ≠ row.id) :
    AnswersStored py call row (store.db.fieldResponses.saveAll rows) := by
  refine ⟨rows, children.distinct.of_map key, fun child => ?_, children.answers⟩
  rw [Table.mem_rows_saveAll children.distinct]
  constructor
  · intro member
    exact ⟨Or.inl member, children.children child member⟩
  · intro saved
    cases saved.1 with
    | inl member => exact member
    | inr stored => exact absurd saved.2 (unused child stored.1)

/-- Rows of another response under new ids do not touch what is stored for this one. -/
theorem AnswersStored.saveAll {row : SurveyResponse} {table : Table FieldResponse} {rows : List FieldResponse}
    (stored : AnswersStored py call row table) (distinct : (rows.map key).Nodup)
    (others : ∀ child ∈ rows, child.surveyResponseId ≠ row.id)
    (new : ∀ child ∈ rows, ∀ old ∈ table.rows, child.id ≠ old.id) :
    AnswersStored py call row (table.saveAll rows) := by
  obtain ⟨answers, nodup, members, ordered⟩ := stored
  refine ⟨answers, nodup, fun child => ?_, ordered⟩
  rw [members, Table.mem_rows_saveAll distinct]
  constructor
  · intro old
    exact ⟨Or.inr ⟨old.1, fun saved member => new saved member child old.1⟩, old.2⟩
  · intro either
    cases either.1 with
    | inl member => exact absurd either.2 (others child member)
    | inr old => exact ⟨old.1, either.2⟩

/-- A step commits, or leaves the committed rows and who returned as they are. -/
theorem TransactionEffect.commits_or_quiet (effect : TransactionEffect py call i store stage store' stage') :
    (∃ row rows, stage = .created row rows ∧ stage' = .returned row ∧
      store' = (store.commit row rows).release call.uniqueKey) ∨
    (store'.db = store.db ∧ store.nextResponse ≤ store'.nextResponse ∧
      store.nextFieldResponse ≤ store'.nextFieldResponse ∧
      ∀ row, stage' = .returned row ↔ stage = .returned row) := by
  cases effect with
  | stays => exact Or.inr ⟨rfl, Nat.le_refl _, Nat.le_refl _, fun _ => Iff.rfl⟩
  | refused => exact Or.inr ⟨rfl, Nat.le_refl _, Nat.le_refl _, fun _ => by simp⟩
  | inserts made allowed free => exact Or.inr ⟨rfl, Nat.le_succ _, Nat.le_refl _, fun _ => by simp⟩
  | prepares ready => exact Or.inr ⟨rfl, Nat.le_refl _, Nat.le_refl _, fun _ => by simp⟩
  | rollsBack => exact Or.inr ⟨rfl, Nat.le_refl _, Nat.le_refl _, fun _ => by simp⟩
  | creates => exact Or.inr ⟨rfl, Nat.le_refl _, Nat.le_add_right _ _, fun _ => by simp⟩
  | commits => exact Or.inl ⟨_, _, rfl, rfl, rfl⟩

theorem TransactionHolds.mono (holds : TransactionHolds py call store stage) (sameDb : store'.db = store.db)
    (responses : store.nextResponse ≤ store'.nextResponse)
    (fieldResponses : store.nextFieldResponse ≤ store'.nextFieldResponse) :
    TransactionHolds py call store' stage := by
  have parent {row : SurveyResponse} (before : ParentRow call store row) : ParentRow call store' row :=
    ⟨before.survey, before.user, Nat.lt_of_lt_of_le before.numbered responses⟩
  cases stage with
  | received => trivial
  | raised exn => trivial
  | inserted row prepared rest => exact ⟨parent holds.1, holds.2⟩
  | created row rows =>
    obtain ⟨before, children⟩ := holds
    refine ⟨parent before, children.distinct, children.children, fun child member => ?_, ?_, children.answers⟩
    · exact Nat.lt_of_lt_of_le (children.numbered child member) fieldResponses
    · rw [sameDb]
      exact children.new
  | returned row =>
    refine ⟨parent holds.1, ?_⟩
    rw [sameDb]
    exact holds.2

/-- The commit of another call's rows. -/
theorem TransactionHolds.commit {row : SurveyResponse} {rows : List FieldResponse} {other : SubmissionCall}
    (holds : TransactionHolds py call store stage) (apart : Apart (.created row rows) stage)
    (children : ChildRows py other store row rows) (changed : Nat × Nat) :
    TransactionHolds py call ((store.commit row rows).release changed) stage := by
  cases stage with
  | received => trivial
  | raised exn => trivial
  | inserted row' prepared rest => exact ⟨⟨holds.1.survey, holds.1.user, holds.1.numbered⟩, holds.2⟩
  | created row' rows' =>
    obtain ⟨parent, mine⟩ := holds
    refine ⟨⟨parent.survey, parent.user, parent.numbered⟩, mine.distinct, mine.children, mine.numbered, ?_, mine.answers⟩
    intro child member stored storedMember
    cases (Table.mem_rows_saveAll children.distinct).mp storedMember with
    | inl theirs => exact (apart.children stored theirs child member).symm
    | inr old => exact mine.new child member stored old.1
  | returned row' =>
    obtain ⟨parent, stored⟩ := holds
    refine ⟨⟨parent.survey, parent.user, parent.numbered⟩, stored.saveAll children.distinct ?_ children.new⟩
    intro child member
    rw [children.children child member]
    exact (apart.parents row row' rfl rfl).1

/-! ### One step -/

theorem parentRow_cases {row : SurveyResponse} (parent : parentRow stage = some row) :
    IsOpen stage ∨ stage = .returned row := by
  cases stage with
  | received => cases parent
  | raised exn => cases parent
  | inserted row prepared rest => exact Or.inl trivial
  | created row rows => exact Or.inl trivial
  | returned row =>
    cases parent
    exact Or.inr rfl

/-- The index keeps an inserted row apart from every other call's. -/
theorem apart_step (consistent : Consistent py calls c) (here : c.locals i = stage)
    (effect : TransactionEffect py (calls i) i c.shared stage store' stage') {j : ι} (different : j ≠ i) :
    Apart stage' (c.locals j) := by
  have before : Apart stage (c.locals j) := here ▸ consistent.apart i j different.symm
  cases effect with
  | stays => exact before
  | refused => exact ⟨nofun, nofun⟩
  | prepares ready => exact ⟨before.parents, before.children⟩
  | rollsBack => exact ⟨nofun, nofun⟩
  | commits => exact ⟨before.parents, nofun⟩
  | creates =>
    refine ⟨before.parents, fun child member child' member' => ?_⟩
    -- the numbers come from the sequence, so no other call and no stored row has them
    have above := (mem_numberRows member).2.1
    have below := (consistent.stages j).numbered member'
    omega
  | @inserts row made allowed free =>
    refine ⟨fun _ row' parent parent' => ?_, nofun⟩
    cases parent
    have theirs := (consistent.stages j).parentRow parent'
    have newId : row.id ≠ row'.id := by
      rw [made]
      exact Nat.ne_of_gt theirs.numbered
    refine ⟨newId, fun same => ?_⟩
    cases parentRow_cases parent' with
    | inl isOpen =>
      -- the other call holds the entry this one found free
      have sameKey : (calls i).uniqueKey = (calls j).uniqueKey := by
        rw [made, theirs.survey, theirs.user] at same
        exact Prod.ext same.1 same.2
      have held := (consistent.holders _ j).mpr ⟨sameKey, isOpen⟩
      rw [free] at held
      cases held
    | inr returned =>
      -- a committed row is what the constraint check saw
      have stored := (consistent.committed row').mpr ⟨j, returned⟩
      exact (surveyResponseConstraints_eq_ok.mp allowed).2 row' stored newId.symm ⟨same.1.symm, same.2.symm⟩

theorem answers_numberRows {answers : List (String × Json)} {prepared : List (Nat × String)}
    (ready : List.Forall₂ (fun answer fieldResponse =>
      prepareFieldResponse py call.encryptValue call.surveyFields answer.1 answer.2 = .ok fieldResponse)
      answers prepared) (surveyResponseId first : Nat) :
    List.Forall₂ (Answers py call) answers (numberRows surveyResponseId first prepared) := by
  induction ready generalizing first with
  | nil => exact .nil
  | cons head tail inductionHypothesis =>
    exact .cons (prepareFieldResponse_eq_ok.mp head) (inductionHypothesis (first + 1))

/-- Nothing is stored under a row that is not committed. -/
theorem Consistent.unused {row : SurveyResponse} (consistent : Consistent py calls c)
    (parent : parentRow (c.locals i) = some row) (notReturned : ∀ row, c.locals i ≠ .returned row) :
    ∀ stored ∈ c.shared.db.fieldResponses.rows, stored.surveyResponseId ≠ row.id := by
  intro stored member sameId
  obtain ⟨_, j, row', returned, owner⟩ := consistent.owned stored member
  have different : i ≠ j := fun same => notReturned row' (same ▸ returned)
  have parent' : parentRow (c.locals j) = some row' := by
    rw [returned]
    rfl
  exact ((consistent.apart i j different).parents row row' parent parent').1 (sameId.symm.trans owner)

theorem own_step (consistent : Consistent py calls c) (here : c.locals i = stage)
    (effect : TransactionEffect py (calls i) i c.shared stage store' stage') :
    TransactionHolds py (calls i) store' stage' := by
  have before : TransactionHolds py (calls i) c.shared stage := here ▸ consistent.stages i
  cases effect with
  | stays => exact before
  | refused => trivial
  | inserts made allowed free =>
    subst made
    exact ⟨⟨rfl, rfl, Nat.lt_succ_self _⟩, [], rfl, .nil⟩
  -- one answer moves from the rest to those prepared
  | @prepares row prepared answer rest fieldResponse ready =>
    obtain ⟨parent, done, split, doneReady⟩ := before
    refine ⟨parent, done ++ [answer], ?_, List.rel_append doneReady (.cons ready .nil)⟩
    rw [split, List.append_assoc, List.singleton_append]
  | rollsBack => trivial
  | @creates row prepared =>
    obtain ⟨parent, done, split, doneReady⟩ := before
    -- the loop is through: every cleaned answer has been prepared
    rw [List.append_nil] at split
    subst split
    refine ⟨⟨parent.survey, parent.user, parent.numbered⟩, nodup_numberRows, ?_, ?_, ?_,
      answers_numberRows doneReady _ _⟩
    · intro child member
      exact (mem_numberRows member).1
    · intro child member
      exact (mem_numberRows member).2.2
    · intro child member stored storedMember
      have above := (mem_numberRows member).2.1
      have below := (consistent.owned stored storedMember).1
      omega
  | @commits row rows =>
    obtain ⟨parent, children⟩ := before
    have parentOfCall : parentRow (c.locals i) = some row := by
      rw [here]
      rfl
    have notReturned : ∀ row, c.locals i ≠ .returned row := by
      intro row returned
      rw [here] at returned
      cases returned
    exact ⟨⟨parent.survey, parent.user, parent.numbered⟩, children.stored (consistent.unused parentOfCall notReturned)⟩

theorem other_step (consistent : Consistent py calls c) (here : c.locals i = stage)
    (effect : TransactionEffect py (calls i) i c.shared stage store' stage') {j : ι} (different : j ≠ i) :
    TransactionHolds py (calls j) store' (c.locals j) := by
  cases effect.commits_or_quiet with
  | inl commits =>
    obtain ⟨row, rows, rfl, rfl, rfl⟩ := commits
    -- the rows of the call that commits are apart from those of this one
    have mine : TransactionHolds py (calls i) c.shared (.created row rows) := here ▸ consistent.stages i
    exact (consistent.stages j).commit (here ▸ consistent.apart i j different.symm) mine.2 _
  | inr quiet =>
    obtain ⟨sameDb, responses, fieldResponses, _⟩ := quiet
    exact (consistent.stages j).mono sameDb responses fieldResponses

theorem consistent_noSubmissions (py : Interpreter) (calls : ι → SubmissionCall) (db : Database) :
    Consistent py calls (noSubmissions db) := by
  constructor
  · exact fun i => trivial
  · exact fun i j different => ⟨nofun, nofun⟩
  · exact fun key i => iff_of_false nofun fun holds => holds.2
  · exact fun row => iff_of_false nofun fun holds => nomatch holds
  · exact nofun

variable [DecidableEq ι]

theorem holders_step (consistent : Consistent py calls c) (here : c.locals i = stage)
    (effect : TransactionEffect py (calls i) i c.shared stage store' stage') (key : Nat × Nat) (j : ι) :
    store'.holder key = some j ↔ key = (calls j).uniqueKey ∧ IsOpen (Function.update c.locals i stage' j) := by
  have before := consistent.holders key j
  by_cases mover : j = i
  · subst mover
    rw [here] at before
    rw [Function.update_self]
    cases effect with
    | stays => exact before
    | refused => exact before
    | inserts made allowed free =>
      by_cases same : key = (calls j).uniqueKey
      · subst same
        simp [IsOpen]
      · simpa [IsOpen, same] using before
    | prepares ready => exact before
    | rollsBack =>
      by_cases same : key = (calls j).uniqueKey
      · subst same
        simp [IsOpen, Store.release]
      · simpa [IsOpen, Store.release, same] using before
    | creates => exact before
    | commits =>
      by_cases same : key = (calls j).uniqueKey
      · subst same
        simp [IsOpen, Store.release]
      · simpa [IsOpen, Store.release, Store.commit, same] using before
  · rw [Function.update_of_ne mover, ← before]
    cases effect with
    | stays => rfl
    | refused => rfl
    | inserts made allowed free =>
      exact holder_update_iff (by simp [free]) (by simpa using Ne.symm mover)
    | prepares ready => rfl
    -- the entry released is that of the call that moved
    | rollsBack => exact holder_update_iff (consistent.not_held (here ▸ trivial) mover) nofun
    | creates => rfl
    | commits => exact holder_update_iff (consistent.not_held (here ▸ trivial) mover) nofun

/-- A step that does not commit leaves who returned as it is. -/
theorem returned_update_iff (here : c.locals i = stage)
    (same : ∀ row, stage' = .returned row ↔ stage = .returned row) (j : ι) (row : SurveyResponse) :
    Function.update c.locals i stage' j = .returned row ↔ c.locals j = .returned row := by
  by_cases mover : j = i
  · subst mover
    rw [Function.update_self, here]
    exact same row
  · rw [Function.update_of_ne mover]

theorem returned_update_of_created {row row' : SurveyResponse} {rows : List FieldResponse} {j : ι}
    (here : c.locals i = .created row rows) (returned : c.locals j = .returned row') :
    j ≠ i ∧ Function.update c.locals i (.returned row) j = .returned row' := by
  have different : j ≠ i := by
    intro same
    subst same
    rw [here] at returned
    cases returned
  exact ⟨different, by rw [Function.update_of_ne different, returned]⟩

theorem committed_step (consistent : Consistent py calls c) (here : c.locals i = stage)
    (effect : TransactionEffect py (calls i) i c.shared stage store' stage') (row : SurveyResponse) :
    row ∈ store'.db.responses.rows ↔ ∃ j, Function.update c.locals i stage' j = .returned row := by
  cases effect.commits_or_quiet with
  | inr quiet =>
    obtain ⟨sameDb, _, _, same⟩ := quiet
    rw [sameDb, consistent.committed]
    exact exists_congr fun j => (returned_update_iff here same j row).symm
  | inl commits =>
    obtain ⟨new, rows, rfl, rfl, rfl⟩ := commits
    apply Table.mem_rows_save.trans
    constructor
    · intro saved
      cases saved with
      | inl same =>
        subst same
        exact ⟨i, Function.update_self ..⟩
      | inr old =>
        obtain ⟨j, returned⟩ := (consistent.committed row).mp old.2
        exact ⟨j, (returned_update_of_created here returned).2⟩
    · intro after
      obtain ⟨j, returned⟩ := after
      by_cases mover : j = i
      · subst mover
        rw [Function.update_self] at returned
        cases returned
        exact Or.inl rfl
      · rw [Function.update_of_ne mover] at returned
        have apart := consistent.apart j i mover
        rw [here, returned] at apart
        exact Or.inr ⟨(apart.parents row new rfl rfl).1, (consistent.committed row).mpr ⟨j, returned⟩⟩

theorem owned_step (consistent : Consistent py calls c) (here : c.locals i = stage)
    (effect : TransactionEffect py (calls i) i c.shared stage store' stage') :
    ∀ child ∈ store'.db.fieldResponses.rows, child.id < store'.nextFieldResponse ∧
      ∃ j row, Function.update c.locals i stage' j = .returned row ∧ child.surveyResponseId = row.id := by
  intro child member
  cases effect.commits_or_quiet with
  | inr quiet =>
    obtain ⟨sameDb, _, fieldResponses, same⟩ := quiet
    rw [sameDb] at member
    obtain ⟨below, j, row, returned, owner⟩ := consistent.owned child member
    exact ⟨Nat.lt_of_lt_of_le below fieldResponses, j, row, (returned_update_iff here same j row).mpr returned, owner⟩
  | inl commits =>
    obtain ⟨new, rows, rfl, rfl, rfl⟩ := commits
    have mine : TransactionHolds py (calls i) c.shared (.created new rows) := here ▸ consistent.stages i
    cases (Table.mem_rows_saveAll mine.2.distinct).mp member with
    | inl created =>
      exact ⟨mine.2.numbered child created, i, new, Function.update_self .., mine.2.children child created⟩
    | inr old =>
      obtain ⟨below, j, row, returned, owner⟩ := consistent.owned child old.1
      exact ⟨below, j, row, (returned_update_of_created here returned).2, owner⟩

theorem Consistent.step (consistent : Consistent py calls c) (i : ι) :
    Consistent py calls (submissionMove py calls c i) := by
  have effect := step_effect py (calls i) i c.shared (c.locals i)
  constructor
  · intro j
    by_cases mover : j = i
    · subst mover
      rw [submissionMove, move_locals_self]
      exact own_step consistent rfl effect
    · rw [submissionMove, move_locals_other _ _ mover]
      exact other_step consistent rfl effect mover
  · exact pairwise_update Apart (fun _ _ => Apart.symm) consistent.apart fun _ => apart_step consistent rfl effect
  · exact holders_step consistent rfl effect
  · exact committed_step consistent rfl effect
  · exact owned_step consistent rfl effect

/-! ### Whole runs -/

theorem Consistent.same_call {row row' : SurveyResponse} {j : ι} (consistent : Consistent py calls c)
    (first : c.locals i = .returned row) (second : c.locals j = .returned row')
    (same : row.id = row'.id ∨ row.surveyId = row'.surveyId ∧ row.userId = row'.userId) : i = j := by
  by_contra different
  -- two calls that returned have rows of different ids and keys
  have apart := consistent.apart i j different
  rw [first, second] at apart
  obtain ⟨ids, keys⟩ := apart.parents row row' rfl rfl
  cases same with
  | inl sameId => exact ids sameId
  | inr sameKey => exact keys sameKey

theorem Consistent.atomic (consistent : Consistent py calls c) : Atomic py calls c := by
  constructor
  · intro row stored other otherStored sameSurvey sameUser
    obtain ⟨i, first⟩ := (consistent.committed row).mp stored
    obtain ⟨j, second⟩ := (consistent.committed other).mp otherStored
    have sameCall := consistent.same_call first second (Or.inr ⟨sameSurvey, sameUser⟩)
    rw [sameCall, second] at first
    cases first
    rfl
  · intro row stored
    obtain ⟨i, returned⟩ := (consistent.committed row).mp stored
    have holds := consistent.stages i
    rw [returned] at holds
    obtain ⟨parent, answers⟩ := holds
    exact ⟨i, returned, fun j also => consistent.same_call also returned (Or.inl rfl), parent.survey, parent.user, answers⟩
  · intro fieldResponse stored
    obtain ⟨_, i, row, returned, owner⟩ := consistent.owned fieldResponse stored
    exact ⟨row, (consistent.committed row).mpr ⟨i, returned⟩, owner⟩
  · intro i row returned
    exact (consistent.committed row).mpr ⟨i, returned⟩
  · intro i exn raised key held
    have isOpen := ((consistent.holders key i).mp held).2
    rw [raised] at isOpen
    exact isOpen

theorem returned_run {row : SurveyResponse} (returned : c.locals i = .returned row) (schedule : List ι) :
    (run (submissionMove py calls) c schedule).locals i = .returned row := by
  have preserved : ∀ (c : Config ι (Store ι) TransactionStage) (j : ι), c.locals i = .returned row →
      (submissionMove py calls c j).locals i = .returned row := by
    intro c j before
    by_cases mover : i = j
    · subst mover
      rw [submissionMove, move_locals_self, before, SubmissionCall.step]
    · rw [submissionMove, move_locals_other _ _ mover, before]
  exact run_invariant preserved returned schedule

/-- Only a call that returns changes the committed rows. -/
theorem raised_unchanged (c : Config ι (Store ι) TransactionStage) (schedule : List ι) :
    Along (submissionMove py calls) (fun c' i =>
      (∃ exn, (run (submissionMove py calls) c schedule).locals i = .raised exn) →
        (submissionMove py calls c' i).shared.db = c'.shared.db) c schedule := by
  induction schedule generalizing c with
  | nil => trivial
  | cons i rest inductionHypothesis =>
    refine ⟨fun raises => ?_, inductionHypothesis _⟩
    obtain ⟨exn, raised⟩ := raises
    cases (step_effect py (calls i) i c.shared (c.locals i)).commits_or_quiet with
    | inr quiet => exact quiet.1
    | inl commits =>
      obtain ⟨row, rows, _, returned, _⟩ := commits
      -- a call that returned does not raise later
      have after : (submissionMove py calls c i).locals i = .returned row := by
        rw [submissionMove, move_locals_self, returned]
      rw [run_cons, returned_run after] at raised
      cases raised

end Invariant

/-- Whatever the order of their steps, calls of `create_submission` are atomic
and unique at every moment, and no step of a call that raises changes what is committed. -/
theorem createSubmission_atomic {ι : Type} [DecidableEq ι] (py : Interpreter) (calls : ι → SubmissionCall)
    (db : Database) (schedule : List ι) :
    (∀ c ∈ trace (submissionMove py calls) (noSubmissions db) schedule, Atomic py calls c) ∧
      Along (submissionMove py calls) (fun c i =>
        (∃ exn, (run (submissionMove py calls) (noSubmissions db) schedule).locals i = .raised exn) →
          (submissionMove py calls c i).shared.db = c.shared.db) (noSubmissions db) schedule := by
  refine ⟨fun c reached => ?_, raised_unchanged _ _⟩
  have preserved : ∀ (c : Config ι (Store ι) TransactionStage) (i : ι), Consistent py calls c →
      Consistent py calls (submissionMove py calls c i) := fun c i consistent => consistent.step i
  have consistent := trace_invariant preserved (consistent_noSubmissions py calls db) schedule c reached
  exact consistent.atomic

end SurveyPlatform.Verified

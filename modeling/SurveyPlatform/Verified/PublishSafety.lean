import SurveyPlatform.Verified.StructureFreeze

/-! # Publishing while sections and fields are edited

Publish requests and requests that create or delete sections and fields run on
one survey, each statement on its own.  Both sides check first and write later.
As long as each check still holds when its write is made, a published survey has
a section, a field in each section, and keeps them (`publishing_safe`).  Nothing
in the code makes it so: `publishing_races` deletes the last field of a section
of a survey that has just been published.
-/

namespace SurveyPlatform.Verified

open SurveyPlatform.Library SurveyPlatform.Library.Program SurveyPlatform.Python SurveyPlatform.Surveys

/-! ## The processes -/

inductive Process where
  | publish (request : UpdateRequest) (stage : UpdateStage)
  | edit (request : EditRequest) (stage : EditStage)

namespace Process

def step (py : Interpreter) (pk : Nat) (w : World) : Process → World × Process
  | publish request stage => ((request.step pk w stage).1, publish request (request.step pk w stage).2)
  | edit request stage => ((request.step py pk w stage).1, edit request (request.step py pk w stage).2)

/-- A request that was just received, and that publishes if it is a survey update. -/
def Starts : Process → Prop
  | publish request stage => stage = .received ∧ request.body.status = .given .published
  | edit _ stage => stage = .received

end Process

section PublishSafety

variable {ι : Type} [DecidableEq ι] (py : Interpreter) (pk : Nat)

def processMove : Config ι World Process → ι → Config ι World Process :=
  move fun _ w process => process.step py pk w

/-- What a process checked before the write it makes next still holds. -/
def CheckHolds (db : Database) : Process → Prop
  | .publish _ (.accepted _ _) => Publishable db pk
  | .edit _ (.checked _) => ¬ Published pk db
  | _ => True

/-- What the stage of a publish request says about the database. -/
def PublishStageHolds (db : Database) : UpdateStage → Prop
  | .loaded current => current.id = pk ∧ (current.status = .published → Published pk db)
  | .accepted current value => current.id = pk ∧ value = .published
  | .validated data left => left.id = pk ∧ (data.assign left).status = .published ∧ Published pk db
  | _ => True

def StageHolds (db : Database) : Process → Prop
  | .publish request stage => request.body.status = .given .published ∧ PublishStageHolds pk db stage
  | .edit _ _ => True

variable {py pk}

/-! ## What a step does to the database -/

inductive StepEffect (pk : Nat) (db : Database) : Process → Database → Prop where
  | quiet {process : Process} : StepEffect pk db process db
  | edited {request : EditRequest} {write : PendingWrite} {db' : Database} (surveys : db'.surveys = db.surveys) :
      StepEffect pk db (.edit request (.checked write)) db'
  | published {request : UpdateRequest} {current : Survey} {value : SurveyStatus}
      (stored : (db.surveys.get pk).isSome = true) :
      StepEffect pk db (.publish request (.accepted current value)) (db.setStatus pk .published)
  | saved {process : Process} {row : Survey} (sameKey : row.id = pk) (status : row.status = .published)
      (before : Published pk db) : StepEffect pk db process { db with surveys := db.surveys.save row }

/-- The checks of an edit only read. -/
theorem final_check (request : EditRequest) (w : World) : final (request.check py pk) w = w := by
  cases request <;>
    simp only [EditRequest.check, requireAdmin, getOr404, ensureDraftSurveyOf, final_query_bind_eq_self, final_pure,
      implies_true]

/-- `perform_create` of a section adds a section of the survey, or changes nothing. -/
theorem final_sectionInsert_db (survey : Survey) (data : SectionData) (w : World) :
    (final (sectionInsert survey data) w).db = w.db ∨ ∃ row : Section, row.surveyId = survey.id ∧
      (final (sectionInsert survey data) w).db = { w.db with
        sections := w.db.sections.insert row.withId row.key_withId } := by
  rw [sectionInsert, final_query_pure_bind, final_bind_of_same World.db fun _ _ => rfl, final_translating]
  cases sectionModel.final_insert_db _ (Section.key_withId _) w with
  | inl same => exact Or.inl same
  | inr added => exact Or.inr ⟨_, rfl, added⟩

theorem final_fieldInsert_db (parent : Section) (data : FieldData) (w : World) :
    (final (fieldInsert parent data) w).db = w.db ∨ ∃ row : Field, row.sectionId = parent.id ∧
      (final (fieldInsert parent data) w).db = { w.db with
        fields := w.db.fields.insert row.withId row.key_withId } := by
  rw [fieldInsert, final_query_pure_bind, final_translating, createField,
    final_bind_of_same World.db fun _ _ => rfl, final_translating]
  cases fieldModel.final_insert_db _ (Field.key_withId _) w with
  | inl same => exact Or.inl same
  | inr added => exact Or.inr ⟨_, rfl, added⟩

/-- The write of an edit leaves the surveys alone. -/
theorem final_perform_surveys (write : PendingWrite) (w : World) :
    (final write.perform w).db.surveys = w.db.surveys := by
  cases write with
  | createSection survey data =>
    rw [PendingWrite.perform, final_bind_of_same World.db fun _ _ => rfl]
    cases final_sectionInsert_db survey data w with
    | inl same => rw [same]
    | inr added =>
      obtain ⟨_, _, added⟩ := added
      rw [added]
  | deleteSection current => rfl
  | createField parent data =>
    rw [PendingWrite.perform, final_bind_of_same World.db fun _ _ => rfl]
    cases final_fieldInsert_db parent data w with
    | inl same => rw [same]
    | inr added =>
      obtain ⟨_, _, added⟩ := added
      rw [added]
  | deleteField current => rfl

theorem step_received_db (request : EditRequest) (w : World) : (request.step py pk w .received).1.db = w.db := by
  have checked : final (request.check py pk) w = w := final_check request w
  unfold final at checked
  unfold EditRequest.step
  cases result : request.check py pk w with
  | ok write w' => rw [result] at checked; exact congrArg World.db checked
  | error exn w' => rw [result] at checked; exact congrArg World.db checked

variable (py) in
theorem Process.step_effect {process : Process} {w : World} (holds : StageHolds pk w.db process) :
    StepEffect pk w.db process (process.step py pk w).1.db := by
  cases process with
  | publish request stage =>
    cases stage with
    | received =>
      rw [Process.step, request.step_received_world]
      exact StepEffect.quiet
    | loaded current =>
      rw [Process.step, request.step_loaded_world]
      exact StepEffect.quiet
    | accepted current value =>
      obtain ⟨_, rfl, rfl⟩ := holds
      cases stored : w.db.surveys.get current.id with
      | none =>
        rw [Process.step, UpdateRequest.step, saveStatus_of_none stored]
        exact StepEffect.quiet
      | some survey =>
        rw [Process.step, UpdateRequest.step, saveStatus_of_some stored]
        exact StepEffect.published (by rw [stored]; rfl)
    | validated data left =>
      obtain ⟨_, sameKey, status, before⟩ := holds
      exact StepEffect.saved sameKey status before
    | finished => exact StepEffect.quiet
  | edit request stage =>
    cases stage with
    | received =>
      rw [Process.step, step_received_db]
      exact StepEffect.quiet
    | checked write => exact StepEffect.edited (final_perform_surveys write w)
    | finished => exact StepEffect.quiet

/-! ## What every step keeps -/

section Kept

variable {process : Process} {db db' : Database}

theorem StepEffect.keepsPublished (effect : StepEffect pk db process db') (published : Published pk db) :
    Published pk db' := by
  cases effect with
  | quiet => exact published
  | edited surveys => rwa [Published, surveys]
  | published stored =>
    obtain ⟨survey, found⟩ := Option.isSome_iff_exists.mp stored
    exact ⟨survey.withStatus .published, by simp [Database.setStatus, found], rfl⟩
  | saved sameKey status before => exact ⟨_, by simp [sameKey], status⟩

/-- A status write finds the survey ready; nothing else makes it published. -/
theorem StepEffect.keepsReady (effect : StepEffect pk db process db') (check : CheckHolds pk db process)
    (ready : Published pk db → Publishable db pk) : Published pk db' → Publishable db' pk := by
  intro published
  cases effect with
  | quiet => exact ready published
  | edited surveys =>
    rw [Published, surveys] at published
    exact absurd published check
  -- the one write that publishes, while its check still holds
  | published stored => exact SameStructure.publishable ⟨rfl, rfl⟩ check
  | saved sameKey status before => exact SameStructure.publishable ⟨rfl, rfl⟩ (ready before)

theorem StepEffect.keepsStructure (effect : StepEffect pk db process db') (check : CheckHolds pk db process)
    (published : Published pk db) : SameStructure db db' pk := by
  cases effect with
  | quiet => exact SameStructure.refl db pk
  -- an edit of a published survey would break its own check
  | edited surveys => exact absurd published check
  | published stored => exact ⟨rfl, rfl⟩
  | saved sameKey status before => exact ⟨rfl, rfl⟩

end Kept

/-- The stage of another process stays true. -/
theorem StageHolds.stable {process : Process} {db db' : Database}
    (keeps : Published pk db → Published pk db') (holds : StageHolds pk db process) : StageHolds pk db' process := by
  cases process with
  | publish request stage =>
    obtain ⟨publishes, holds⟩ := holds
    refine ⟨publishes, ?_⟩
    cases stage with
    | received => trivial
    | loaded current => exact ⟨holds.1, keeps ∘ holds.2⟩
    | accepted current value => exact holds
    -- the instance was published when it was loaded, or by its own transition
    | validated data left => exact ⟨holds.1, holds.2.1, keeps holds.2.2⟩
    | finished => trivial
  | edit request stage => trivial

theorem stageHolds_afterStatus {request : UpdateRequest} {left : Survey} {db : Database}
    (publishes : request.body.status = .given .published) (sameKey : left.id = pk) (before : Published pk db) :
    StageHolds pk db (.publish request (request.afterStatus left)) := by
  refine ⟨publishes, ?_⟩
  cases request.afterStatus_cases left with
  | inl validated =>
    rw [validated]
    exact ⟨sameKey, by simp [SurveyData.assign, publishes, Submitted.value?], before⟩
  | inr finished =>
    rw [finished]
    trivial

/-- A step leaves its own stage true. -/
theorem Process.step_stageHolds {process : Process} {w : World} (holds : StageHolds pk w.db process) :
    StageHolds pk (process.step py pk w).1.db (process.step py pk w).2 := by
  cases process with
  | publish request stage =>
    have publishes := holds.1
    cases stage with
    | received =>
      rw [Process.step, request.step_received_world]
      refine ⟨publishes, ?_⟩
      simp only [UpdateRequest.step]
      cases stored : w.db.surveys.get pk with
      | none => split <;> trivial
      | some current =>
        split
        · exact ⟨w.db.surveys.keyed pk current stored, fun published => ⟨current, stored, published⟩⟩
        · trivial
    | loaded current =>
      rw [Process.step, request.step_loaded_world]
      obtain ⟨_, sameKey, before⟩ := holds
      by_cases same : current.status = .published
      · have next : (request.step pk w (.loaded current)).2 = request.afterStatus current := by
          simp [UpdateRequest.step, publishes, same]
        rw [next]
        exact stageHolds_afterStatus publishes sameKey (before same)
      · refine ⟨publishes, ?_⟩
        have different : ¬ SurveyStatus.published = current.status := fun equal => same equal.symm
        simp only [UpdateRequest.step, publishes, different, if_false]
        cases checkTransition w.db current .published with
        | ok _ => exact ⟨sameKey, rfl⟩
        | error exn => trivial
    | accepted current value =>
      obtain ⟨_, rfl, rfl⟩ := holds
      cases stored : w.db.surveys.get current.id with
      | none =>
        rw [Process.step, UpdateRequest.step, saveStatus_of_none stored]
        exact ⟨publishes, trivial⟩
      | some survey =>
        rw [Process.step, UpdateRequest.step, saveStatus_of_some stored]
        refine stageHolds_afterStatus publishes rfl ?_
        exact ⟨survey.withStatus .published, by simp [Database.setStatus, stored], rfl⟩
    | validated data left => exact ⟨publishes, trivial⟩
    | finished => exact ⟨publishes, trivial⟩
  | edit request stage => trivial

/-! ## Runs -/

/-- A published survey is ready, and every stage is true. -/
def SafeConfig (pk : Nat) : Config ι World Process → Prop :=
  Holds (fun w => Published pk w.db → Publishable w.db pk) (fun _ w process => StageHolds pk w.db process)

theorem safeConfig_step {c : Config ι World Process} {i : ι} (check : CheckHolds pk c.shared.db (c.locals i))
    (safe : SafeConfig pk c) : SafeConfig pk (processMove py pk c i) := by
  -- one step: the mover's stage says what it may write
  have effect := Process.step_effect py (safe.each i)
  apply interference_free safe
  · exact effect.keepsReady check safe.global
  · exact Process.step_stageHolds (safe.each i)
  · intro j _ holds
    exact holds.stable effect.keepsPublished

omit [DecidableEq ι] in
theorem safeConfig_start {start : Config ι World Process} (starts : ∀ i, (start.locals i).Starts)
    (ready : Published pk start.shared.db → Publishable start.shared.db pk) : SafeConfig pk start := by
  refine ⟨ready, fun i => ?_⟩
  have starting := starts i
  cases process : start.locals i with
  | publish request stage =>
    rw [process] at starting
    obtain ⟨rfl, publishes⟩ := starting
    exact ⟨publishes, trivial⟩
  | edit request stage => trivial

/-- In every run in which each check still holds when its write is made, a
published survey has a section, a field in each section, and keeps them all. -/
theorem publishing_safe (py : Interpreter) (pk : Nat) {start : Config ι World Process}
    (starts : ∀ i, (start.locals i).Starts)
    (ready : Published pk start.shared.db → Publishable start.shared.db pk) {schedule : List ι}
    (undisturbed : Along (processMove py pk) (fun c i => CheckHolds pk c.shared.db (c.locals i)) start schedule) :
    (∀ c ∈ trace (processMove py pk) start schedule, Published pk c.shared.db → Publishable c.shared.db pk) ∧
      (trace (processMove py pk) start schedule).Pairwise
        (fun earlier later => Published pk earlier.shared.db →
          Published pk later.shared.db ∧ SameStructure earlier.shared.db later.shared.db pk) := by
  have safe := safeConfig_start starts ready
  have preserved : ∀ (c : Config ι World Process) (i : ι), CheckHolds pk c.shared.db (c.locals i) →
      SafeConfig pk c → SafeConfig pk (processMove py pk c i) := fun c i => safeConfig_step
  constructor
  · intro c member
    exact (undisturbed.trace_invariant preserved safe c member).global
  · have transitive : ∀ a b c : Config ι World Process,
        (Published pk a.shared.db → Published pk b.shared.db ∧ SameStructure a.shared.db b.shared.db pk) →
        (Published pk b.shared.db → Published pk c.shared.db ∧ SameStructure b.shared.db c.shared.db pk) →
        (Published pk a.shared.db → Published pk c.shared.db ∧ SameStructure a.shared.db c.shared.db pk) := by
      intro a b c first second published
      obtain ⟨published, same⟩ := first published
      obtain ⟨published, same'⟩ := second published
      exact ⟨published, same.trans same'⟩
    rw [pairwise_trace_iff transitive]
    refine undisturbed.mono (fun c i safe check published => ?_) preserved safe
    have effect := Process.step_effect py (safe.each i)
    exact ⟨effect.keepsPublished published, effect.keepsStructure check published⟩

end PublishSafety

/-! ## A publication and the deletion of a field -/

/-- `PATCH {"status": "published"}`, and `DELETE` of the only field of the first section. -/
def publishAndDelete (w : World) : Config Bool World Process where
  shared := w
  locals
    | false => .publish ⟨administrator, true, ⟨.missing, .missing, .given .published⟩⟩ .received
    | true => .edit (.destroyField administrator 1 1) .received

theorem publishAndDelete_starts (w : World) : ∀ i, ((publishAndDelete w).locals i).Starts := by
  intro i
  cases i with
  | false => exact ⟨rfl, rfl⟩
  | true => rfl

/-- One request after the other. -/
theorem publishing_safe_oneByOne :
    (∀ c ∈ trace (processMove bareInterpreter 1) (publishAndDelete draftWorld) [false, false, false, false, true, true],
      Published 1 c.shared.db → Publishable c.shared.db 1) ∧
      (trace (processMove bareInterpreter 1) (publishAndDelete draftWorld)
        [false, false, false, false, true, true]).Pairwise
        (fun earlier later => Published 1 earlier.shared.db →
          Published 1 later.shared.db ∧ SameStructure earlier.shared.db later.shared.db 1) := by
  refine publishing_safe bareInterpreter 1 (publishAndDelete_starts draftWorld) ?_ ?_
  · intro holds
    obtain ⟨survey, stored, published⟩ := holds
    cases stored
    cases published
  · refine ⟨trivial, trivial, ?_, trivial, trivial, trivial, trivial⟩
    exact checkPublishable_eq_ok.mp rfl

/-- Both requests pass their checks; then the survey is published, and the field deleted. -/
theorem publishing_races : (∀ i, ((publishAndDelete draftWorld).locals i).Starts) ∧
    ¬ Published 1 draftWorld.db ∧
    ∃ c ∈ trace (processMove bareInterpreter 1) (publishAndDelete draftWorld) [false, false, true, false, true],
      Published 1 c.shared.db ∧ ¬ Publishable c.shared.db 1 := by
  refine ⟨publishAndDelete_starts draftWorld, ?_, _, run_mem_trace _ _, ⟨_, rfl, rfl⟩, ?_⟩
  · intro holds
    obtain ⟨survey, stored, published⟩ := holds
    cases stored
    cases published
  · intro ready
    have passed := checkPublishable_eq_ok.mpr ready
    cases passed

end SurveyPlatform.Verified

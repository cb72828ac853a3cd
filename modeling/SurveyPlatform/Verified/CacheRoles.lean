import SurveyPlatform.Library.Runs
import SurveyPlatform.Verified.CacheCoherence

/-! # The cache and the roles of its readers

An entry holds the sections as the reader who missed sees them, and is returned
to every later reader of the same key.  Reads return to each user the sections
of their own role exactly when no survey with an empty section is read by an
administrator and by somebody else (`reads_own_sections_iff`).
-/

namespace SurveyPlatform.Verified

open SurveyPlatform.Library SurveyPlatform.Library.Program SurveyPlatform.Python SurveyPlatform.Surveys

/-! ## Reads -/

/-- A `retrieve` request. -/
structure Read where
  user : User
  pk : String

def readWorld (w : World) (read : Read) : World := final (surveyRetrieve read.user read.pk) w

/-- `response.data["sections"]` -/
def sectionsEntry : Json → Option Json
  | .object entries => entries.lookup "sections"
  | _ => none

/-- The read returns the sections an uncached one would, or fails as it would. -/
def ReturnsOwnSections (w : World) (read : Read) : Prop :=
  sectionsEntry <$> outcome (surveyRetrieve read.user read.pk) w =
    sectionsEntry <$> outcome (uncachedRetrieve read.user read.pk) w

/-- Every entry is a survey its key looks up, as some role sees it. -/
def EntriesCoherent (w : World) : Prop :=
  ∀ pk data surveyId, w.cache (structureKey pk) = some data → lookupKey pk = some surveyId →
    Serialized w.db surveyId data

def NoEmptySection (db : Database) (surveyId : Nat) : Prop :=
  ∀ row ∈ db.sectionsOf surveyId, db.fieldsOf row.id ≠ []

/-- A survey with an empty section is read by administrators only or by others
only, and its entry, if there is one, is what these readers see. -/
def Unmixed (w : World) (reads : List Read) : Prop :=
  ∀ read ∈ reads, ∀ survey, visibleSurvey read.user read.pk w.db = some survey →
    NoEmptySection w.db survey.id ∨
      (∀ data, w.cache (structureKey read.pk) = some data → data = surveyJson w.db read.user.role survey) ∧
        ∀ other ∈ reads, other.pk = read.pk → (visibleSurvey other.user other.pk w.db).isSome = true →
          (other.user.role = .admin ↔ read.user.role = .admin)

section Views

variable {db : Database} {survey : Survey} {role role' : Role}

theorem sectionsEntry_surveyJson : sectionsEntry (surveyJson db role survey) =
    some (.list ((getSections db role survey.id).map (sectionJson db))) := rfl

/-- Two roles see the same survey when they see the same sections. -/
theorem surveyJson_eq_iff : surveyJson db role survey = surveyJson db role' survey ↔
    sectionsEntry (surveyJson db role survey) = sectionsEntry (surveyJson db role' survey) := by
  constructor
  · intro same
    rw [same]
  · intro same
    rw [sectionsEntry_surveyJson, sectionsEntry_surveyJson, Option.some.injEq] at same
    rw [surveyJson, surveyJson, same]

theorem getSections_admin (surveyId : Nat) :
    getSections db .admin surveyId = ordered Section.order (db.sectionsOf surveyId) := rfl

theorem getSections_of_ne_admin (other : role ≠ .admin) (surveyId : Nat) : getSections db role surveyId =
    (ordered Section.order (db.sectionsOf surveyId)).filter fun row => db.fieldsOf row.id ≠ [] :=
  if_pos other

/-- The sections other roles see are all sections exactly when none is empty. -/
theorem filter_sections_iff {surveyId : Nat} :
    ((ordered Section.order (db.sectionsOf surveyId)).filter fun row => db.fieldsOf row.id ≠ []).map (sectionJson db) =
      (ordered Section.order (db.sectionsOf surveyId)).map (sectionJson db) ↔ NoEmptySection db surveyId := by
  have all : NoEmptySection db surveyId ↔
      ∀ row ∈ ordered Section.order (db.sectionsOf surveyId), db.fieldsOf row.id ≠ [] := by
    simp only [NoEmptySection, ordered, List.mem_mergeSort]
  rw [all]
  constructor
  · intro same
    have lengths := congrArg List.length same
    rw [List.length_map, List.length_map, List.length_filter_eq_length_iff] at lengths
    simpa using lengths
  · intro nonempty
    rw [List.filter_eq_self.mpr]
    simpa using nonempty

/-- Two roles see the same sections when none is empty, or when both or neither administrate. -/
theorem sameSections_iff :
    sectionsEntry (surveyJson db role survey) = sectionsEntry (surveyJson db role' survey) ↔
      NoEmptySection db survey.id ∨ (role = .admin ↔ role' = .admin) := by
  rw [sectionsEntry_surveyJson, sectionsEntry_surveyJson, Option.some.injEq, Json.list.injEq]
  by_cases admin : role = .admin <;> by_cases admin' : role' = .admin
  · subst admin admin'
    simp
  · subst admin
    rw [getSections_admin, getSections_of_ne_admin admin', eq_comm, filter_sections_iff]
    simp [admin']
  · subst admin'
    rw [getSections_admin, getSections_of_ne_admin admin, filter_sections_iff]
    simp [admin]
  · rw [getSections_of_ne_admin admin, getSections_of_ne_admin admin']
    simp [admin, admin']

end Views

/-! ## One read -/

section Reads

variable {w : World} {read : Read} {survey : Survey}

theorem readWorld_of_missing (missing : visibleSurvey read.user read.pk w.db = none) : readWorld w read = w := by
  rw [readWorld, surveyRetrieve, final_of_error (getOr404_bind_of_none missing)]

theorem returnsOwnSections_of_missing (missing : visibleSurvey read.user read.pk w.db = none) :
    ReturnsOwnSections w read := by
  simp only [ReturnsOwnSections, outcome, surveyRetrieve, uncachedRetrieve, getOr404_bind_of_none missing]

/-- An entry is returned as it is. -/
theorem surveyRetrieve_of_entry {data : Json} (found : visibleSurvey read.user read.pk w.db = some survey)
    (cached : w.cache (structureKey read.pk) = some data) (truthy : data.truthy = true) :
    surveyRetrieve read.user read.pk w = .ok data w := by
  rw [surveyRetrieve, getOr404_bind_of_some found, getStructure_bind, cached, Option.filter_some_pos truthy]
  rfl

/-- A miss answers with the survey as the reader sees it, and keeps it. -/
theorem surveyRetrieve_of_miss (found : visibleSurvey read.user read.pk w.db = some survey)
    (missed : w.cache (structureKey read.pk) = none) :
    surveyRetrieve read.user read.pk w = .ok (surveyJson w.db read.user.role survey)
      (w.withEntry read.pk (surveyJson w.db read.user.role survey)) := by
  rw [surveyRetrieve, getOr404_bind_of_some found, getStructure_bind, missed]
  show (uncachedRetrieve read.user read.pk >>= _) w = _
  rw [bind_of_ok (uncachedRetrieve_of_visible found)]
  rfl

theorem returnsOwnSections_of_entry {data : Json} (found : visibleSurvey read.user read.pk w.db = some survey)
    (cached : w.cache (structureKey read.pk) = some data) (truthy : data.truthy = true) :
    ReturnsOwnSections w read ↔
      sectionsEntry data = sectionsEntry (surveyJson w.db read.user.role survey) := by
  simp only [ReturnsOwnSections, outcome, surveyRetrieve_of_entry found cached truthy,
    uncachedRetrieve_of_visible found, Functor.map, Except.map, Except.ok.injEq]

theorem returnsOwnSections_of_miss (found : visibleSurvey read.user read.pk w.db = some survey)
    (missed : w.cache (structureKey read.pk) = none) : ReturnsOwnSections w read := by
  simp only [ReturnsOwnSections, outcome, surveyRetrieve_of_miss found missed, uncachedRetrieve_of_visible found]

theorem EntriesCoherent.withEntry (coherent : EntriesCoherent w)
    (found : visibleSurvey read.user read.pk w.db = some survey) :
    EntriesCoherent (w.withEntry read.pk (surveyJson w.db read.user.role survey)) := by
  obtain ⟨parsed, stored, _⟩ := visibleSurvey_eq_some.mp found
  intro pk data surveyId entry isKey
  simp only [World.withEntry] at entry
  by_cases same : structureKey pk = structureKey read.pk
  · rw [structureKey_injective same, parsed, Option.some.injEq] at isKey
    rw [same, Function.update_self, Option.some.injEq] at entry
    subst isKey
    exact ⟨survey, read.user.role, stored, entry.symm⟩
  · rw [Function.update_of_ne same] at entry
    exact coherent pk data surveyId entry isKey

/-- The entry a read finds is the survey as some role sees it. -/
theorem EntriesCoherent.entry {data : Json} (coherent : EntriesCoherent w)
    (found : visibleSurvey read.user read.pk w.db = some survey) (cached : w.cache (structureKey read.pk) = some data) :
    ∃ role, data = surveyJson w.db role survey := by
  obtain ⟨parsed, stored, _⟩ := visibleSurvey_eq_some.mp found
  obtain ⟨other, role, otherStored, rfl⟩ := coherent read.pk data survey.id cached parsed
  rw [stored, Option.some.injEq] at otherStored
  exact ⟨role, otherStored ▸ rfl⟩

end Reads

/-! ## Sequences of reads -/

/-- Each read sees what the entry of its key holds, and what the other readers of the key see. -/
def Agreeing (w : World) (reads : List Read) : Prop :=
  ∀ read ∈ reads, ∀ survey, visibleSurvey read.user read.pk w.db = some survey →
    (∀ data, w.cache (structureKey read.pk) = some data →
      sectionsEntry data = sectionsEntry (surveyJson w.db read.user.role survey)) ∧
    ∀ other ∈ reads, other.pk = read.pk → (visibleSurvey other.user other.pk w.db).isSome = true →
      sectionsEntry (surveyJson w.db other.user.role survey) = sectionsEntry (surveyJson w.db read.user.role survey)

section Sequences

variable {w : World}

theorem unmixed_iff_agreeing (coherent : EntriesCoherent w) (reads : List Read) : Unmixed w reads ↔ Agreeing w reads := by
  constructor
  · intro unmixed read member survey found
    constructor
    · intro data cached
      obtain ⟨role, rfl⟩ := coherent.entry found cached
      obtain none | ⟨sameEntry, _⟩ := unmixed read member survey found
      · exact sameSections_iff.mpr (Or.inl none)
      · rw [sameEntry _ cached]
    · intro other otherMember samePk otherFound
      apply sameSections_iff.mpr
      obtain none | ⟨_, sameClass⟩ := unmixed read member survey found
      · exact Or.inl none
      · exact Or.inr (sameClass other otherMember samePk otherFound)
  · intro agreeing read member survey found
    refine or_iff_not_imp_left.mpr fun someEmpty => ?_
    obtain ⟨sameEntry, sameOthers⟩ := agreeing read member survey found
    constructor
    · intro data cached
      obtain ⟨role, rfl⟩ := coherent.entry found cached
      exact surveyJson_eq_iff.mpr (sameEntry _ cached)
    · intro other otherMember samePk otherFound
      exact (sameSections_iff.mp (sameOthers other otherMember samePk otherFound)).resolve_left someEmpty

/-- A key finds one survey, whoever reads. -/
theorem visibleSurvey_unique {db : Database} {user user' : User} {pk : String} {survey survey' : Survey}
    (found : visibleSurvey user pk db = some survey) (found' : visibleSurvey user' pk db = some survey') :
    survey' = survey := by
  obtain ⟨parsed, stored, _⟩ := visibleSurvey_eq_some.mp found
  obtain ⟨parsed', stored', _⟩ := visibleSurvey_eq_some.mp found'
  rw [parsed, Option.some.injEq] at parsed'
  rw [← parsed', stored, Option.some.injEq] at stored'
  exact stored'.symm

theorem agreeing_cons (read : Read) (rest : List Read) : Agreeing w (read :: rest) ↔
    (∀ survey, visibleSurvey read.user read.pk w.db = some survey →
      (∀ data, w.cache (structureKey read.pk) = some data →
        sectionsEntry data = sectionsEntry (surveyJson w.db read.user.role survey)) ∧
      ∀ other ∈ rest, other.pk = read.pk → (visibleSurvey other.user other.pk w.db).isSome = true →
        sectionsEntry (surveyJson w.db other.user.role survey) = sectionsEntry (surveyJson w.db read.user.role survey)) ∧
      Agreeing w rest := by
  constructor
  · intro agreeing
    constructor
    · intro survey found
      obtain ⟨entry, others⟩ := agreeing read List.mem_cons_self survey found
      exact ⟨entry, fun other member => others other (List.mem_cons_of_mem _ member)⟩
    · intro later member survey found
      obtain ⟨entry, others⟩ := agreeing later (List.mem_cons_of_mem _ member) survey found
      exact ⟨entry, fun other otherMember => others other (List.mem_cons_of_mem _ otherMember)⟩
  · intro holds
    obtain ⟨head, tail⟩ := holds
    intro later member survey found
    cases List.mem_cons.mp member with
    | inl same =>
      subst same
      obtain ⟨entry, others⟩ := head survey found
      refine ⟨entry, fun other otherMember samePk otherFound => ?_⟩
      cases List.mem_cons.mp otherMember with
      | inl same => rw [same]
      | inr inRest => exact others other inRest samePk otherFound
    | inr inRest =>
      obtain ⟨entry, others⟩ := tail later inRest survey found
      refine ⟨entry, fun other otherMember samePk otherFound => ?_⟩
      cases List.mem_cons.mp otherMember with
      | inl same =>
        subst same
        -- what the first read sees, seen from a later one
        obtain ⟨first, firstFound⟩ := Option.isSome_iff_exists.mp otherFound
        have sameSurvey : survey = first := visibleSurvey_unique firstFound (samePk ▸ found)
        subst sameSurvey
        exact ((head survey firstFound).2 later inRest samePk.symm (by rw [found]; rfl)).symm
      | inr otherInRest => exact others other otherInRest samePk otherFound

/-- After a miss the rest agrees with the new entry exactly when it agreed with the reader who left it. -/
theorem agreeing_withEntry {read : Read} {survey : Survey} {rest : List Read}
    (found : visibleSurvey read.user read.pk w.db = some survey) (missed : w.cache (structureKey read.pk) = none) :
    Agreeing (w.withEntry read.pk (surveyJson w.db read.user.role survey)) rest ↔
      (∀ other ∈ rest, other.pk = read.pk → (visibleSurvey other.user other.pk w.db).isSome = true →
        sectionsEntry (surveyJson w.db other.user.role survey) = sectionsEntry (surveyJson w.db read.user.role survey)) ∧
      Agreeing w rest := by
  have entryAt : ∀ other : Read, (w.withEntry read.pk (surveyJson w.db read.user.role survey)).cache
      (structureKey other.pk) = if other.pk = read.pk then some (surveyJson w.db read.user.role survey)
        else w.cache (structureKey other.pk) := by
    intro other
    simp only [World.withEntry]
    split
    · rename_i samePk
      rw [samePk, Function.update_self]
    · rename_i otherPk
      exact Function.update_of_ne (fun sameKey => otherPk (structureKey_injective sameKey)) _ _
  constructor
  · intro agreeing
    constructor
    · intro other member samePk otherFound
      obtain ⟨otherSurvey, otherFound⟩ := Option.isSome_iff_exists.mp otherFound
      have sameSurvey : otherSurvey = survey := visibleSurvey_unique found (samePk ▸ otherFound)
      subst sameSurvey
      have entry := (agreeing other member otherSurvey otherFound).1
      rw [entryAt, if_pos samePk] at entry
      exact (entry _ rfl).symm
    · intro later member laterSurvey laterFound
      obtain ⟨entry, others⟩ := agreeing later member laterSurvey laterFound
      refine ⟨fun data cached => ?_, others⟩
      by_cases samePk : later.pk = read.pk
      · rw [samePk, missed] at cached
        cases cached
      · rw [entryAt, if_neg samePk] at entry
        exact entry data cached
  · intro holds
    obtain ⟨head, tail⟩ := holds
    intro later member laterSurvey laterFound
    obtain ⟨entry, others⟩ := tail later member laterSurvey laterFound
    refine ⟨fun data cached => ?_, others⟩
    rw [entryAt] at cached
    split at cached
    · rename_i samePk
      have sameSurvey : laterSurvey = survey := visibleSurvey_unique found (samePk ▸ laterFound)
      have laterSome : (visibleSurvey later.user later.pk w.db).isSome = true :=
        Option.isSome_iff_exists.mpr ⟨laterSurvey, laterFound⟩
      subst sameSurvey
      cases cached
      exact (head later member samePk laterSome).symm
    · exact entry data cached

theorem along_returnsOwnSections_iff (coherent : EntriesCoherent w) (reads : List Read) :
    Along readWorld ReturnsOwnSections w reads ↔ Agreeing w reads := by
  induction reads generalizing w with
  | nil => simp [Along, Agreeing]
  | cons read rest inductionHypothesis =>
    rw [Along, agreeing_cons]
    cases found : visibleSurvey read.user read.pk w.db with
    | none =>
      rw [readWorld_of_missing found, inductionHypothesis coherent]
      simp [returnsOwnSections_of_missing found]
    | some survey =>
      cases cached : w.cache (structureKey read.pk) with
      | some data =>
        have truthy : data.truthy = true := by
          obtain ⟨role, rfl⟩ := coherent.entry found cached
          rfl
        have same : readWorld w read = w := by rw [readWorld, final_of_ok (surveyRetrieve_of_entry found cached truthy)]
        rw [same, inductionHypothesis coherent, returnsOwnSections_of_entry found cached truthy]
        simp only [Option.some.injEq, forall_eq']
        constructor
        · intro holds
          obtain ⟨own, agreeing⟩ := holds
          refine ⟨⟨own, fun other member samePk otherFound => ?_⟩, agreeing⟩
          -- both see what the entry holds
          obtain ⟨otherSurvey, otherFound⟩ := Option.isSome_iff_exists.mp otherFound
          have sameSurvey : otherSurvey = survey := visibleSurvey_unique found (samePk ▸ otherFound)
          subst sameSurvey
          rw [← own]
          exact ((agreeing other member otherSurvey otherFound).1 data (samePk ▸ cached)).symm
        · intro holds
          exact ⟨holds.1.1, holds.2⟩
      | none =>
        have filled := surveyRetrieve_of_miss found cached
        rw [readWorld, final_of_ok filled, inductionHypothesis (coherent.withEntry found),
          agreeing_withEntry found cached]
        simp [returnsOwnSections_of_miss found cached]

/-- Every reader gets the sections of their own role exactly when no survey with
an empty section is read by both administrators and others under one key. -/
theorem reads_own_sections_iff (coherent : EntriesCoherent w) (reads : List Read) :
    Along readWorld ReturnsOwnSections w reads ↔ Unmixed w reads :=
  (along_returnsOwnSections_iff coherent reads).trans (unmixed_iff_agreeing coherent reads).symm

end Sequences

/-! ## A survey with an empty section -/

/-- A survey with one section and no field, nothing cached. -/
def emptySectionWorld : World :=
  { run (handle bareInterpreter) World.empty
      [adminCall (.createSurvey ⟨.given "Health", .missing, .missing⟩),
        adminCall (.createSection 1 ⟨.given "You", .missing, .missing⟩)] with
    cache := fun _ => none }

def viewer : User := ⟨2, .dataViewer⟩

theorem emptySectionWorld_coherent : EntriesCoherent emptySectionWorld := by
  intro pk data surveyId entry isKey
  cases entry

/-- Administrators read the survey one after the other. -/
theorem reads_own_sections_admins :
    Along readWorld ReturnsOwnSections emptySectionWorld [⟨administrator, "1"⟩, ⟨administrator, "1"⟩] :=
  (reads_own_sections_iff emptySectionWorld_coherent _).mpr (by
    have admin : ∀ read ∈ [(⟨administrator, "1"⟩ : Read), ⟨administrator, "1"⟩], read.user.role = .admin := by decide
    intro read member survey found
    refine Or.inr ⟨fun data cached => ?_, fun other otherMember samePk otherFound => ?_⟩
    · cases cached
    · exact iff_of_true (admin other otherMember) (admin read member))

/-- A data viewer is shown the empty section an administrator's read left in the cache. -/
theorem reads_not_own_sections_viewer : EntriesCoherent emptySectionWorld ∧
    ¬ Along readWorld ReturnsOwnSections emptySectionWorld [⟨administrator, "1"⟩, ⟨viewer, "1"⟩] := by
  refine ⟨emptySectionWorld_coherent, fun own => ?_⟩
  obtain ⟨-, viewed, -⟩ := own
  have bothEmpty := congrArg (fun sections => sections.toOption.join.map Json.truthy) viewed
  revert bothEmpty
  decide +kernel

end SurveyPlatform.Verified

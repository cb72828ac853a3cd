import SurveyPlatform.Audit.Signals
import Mathlib.Data.List.Dedup
import Mathlib.Data.List.Perm.Basic

/-! # What a delete collects

The collector finds exactly the rows that a cascading delete removes, so the
signals of a delete and the rows that are gone are the same up to order
(`perm_deletions`).
-/

namespace SurveyPlatform.Verified

open SurveyPlatform.Library SurveyPlatform.Surveys
open SurveyPlatform.Audit (ModelClass AuditTask RowChange ThreadLocal trackedModels keysWhere stores storedKeys
  deletions auditPostDelete Collected reached signalled collectFields collectSections collectResponses collectSurvey)

/-! ## Keys -/

section Keys

variable {α : Type} [Keyed α] {table : Table α} {selected : α → Bool} {id : Nat}

theorem mem_keysWhere : id ∈ keysWhere table selected ↔ ∃ row, table.get id = some row ∧ selected row = true := by
  simp only [keysWhere, List.mem_map, List.mem_filter, Table.mem_rows]
  constructor
  · intro holds
    obtain ⟨row, ⟨stored, isSelected⟩, rfl⟩ := holds
    exact ⟨row, stored, isSelected⟩
  · intro holds
    obtain ⟨row, stored, isSelected⟩ := holds
    have sameKey : key row = id := table.keyed id row stored
    exact ⟨row, ⟨sameKey ▸ stored, isSelected⟩, sameKey⟩

theorem mem_map_rows : id ∈ table.rows.map key ↔ (table.get id).isSome = true := by
  have found := @mem_keysWhere α _ table (fun _ => true) id
  rw [keysWhere, List.filter_true] at found
  simp [found, Option.isSome_iff_exists]

/-- A row went when it was stored and is selected. -/
theorem deleted_iff : ((table.get id).isSome = true ∧ ((table.deleteWhere selected).get id).isSome = false) ↔
    ∃ row, table.get id = some row ∧ selected row = true := by
  simp only [Table.deleteWhere]
  cases table.get id with
  | none => simp
  | some row => simp [Option.filter]

theorem mem_storedKeys {db : Database} {model : ModelClass} : id ∈ storedKeys db model ↔ stores db model id = true := by
  cases model <;> exact mem_map_rows

theorem nodup_storedKeys (db : Database) (model : ModelClass) : (storedKeys db model).Nodup := by
  cases model <;> exact Table.nodup_rows _

end Keys

/-! ## The rows that are gone -/

/-- Stored before, and no longer after. -/
def Gone (before after : Database) (model : ModelClass) (id : Nat) : Prop :=
  stores before model id = true ∧ stores after model id = false

/-- The collector finds what the statement removes. -/
def Collects (db : Database) (collect : Database → List Collected) (change : Database → Database) : Prop :=
  ∀ model id, (∃ source, ⟨source, model, id⟩ ∈ collect db) ↔ Gone db (change db) model id

/-- The rows of tracked models that are gone, by model and key. -/
def goneInstances (before after : Database) : List (ModelClass × Nat) :=
  trackedModels.flatMap fun model =>
    ((storedKeys before model).filter fun id => !stores after model id).map (model, ·)

theorem mem_goneInstances {before after : Database} {model : ModelClass} {id : Nat} :
    (model, id) ∈ goneInstances before after ↔ model ∈ trackedModels ∧ Gone before after model id := by
  simp only [goneInstances, Gone, List.mem_flatMap, List.mem_map, List.mem_filter, mem_storedKeys, Prod.mk.injEq,
    Bool.not_eq_true']
  constructor
  · intro holds
    obtain ⟨_, tracked, _, gone, rfl, rfl⟩ := holds
    exact ⟨tracked, gone⟩
  · intro holds
    exact ⟨model, holds.1, id, holds.2, rfl, rfl⟩

theorem nodup_goneInstances (before after : Database) : (goneInstances before after).Nodup := by
  rw [goneInstances, List.nodup_flatMap]
  constructor
  · intro model _
    apply List.Nodup.map fun _ _ same => congrArg Prod.snd same
    exact (nodup_storedKeys before model).filter _
  · have distinct : trackedModels.Nodup := by decide
    refine distinct.imp fun {model other} different => ?_
    intro item first second
    obtain ⟨_, _, rfl⟩ := List.mem_map.mp first
    obtain ⟨_, _, same⟩ := List.mem_map.mp second
    exact different (congrArg Prod.fst same).symm

theorem deletions_eq (before after : Database) :
    deletions before after = (goneInstances before after).map fun (model, id) => .deleted model id := by
  simp only [deletions, goneInstances, List.map_flatMap, List.map_map]
  rfl

/-- The signals that the receiver does not ignore. -/
theorem map_entry_auditPostDelete (context : ThreadLocal) (instances : List (ModelClass × Nat)) :
    (instances.filterMap fun (sender, pk) => auditPostDelete context sender pk).map AuditTask.entry =
      (instances.filter (·.1 ∈ trackedModels)).map fun (model, id) => (RowChange.deleted model id).entry := by
  induction instances with
  | nil => rfl
  | cons head rest inductionHypothesis =>
    obtain ⟨model, id⟩ := head
    by_cases tracked : model ∈ trackedModels
    · have sent : auditPostDelete context model id = some _ := if_pos tracked
      simp only [List.filterMap_cons, sent, List.map_cons, inductionHypothesis, tracked, decide_true,
        List.filter_cons_of_pos]
      rfl
    · have ignored : auditPostDelete context model id = none := if_neg tracked
      simp only [List.filterMap_cons, ignored, inductionHypothesis, tracked, decide_false, Bool.false_eq_true,
        not_false_eq_true, List.filter_cons_of_neg]

theorem nodup_signalled (collected : List Collected) : (signalled collected).Nodup :=
  (List.perm_insertionSort _ _).nodup_iff.mpr (List.nodup_dedup _)

theorem mem_signalled {collected : List Collected} {model : ModelClass} {id : Nat} :
    (model, id) ∈ signalled collected ↔ ∃ source, ⟨source, model, id⟩ ∈ collected := by
  rw [signalled, List.mem_insertionSort, List.mem_dedup, List.mem_map]
  constructor
  · intro holds
    obtain ⟨⟨source, _, _⟩, member, same⟩ := holds
    cases same
    exact ⟨source, member⟩
  · intro holds
    obtain ⟨source, member⟩ := holds
    exact ⟨_, member, rfl⟩

/-- One task for each row that is gone. -/
theorem perm_deletions {db : Database} {collect : Database → List Collected} {change : Database → Database}
    (collects : Collects db collect change) (context : ThreadLocal) :
    (((signalled (collect db)).filterMap fun (sender, pk) => auditPostDelete context sender pk).map
        AuditTask.entry).Perm
      ((deletions db (change db)).map RowChange.entry) := by
  have sameInstances : ((signalled (collect db)).filter (·.1 ∈ trackedModels)).Perm
      (goneInstances db (change db)) := by
    apply (List.perm_ext_iff_of_nodup ((nodup_signalled _).filter _) (nodup_goneInstances _ _)).mpr
    intro item
    obtain ⟨model, id⟩ := item
    rw [mem_goneInstances, List.mem_filter, mem_signalled, collects, and_comm, decide_eq_true_eq]
  rw [map_entry_auditPostDelete, deletions_eq, List.map_map]
  exact sameInstances.map _

/-! ## Cascades -/

theorem mem_reached {source other : Option ModelClass} {model target : ModelClass} {id : Nat} {keys : List Nat} :
    ⟨source, model, id⟩ ∈ reached other target keys ↔ source = other ∧ model = target ∧ id ∈ keys := by
  simp only [reached, List.mem_map, Collected.mk.injEq]
  constructor
  · intro holds
    obtain ⟨_, member, rfl, rfl, rfl⟩ := holds
    exact ⟨rfl, rfl, member⟩
  · intro holds
    exact ⟨id, holds.2.2, holds.1.symm, holds.2.1.symm, rfl⟩

section Cascades

variable {α : Type}

/-- Reached in either of two ways. -/
theorem or_selected {row? : Option α} {first second : α → Bool} :
    ((∃ row, row? = some row ∧ first row = true) ∨ ∃ row, row? = some row ∧ second row = true) ↔
      ∃ row, row? = some row ∧ (first row || second row) = true := by
  cases row? <;> simp

theorem deleteWhere_deleteWhere [Keyed α] (table : Table α) (first second : α → Bool) :
    (table.deleteWhere first).deleteWhere second = table.deleteWhere fun row => first row || second row := by
  ext1
  · funext id
    simp only [Table.deleteWhere]
    cases table.get id with
    | none => rfl
    | some row => cases selected : first row <;> simp [Option.filter, selected]
  · rfl

/-- A table the statement does not touch. -/
theorem not_gone {stored : Bool} : ¬ (stored = true ∧ stored = false) := by
  cases stored <;> simp

/-- The row with the key of a stored row is that row. -/
theorem selected_key_iff [Keyed α] {table : Table α} {row : α} {id : Nat} (stored : table.get (key row) = some row) :
    id = key row ↔ ∃ other, table.get id = some other ∧ (key other == key row) = true := by
  constructor
  · intro same
    exact ⟨row, same ▸ stored, beq_self_eq_true _⟩
  · intro holds
    obtain ⟨other, found, sameKey⟩ := holds
    rw [← table.keyed id other found, eq_of_beq sameKey]

end Cascades

section Collectors

variable (db : Database)

theorem collectFields_collects (gone : Nat → Bool) :
    Collects db (collectFields none gone) (·.deleteFields gone) := by
  intro model id
  simp only [collectFields, List.mem_append, exists_or, mem_reached, exists_eq_left, mem_keysWhere, Gone]
  cases model <;>
    simp only [stores, Database.deleteFields, deleted_iff, not_gone, reduceCtorEq, false_and, true_and, or_false,
      false_or, or_selected]

theorem collectSections_collects (gone : Nat → Bool) :
    Collects db (collectSections none gone) (·.deleteSections gone) := by
  intro model id
  simp only [collectSections, collectFields, List.mem_append, exists_or, mem_reached, exists_eq_left, mem_keysWhere, Gone]
  cases model <;>
    simp only [stores, Database.deleteSections, Database.deleteFields, deleteWhere_deleteWhere, deleted_iff, not_gone,
      reduceCtorEq, false_and, true_and, or_false, false_or, or_selected]

theorem collectSurvey_collects (surveyId : Nat) : Collects db (collectSurvey surveyId) (·.deleteSurvey surveyId) := by
  intro model id
  simp only [collectSurvey, collectSections, collectFields, collectResponses, List.mem_append, exists_or, mem_reached,
    exists_eq_left, mem_keysWhere, Gone]
  cases model <;>
    simp only [stores, Database.deleteSurvey, Database.deleteResponses, Database.deleteSections, Database.deleteFields,
      deleteWhere_deleteWhere, deleted_iff, reduceCtorEq, false_and, true_and, or_false, false_or, or_selected]

variable {db}

/-- Nothing refers to a rule, so a stored one is all there is to collect. -/
theorem conditionalRule_collects {rule : ConditionalRule} (stored : db.conditionalRules.get rule.id = some rule) :
    Collects db (fun _ => [⟨none, .conditionalRules, rule.id⟩])
      fun db => { db with conditionalRules := db.conditionalRules.deleteWhere (·.id == rule.id) } := by
  intro model id
  simp only [List.mem_singleton, Collected.mk.injEq, exists_eq_left, Gone]
  cases model <;>
    simp only [stores, deleted_iff, not_gone, reduceCtorEq, false_and, true_and]
  exact selected_key_iff stored

theorem fieldDependency_collects {dep : FieldDependency} (stored : db.fieldDependencies.get dep.id = some dep) :
    Collects db (fun _ => [⟨none, .fieldDependencies, dep.id⟩])
      fun db => { db with fieldDependencies := db.fieldDependencies.deleteWhere (·.id == dep.id) } := by
  intro model id
  simp only [List.mem_singleton, Collected.mk.injEq, exists_eq_left, Gone]
  cases model <;>
    simp only [stores, deleted_iff, not_gone, reduceCtorEq, false_and, true_and]
  exact selected_key_iff stored

end Collectors

end SurveyPlatform.Verified

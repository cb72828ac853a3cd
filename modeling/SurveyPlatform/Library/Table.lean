import Mathlib.Data.List.Nodup
import Mathlib.Data.List.Range
import Mathlib.Logic.Function.Basic
import Mathlib.Tactic.Common

/-! # Database tables with a primary-key sequence

A table maps primary keys to rows and remembers the next key its sequence will
hand out.  Keys are never reused: `fresh` says that nothing is stored at or
above `next`, and no operation lowers `next`.

Each operation comes with its `get` equation, and `rows` (what a query scans)
with `mem_rows`; nothing else about a table is ever unfolded.
-/

namespace SurveyPlatform.Library

/-- Selections that agree hold the same selected rows. -/
theorem eq_some_iff_of_filter {α : Type*} {before after : Option α} {selected : α → Bool} {row : α}
    (agree : after.filter selected = before.filter selected) (isSelected : selected row = true) :
    after = some row ↔ before = some row := by
  have keeps : ∀ stored : Option α, stored.filter selected = some row ↔ stored = some row := by
    intro stored
    rw [Option.filter_eq_some_iff]
    exact and_iff_left isSelected
  rw [← keeps after, agree, keeps]

/-- Rows that carry their own primary key. -/
class Keyed (α : Type*) where
  key : α → Nat

export Keyed (key)

/-- A table: rows by primary key, and the sequence that numbers new ones. -/
@[ext]
structure Table (α : Type*) [Keyed α] where
  get : Nat → Option α
  next : Nat
  keyed : ∀ i row, get i = some row → key row = i
  fresh : ∀ i, next ≤ i → get i = none

namespace Table

variable {α : Type*} [Keyed α]

/-- A table nothing was ever stored in; sequences start at 1. -/
def empty : Table α := ⟨fun _ => none, 1, by simp, by simp⟩

/-- All rows, in primary-key order. -/
def rows (t : Table α) : List α := (List.range t.next).filterMap t.get

/-- `INSERT` of the row `make` builds for the next key of the sequence. -/
def insert (t : Table α) (make : Nat → α) (keyedMake : ∀ i, key (make i) = i) : Table α where
  get := Function.update t.get t.next (some (make t.next))
  next := t.next + 1
  keyed := by
    intro i row found
    by_cases same : i = t.next
    · subst same
      rw [Function.update_self, Option.some.injEq] at found
      exact found ▸ keyedMake _
    · rw [Function.update_of_ne same] at found
      exact t.keyed i row found
  fresh := by
    intro i above
    rw [Function.update_of_ne (by omega)]
    exact t.fresh i (by omega)

/-- `UPDATE` of the row with key `i`; no effect when there is none. -/
def modify (t : Table α) (i : Nat) (f : α → α) (keepsKey : ∀ row, key (f row) = key row) : Table α where
  get := fun j => if j = i then (t.get j).map f else t.get j
  next := t.next
  keyed := by
    intro j row found
    split at found
    · obtain ⟨old, oldFound, rfl⟩ := Option.map_eq_some_iff.mp found
      rw [keepsKey]
      exact t.keyed j old oldFound
    · exact t.keyed j row found
  fresh := by
    intro j above
    simp [t.fresh j above]

/-- A full-row write under the row's own key: `UPDATE`, or `INSERT` when the row is gone. -/
def save (t : Table α) (row : α) : Table α where
  get := Function.update t.get (key row) (some row)
  -- a key above the sequence is not handed out again
  next := max t.next (key row + 1)
  keyed := by
    intro i row' found
    by_cases same : i = key row
    · subst same
      rw [Function.update_self, Option.some.injEq] at found
      exact found ▸ rfl
    · rw [Function.update_of_ne same] at found
      exact t.keyed i row' found
  fresh := by
    intro i above
    rw [Function.update_of_ne (by omega)]
    exact t.fresh i (by omega)

/-- `DELETE` of every row the predicate selects. -/
def deleteWhere (t : Table α) (selected : α → Bool) : Table α where
  get := fun i => (t.get i).filter (fun row => !selected row)
  next := t.next
  keyed := fun i row found => t.keyed i row (Option.filter_eq_some_iff.mp found).1
  fresh := fun i above => by simp [t.fresh i above]

/-! ## What each operation stores -/

@[simp] theorem get_insert (t : Table α) (make : Nat → α) (keyedMake : ∀ i, key (make i) = i) (i : Nat) :
    (t.insert make keyedMake).get i = if i = t.next then some (make t.next) else t.get i := by
  by_cases same : i = t.next
  · subst same; simp [insert]
  · simp [insert, same]

@[simp] theorem get_modify (t : Table α) (i : Nat) (f : α → α) (keepsKey : ∀ row, key (f row) = key row)
    (j : Nat) : (t.modify i f keepsKey).get j = if j = i then (t.get j).map f else t.get j := rfl

@[simp] theorem get_save (t : Table α) (row : α) (i : Nat) :
    (t.save row).get i = if i = key row then some row else t.get i := by
  by_cases same : i = key row
  · subst same; simp [save]
  · simp [save, same]

theorem next_save_of_get {t : Table α} {row old : α} (found : t.get (key row) = some old) :
    (t.save row).next = t.next := by
  have below : key row < t.next := by
    by_contra above
    rw [t.fresh _ (by omega)] at found
    cases found
  simp only [save]
  omega

@[simp] theorem get_next (t : Table α) : t.get t.next = none := t.fresh _ (Nat.le_refl _)

/-- What holds of the stored row holds of any row found under its key. -/
theorem forall_of_get {t : Table α} {i : Nat} {row : α} {p : α → Prop} (found : t.get i = some row) (holds : p row) :
    ∀ other, t.get i = some other → p other := by
  intro other found'
  rw [found, Option.some.injEq] at found'
  exact found' ▸ holds

theorem lt_next {t : Table α} {i : Nat} {row : α} (found : t.get i = some row) : i < t.next := by
  by_contra above
  rw [t.fresh i (by omega)] at found
  cases found

/-! ## Rows -/

theorem mem_rows {t : Table α} {row : α} : row ∈ t.rows ↔ t.get (key row) = some row := by
  rw [rows, List.mem_filterMap]
  constructor
  · intro holds
    obtain ⟨i, _, found⟩ := holds
    rw [t.keyed i row found]
    exact found
  · intro found
    exact ⟨key row, List.mem_range.mpr (lt_next found), found⟩

/-- No two rows share their key. -/
theorem nodup_rows (t : Table α) : (t.rows.map key).Nodup := by
  rw [rows, List.map_filterMap]
  -- a row carries its key, so two places of the range cannot give rows of one key
  refine List.Nodup.filterMap (fun i j k inI inJ => ?_) List.nodup_range
  simp only [Option.mem_def, Option.map_eq_some_iff] at inI inJ
  obtain ⟨row, found, rfl⟩ := inI
  obtain ⟨row', found', sameKey⟩ := inJ
  rw [← t.keyed i row found, ← t.keyed j row' found', sameKey]

/-- Beyond the sequence nothing is stored, so a longer scan finds the same rows. -/
theorem filterMap_range_get (t : Table α) {bound : Nat} (above : t.next ≤ bound) :
    (List.range bound).filterMap t.get = t.rows := by
  obtain ⟨extra, rfl⟩ := Nat.exists_eq_add_of_le above
  have beyond : ((List.range extra).map (t.next + ·)).filterMap t.get = [] := by
    rw [List.filterMap_eq_nil_iff, List.forall_mem_map]
    exact fun i _ => t.fresh (t.next + i) (by omega)
  rw [List.range_add, List.filterMap_append, beyond, List.append_nil, rows]

/-- Tables that agree on the selected rows give the same selection, in the same order. -/
theorem filter_rows_congr {t t' : Table α} {selected selected' : α → Bool}
    (agree : ∀ i, (t'.get i).filter selected' = (t.get i).filter selected) :
    t'.rows.filter selected' = t.rows.filter selected := by
  have scan : ∀ (table : Table α) (chosen : α → Bool), table.next ≤ max t.next t'.next → table.rows.filter chosen =
      (List.range (max t.next t'.next)).filterMap fun i => (table.get i).filter chosen := by
    intro table chosen below
    rw [← table.filterMap_range_get below, List.filter_filterMap]
  rw [scan t selected (Nat.le_max_left _ _), scan t' selected' (Nat.le_max_right _ _)]
  simp only [agree]

section Frames

variable {t : Table α} {selected : α → Bool}

/-- Operations on rows that are not selected leave the selection as it is. -/
theorem filter_get_modify {i : Nat} {f : α → α} {keepsKey : ∀ row, key (f row) = key row}
    (other : ∀ row, t.get i = some row → selected row = false ∧ selected (f row) = false) (j : Nat) :
    ((t.modify i f keepsKey).get j).filter selected = (t.get j).filter selected := by
  rw [get_modify]
  split
  · rename_i same
    subst same
    cases stored : t.get j with
    | none => rfl
    | some row => simp [Option.filter, other row stored]
  · rfl

theorem filter_get_insert {make : Nat → α} {keyedMake : ∀ i, key (make i) = i}
    (other : selected (make t.next) = false) (j : Nat) :
    ((t.insert make keyedMake).get j).filter selected = (t.get j).filter selected := by
  rw [get_insert]
  split
  · rename_i same
    simp [Option.filter, same, other]
  · rfl

theorem filter_get_save {row : α} (new : selected row = false)
    (other : ∀ old, t.get (key row) = some old → selected old = false) (j : Nat) :
    ((t.save row).get j).filter selected = (t.get j).filter selected := by
  rw [get_save]
  split
  · rename_i same
    subst same
    cases stored : t.get (key row) with
    | none => simp [Option.filter, new]
    | some old => simp [Option.filter, new, other old stored]
  · rfl

theorem filter_get_deleteWhere {gone : α → Bool}
    (kept : ∀ i row, t.get i = some row → selected row = true → gone row = false) (j : Nat) :
    ((t.deleteWhere gone).get j).filter selected = (t.get j).filter selected := by
  simp only [deleteWhere]
  cases stored : t.get j with
  | none => rfl
  | some row =>
    cases isSelected : selected row with
    | false => cases isGone : gone row <;> simp [Option.filter, isSelected, isGone]
    | true => simp [Option.filter, kept j row stored isSelected]

end Frames

/-! ## Columns that are known

What was read of a row stays true while updates keep the column: the row may
be deleted, but its key is not given to another. -/

section Known

variable {β : Type*} {column : α → β} {t : Table α} {i : Nat} {value : β}

/-- The row with key `i`, if it is still there, has this value there. -/
structure Knows (column : α → β) (t : Table α) (i : Nat) (value : β) : Prop where
  used : i < t.next
  column_eq : ∀ row, t.get i = some row → column row = value

theorem knows_of_get {row : α} (found : t.get i = some row) : Knows column t i (column row) := by
  refine ⟨lt_next found, fun other otherFound => ?_⟩
  rw [found, Option.some.injEq] at otherFound
  rw [otherFound]

theorem Knows.insert (knows : Knows column t i value) (make : Nat → α) (keyedMake : ∀ j, key (make j) = j) :
    Knows column (t.insert make keyedMake) i value := by
  refine ⟨Nat.lt_succ_of_lt knows.used, fun row found => knows.column_eq row ?_⟩
  rw [get_insert, if_neg (Nat.ne_of_lt knows.used)] at found
  exact found

theorem Knows.modify (knows : Knows column t i value) {j : Nat} {f : α → α} (keepsKey : ∀ row, key (f row) = key row)
    (kept : ∀ row, column (f row) = column row) : Knows column (t.modify j f keepsKey) i value := by
  refine ⟨knows.used, fun row found => ?_⟩
  rw [get_modify] at found
  split at found
  · obtain ⟨old, stored, rfl⟩ := Option.map_eq_some_iff.mp found
    rw [kept, knows.column_eq old stored]
  · exact knows.column_eq row found

theorem Knows.deleteWhere (knows : Knows column t i value) (gone : α → Bool) :
    Knows column (t.deleteWhere gone) i value :=
  ⟨knows.used, fun row found => knows.column_eq row (Option.filter_eq_some_iff.mp found).1⟩

end Known

/-! ## Several rows -/

def saveAll (t : Table α) (rows : List α) : Table α := rows.foldl save t

theorem get_saveAll_of_not_mem {t : Table α} {rows : List α} {i : Nat} (absent : ∀ row ∈ rows, key row ≠ i) :
    (t.saveAll rows).get i = t.get i := by
  induction rows generalizing t with
  | nil => rfl
  | cons head rest inductionHypothesis =>
    have rest' : ((t.save head).saveAll rest).get i = (t.save head).get i :=
      inductionHypothesis fun row member => absent row (List.mem_cons_of_mem _ member)
    rw [saveAll, List.foldl_cons, ← saveAll, rest', get_save, if_neg]
    exact fun same => absent head List.mem_cons_self same.symm

theorem get_saveAll_of_mem {t : Table α} {rows : List α} (distinct : (rows.map key).Nodup) {row : α}
    (member : row ∈ rows) : (t.saveAll rows).get (key row) = some row := by
  induction rows generalizing t with
  | nil => cases member
  | cons head rest inductionHypothesis =>
    rw [List.map_cons, List.nodup_cons] at distinct
    rw [saveAll, List.foldl_cons, ← saveAll]
    cases List.mem_cons.mp member with
    | inr later => exact inductionHypothesis distinct.2 later
    | inl same =>
      subst same
      rw [get_saveAll_of_not_mem, get_save, if_pos rfl]
      intro other later sameKey
      -- a later row of the same key would overwrite the head
      exact distinct.1 (List.mem_map.mpr ⟨other, later, sameKey⟩)

theorem mem_rows_save {t : Table α} {row other : α} :
    other ∈ (t.save row).rows ↔ other = row ∨ key other ≠ key row ∧ other ∈ t.rows := by
  simp only [mem_rows, get_save]
  split
  · rename_i sameKey
    simp [sameKey, eq_comm]
  · rename_i otherKey
    have different : other ≠ row := fun same => otherKey (same ▸ rfl)
    simp [otherKey, different]

theorem mem_rows_saveAll {t : Table α} {rows : List α} (distinct : (rows.map key).Nodup) {other : α} :
    other ∈ (t.saveAll rows).rows ↔ other ∈ rows ∨ other ∈ t.rows ∧ ∀ row ∈ rows, key row ≠ key other := by
  -- under a saved key only the saved row is left; under any other nothing changed
  by_cases saved : key other ∈ rows.map key
  · obtain ⟨row, member, sameKey⟩ := List.mem_map.mp saved
    have stored : (t.saveAll rows).get (key other) = some row := sameKey ▸ get_saveAll_of_mem distinct member
    rw [mem_rows, stored, Option.some.injEq]
    constructor
    · intro same
      exact Or.inl (same ▸ member)
    · intro either
      cases either with
      | inl also => exact List.inj_on_of_nodup_map distinct member also sameKey
      | inr kept => exact absurd sameKey (kept.2 row member)
  · have absent : ∀ row ∈ rows, key row ≠ key other := fun row member sameKey =>
      saved (List.mem_map.mpr ⟨row, member, sameKey⟩)
    have notNew : other ∉ rows := fun member => absent other member rfl
    rw [mem_rows, get_saveAll_of_not_mem absent, ← mem_rows, or_iff_right notNew]
    exact (and_iff_left absent).symm

theorem mem_rows_modify {t : Table α} {i : Nat} {f : α → α} {keepsKey : ∀ row, key (f row) = key row} {old row : α}
    (stored : t.get i = some old) :
    row ∈ (t.modify i f keepsKey).rows ↔ row = f old ∨ key row ≠ i ∧ row ∈ t.rows := by
  have sameKey : key (f old) = i := (keepsKey old).trans (t.keyed i old stored)
  rw [mem_rows, get_modify, mem_rows]
  split
  · rename_i isKey
    rw [isKey, stored, Option.map_some, Option.some.injEq, eq_comm]
    simp
  · rename_i otherKey
    have different : row ≠ f old := fun same => otherKey (same ▸ sameKey)
    simp [otherKey, different]

theorem mem_rows_insert {t : Table α} {make : Nat → α} {keyedMake : ∀ i, key (make i) = i} {row : α} :
    row ∈ (t.insert make keyedMake).rows ↔ row = make t.next ∨ row ∈ t.rows := by
  rw [mem_rows, get_insert, mem_rows]
  split
  · rename_i isNew
    rw [isNew, get_next, Option.some.injEq, eq_comm]
    simp
  · rename_i notNew
    have different : row ≠ make t.next := by
      rintro rfl
      exact notNew (keyedMake _)
    simp [different]

/-- An insert is a save of the row under the next key. -/
theorem insert_eq_save (t : Table α) (make : Nat → α) (keyedMake : ∀ i, key (make i) = i) :
    t.insert make keyedMake = t.save (make t.next) := by
  ext1
  · funext i
    rw [get_insert, get_save, keyedMake]
  · simp only [insert, save, keyedMake]
    omega

/-- A row saved as it is stored changes nothing. -/
theorem save_eq_self {t : Table α} {row : α} (found : t.get (key row) = some row) : t.save row = t := by
  ext1
  · funext i
    rw [get_save]
    split
    · rename_i same
      rw [same, found]
    · rfl
  · exact next_save_of_get found

/-- An update of a stored row is a save of the new one. -/
theorem modify_eq_save {t : Table α} {i : Nat} {f : α → α} {keepsKey : ∀ row, key (f row) = key row} {old : α}
    (stored : t.get i = some old) : t.modify i f keepsKey = t.save (f old) := by
  have sameKey : key (f old) = i := (keepsKey old).trans (t.keyed i old stored)
  ext1
  · funext j
    rw [get_modify, get_save, sameKey]
    split
    · rename_i same
      rw [same, stored, Option.map_some]
    · rfl
  · have found : t.get (key (f old)) = some old := sameKey ▸ stored
    exact (next_save_of_get found).symm

/-- A row that is saved after an update of it. -/
theorem save_modify {t : Table α} {i : Nat} {f : α → α} {keepsKey : ∀ row, key (f row) = key row} {row : α}
    (sameKey : key row = i) : (t.modify i f keepsKey).save row = t.save row := by
  ext1
  · funext j
    rw [get_save, get_save, get_modify, sameKey]
    split
    · rfl
    · rfl
  · rfl

/-- What is found under the key of a saved row. -/
theorem eq_of_get_save {t : Table α} (row : α) {found : α} (sameKey : key found = key row)
    (stored : (t.save row).get (key found) = some found) : found = row := by
  rw [get_save, if_pos sameKey] at stored
  exact (Option.some.inj stored).symm

theorem not_get_deleteWhere {t : Table α} {gone : α → Bool} {i : Nat} {row : α} (isGone : gone row = true) :
    (t.deleteWhere gone).get i ≠ some row := by
  intro stored
  have kept := (Option.filter_eq_some_iff.mp stored).2
  rw [isGone] at kept
  cases kept

theorem isSome_get_deleteWhere {t : Table α} {gone : α → Bool} {i : Nat} (all : ∀ row, t.get i = some row → gone row = true) :
    ((t.deleteWhere gone).get i).isSome = false := by
  cases kept : (t.deleteWhere gone).get i with
  | none => rfl
  | some row =>
    obtain ⟨stored, notGone⟩ := Option.filter_eq_some_iff.mp kept
    rw [all row stored] at notGone
    cases notGone

/-- Saved again. -/
theorem save_save (t : Table α) (row : α) : (t.save row).save row = t.save row :=
  save_eq_self (by rw [get_save, if_pos rfl])

end Table

end SurveyPlatform.Library

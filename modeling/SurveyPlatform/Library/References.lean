import SurveyPlatform.Library.Table

/-! # Tables that refer to each other

`Refers` is a foreign key over whole tables, `DistinctIn` a unique constraint.
A write keeps them when the row it writes meets them; a delete keeps a foreign
key when it also takes the rows that name what it deletes (`Refers.deleteWhere`).
-/

namespace SurveyPlatform.Library

variable {α β γ : Type*} [Keyed α] [Keyed β]

/-! ## Rows kept -/

namespace Table

/-- Every key stored in the first table is stored in the second. -/
def KeysKept (t t' : Table α) : Prop := ∀ i, (t.get i).isSome = true → (t'.get i).isSome = true

variable {t : Table α}

theorem eq_of_get {i : Nat} {row row' : α} (found : t.get i = some row) (found' : t.get i = some row') : row' = row :=
  Option.some.inj (found'.symm.trans found)

theorem keysKept_save (row : α) : KeysKept t (t.save row) := by
  intro i stored
  rw [get_save]
  split
  · rfl
  · exact stored

theorem keysKept_insert {make : Nat → α} {keyedMake : ∀ i, key (make i) = i} : KeysKept t (t.insert make keyedMake) := by
  rw [insert_eq_save]
  exact keysKept_save _

theorem keysKept_modify {i : Nat} {f : α → α} {keepsKey : ∀ row, key (f row) = key row} :
    KeysKept t (t.modify i f keepsKey) := by
  intro j stored
  rw [get_modify]
  split
  · rw [Option.isSome_map]
    exact stored
  · exact stored

theorem mem_rows_deleteWhere {gone : α → Bool} {row : α} :
    row ∈ (t.deleteWhere gone).rows ↔ row ∈ t.rows ∧ gone row = false := by
  rw [mem_rows, mem_rows, deleteWhere]
  simp [Option.filter_eq_some_iff]

theorem get_deleteWhere_isSome {gone : α → Bool} {i : Nat} :
    ((t.deleteWhere gone).get i).isSome = true ↔ ∃ row, t.get i = some row ∧ gone row = false := by
  simp only [Option.isSome_iff_exists, deleteWhere, Option.filter_eq_some_iff, Bool.not_eq_true']

end Table

/-! ## Foreign keys -/

/-- What the column names is stored in the other table. -/
def Refers (child : Table α) (column : α → Option Nat) (parent : Table β) : Prop :=
  ∀ row ∈ child.rows, ∀ id, column row = some id → (parent.get id).isSome = true

section Refers

variable {child child' : Table α} {column : α → Option Nat} {parent parent' : Table β}

theorem Refers.keysKept (refers : Refers child column parent) (kept : parent.KeysKept parent') :
    Refers child column parent' :=
  fun row member id names => kept id (refers row member id names)

theorem Refers.of_rows (refers : Refers child column parent) (fewer : ∀ row ∈ child'.rows, row ∈ child.rows) :
    Refers child' column parent :=
  fun row member => refers row (fewer row member)

theorem Refers.save (refers : Refers child column parent) {row : α}
    (stored : ∀ id, column row = some id → (parent.get id).isSome = true) : Refers (child.save row) column parent := by
  intro other member
  rw [Table.mem_rows_save] at member
  cases member with
  | inl same => exact same ▸ stored
  | inr kept => exact refers other kept.2

theorem Refers.saveAll {rows : List α} (refers : Refers child column parent)
    (stored : ∀ row ∈ rows, ∀ id, column row = some id → (parent.get id).isSome = true) :
    Refers (child.saveAll rows) column parent := by
  induction rows generalizing child with
  | nil => exact refers
  | cons row rest inductionHypothesis =>
    obtain ⟨first, later⟩ := List.forall_mem_cons.mp stored
    exact inductionHypothesis (refers.save first) later

/-- No row names a key that was not given out yet. -/
theorem Refers.filter_eq_nil {column : α → Nat} (refers : Refers child (fun row => some (column row)) parent) {id : Nat}
    (ahead : parent.next ≤ id) : (child.rows.filter fun row => decide (column row = id)) = [] := by
  apply List.filter_eq_nil_iff.mpr
  intro row member names
  obtain ⟨parentRow, found⟩ := Option.isSome_iff_exists.mp (refers row member id (congrArg some (of_decide_eq_true names)))
  exact absurd (Table.lt_next found) (Nat.not_lt_of_le ahead)

/-- `on_delete=CASCADE`: the rows that name a deleted row are deleted with it. -/
theorem Refers.deleteWhere (refers : Refers child column parent) {goneChild : α → Bool} {gone : β → Bool}
    (cascades : ∀ row ∈ child.rows, ∀ id, column row = some id → ∀ parentRow, parent.get id = some parentRow →
      gone parentRow = true → goneChild row = true) :
    Refers (child.deleteWhere goneChild) column (parent.deleteWhere gone) := by
  intro row member id names
  obtain ⟨stored, kept⟩ := Table.mem_rows_deleteWhere.mp member
  obtain ⟨parentRow, found⟩ := Option.isSome_iff_exists.mp (refers row stored id names)
  rw [Table.get_deleteWhere_isSome]
  refine ⟨parentRow, found, ?_⟩
  cases isGone : gone parentRow with
  | false => rfl
  | true =>
    rw [cascades row stored id names parentRow found isGone] at kept
    cases kept

/-- The same for a delete by keys. -/
theorem Refers.deleteKeys (refers : Refers child column parent) {goneChild : α → Bool} {gone : Nat → Bool}
    (cascades : ∀ row id, column row = some id → gone id = true → goneChild row = true) :
    Refers (child.deleteWhere goneChild) column (parent.deleteWhere fun row => gone (key row)) := by
  apply refers.deleteWhere
  intro row _ id names parentRow found isGone
  rw [parent.keyed id parentRow found] at isGone
  exact cascades row id names isGone

end Refers

/-! ## Unique constraints -/

/-- No two rows have the same columns. -/
def DistinctIn (t : Table α) (columns : α → γ) : Prop :=
  ∀ row ∈ t.rows, ∀ other ∈ t.rows, columns row = columns other → row = other

section Distinct

variable {t t' : Table α} {columns : α → γ}

theorem DistinctIn.of_rows (distinct : DistinctIn t columns) (fewer : ∀ row ∈ t'.rows, row ∈ t.rows) :
    DistinctIn t' columns :=
  fun row member other member' => distinct row (fewer row member) other (fewer other member')

theorem DistinctIn.save (distinct : DistinctIn t columns) {row : α}
    (free : ∀ other ∈ t.rows, columns other = columns row → key other = key row) : DistinctIn (t.save row) columns := by
  intro a aMember b bMember same
  rw [Table.mem_rows_save] at aMember bMember
  cases aMember with
  | inl isRow =>
    cases bMember with
    | inl isRow' => rw [isRow, isRow']
    | inr kept => exact absurd (free b kept.2 (by rw [← same, isRow])) kept.1
  | inr kept =>
    cases bMember with
    | inl isRow' => exact absurd (free a kept.2 (by rw [same, isRow'])) kept.1
    | inr kept' => exact distinct a kept.2 b kept'.2 same

end Distinct

/-! ## Checks of single rows -/

section Checks

variable {t t' : Table α} {check : α → Prop}

theorem forall_rows_of_rows (holds : ∀ row ∈ t.rows, check row) (fewer : ∀ row ∈ t'.rows, row ∈ t.rows) :
    ∀ row ∈ t'.rows, check row :=
  fun row member => holds row (fewer row member)

theorem forall_rows_save (holds : ∀ row ∈ t.rows, check row) {row : α} (new : check row) :
    ∀ other ∈ (t.save row).rows, check other := by
  intro other member
  rw [Table.mem_rows_save] at member
  cases member with
  | inl same => exact same ▸ new
  | inr kept => exact holds other kept.2

end Checks

/-! ## Rows in order -/

/-- Rows come in the order of their keys. -/
theorem pairwise_rows (t : Table α) : t.rows.Pairwise fun a b => key a < key b := by
  rw [Table.rows, List.pairwise_filterMap]
  apply List.pairwise_lt_range.imp
  intro i j before a found b found'
  rwa [t.keyed i a found, t.keyed j b found']

/-- A row saved under the next key comes after all others. -/
theorem rows_save_next {t : Table α} {row : α} (new : key row = t.next) : (t.save row).rows = t.rows ++ [row] := by
  have following : (t.save row).next = t.next + 1 := by
    simp only [Table.save, new]
    omega
  have earlier : (List.range t.next).filterMap (t.save row).get = (List.range t.next).filterMap t.get := by
    apply List.filterMap_congr
    intro i below
    rw [Table.get_save, if_neg (by rw [new]; exact Nat.ne_of_lt (List.mem_range.mp below))]
  rw [Table.rows, following, List.range_succ, List.filterMap_append, earlier, Table.rows]
  rw [List.filterMap_cons, Table.get_save, if_pos new.symm, List.filterMap_nil]

/-! ## Frames -/

/-- Rows that are added outside a selection leave it as it is. -/
theorem filter_get_saveAll {t : Table α} {rows : List α} {selected : α → Bool}
    (new : ∀ row ∈ rows, selected row = false)
    (replaced : ∀ row ∈ rows, ∀ old, t.get (key row) = some old → selected old = false) (i : Nat) :
    ((t.saveAll rows).get i).filter selected = (t.get i).filter selected := by
  induction rows generalizing t with
  | nil => rfl
  | cons row rest inductionHypothesis =>
    obtain ⟨newRow, newRest⟩ := List.forall_mem_cons.mp new
    obtain ⟨overRow, overRest⟩ := List.forall_mem_cons.mp replaced
    refine (inductionHypothesis newRest ?_).trans (Table.filter_get_save newRow overRow i)
    intro other member old stored
    rw [Table.get_save] at stored
    split at stored
    · exact Option.some.inj stored ▸ newRow
    · exact overRest other member old stored

end SurveyPlatform.Library

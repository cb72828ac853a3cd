import Mathlib.Data.List.Basic
import Mathlib.Tactic.Common

/-! # Lists read in pages

`page size index rows` is the page with this index, counted from 0.  The pages of
a list at rest put together are the list (`flatten_pages`).  Where a list grows at
its front between two reads, its rows shift to later pages, and what was behind a
page still is (`mem_drop_of_suffix`).
-/

namespace SurveyPlatform.Library

variable {α : Type*}

def page (size index : Nat) (rows : List α) : List α := (rows.drop (size * index)).take size

/-- `ceil(count / per_page)`, and at least one. -/
def numPages (size count : Nat) : Nat := max 1 ((count + size - 1) / size)

theorem count_le_pages {size : Nat} (positive : 0 < size) (count : Nat) : count ≤ size * numPages size count := by
  have rounded : count ≤ size * ((count + size - 1) / size) := by
    have division := Nat.div_add_mod (count + size - 1) size
    have remainder := Nat.mod_lt (count + size - 1) positive
    omega
  exact Nat.le_trans rounded (Nat.mul_le_mul_left size (Nat.le_max_right _ _))

theorem flatten_pages_take (size : Nat) (rows : List α) (pages : Nat) :
    ((List.range pages).map fun index => page size index rows).flatten = rows.take (size * pages) := by
  induction pages with
  | zero => simp
  | succ pages inductionHypothesis =>
    rw [List.range_succ, List.map_append, List.flatten_append, inductionHypothesis, List.map_singleton,
      List.flatten_singleton, page, Nat.mul_succ, List.take_add]

theorem flatten_pages {size : Nat} (positive : 0 < size) (rows : List α) :
    ((List.range (numPages size rows.length)).map fun index => page size index rows).flatten = rows := by
  rw [flatten_pages_take, List.take_of_length_le (count_le_pages positive rows.length)]

/-! ## Reading while the list grows -/

/-- What is behind some rows is behind as many rows of a longer list. -/
theorem mem_drop_of_suffix {before after : List α} (grown : before <:+ after) {n : Nat} {row : α}
    (member : row ∈ before.drop n) : row ∈ after.drop n := by
  obtain ⟨new, rfl⟩ := grown
  by_cases short : n ≤ new.length
  · rw [List.drop_append_of_le_length short]
    exact List.mem_append_right _ (List.mem_of_mem_drop member)
  · obtain ⟨rest, rfl⟩ := Nat.exists_eq_add_of_le (Nat.le_of_not_le short)
    rw [List.drop_append]
    apply List.mem_append_right
    rw [Nat.add_comm, ← List.drop_drop] at member
    rw [Nat.add_sub_cancel_left]
    exact List.mem_of_mem_drop member

/-- A row that is not on a page is behind it. -/
theorem mem_page_or_mem_drop {size index : Nat} {rows : List α} {row : α} (member : row ∈ rows.drop (size * index)) :
    row ∈ page size index rows ∨ row ∈ rows.drop (size * (index + 1)) := by
  rw [← List.take_append_drop size (rows.drop (size * index)), List.mem_append, List.drop_drop] at member
  exact member

end SurveyPlatform.Library

import Mathlib.Data.List.Infix
import Mathlib.Tactic.Common

/-! # Infixes

Where a list is found in another: beside a mark it does not have
(`infix_split`), and in a list whose elements are marked one by one
(`infix_flatMap`).
-/

namespace SurveyPlatform.Library

variable {α : Type} {needle left right : List α} {mark : α}

/-- What has not the mark is found on one side of it. -/
theorem infix_split (noMark : mark ∉ needle) :
    needle <:+: left ++ mark :: right ↔ needle <:+: left ∨ needle <:+: right := by
  constructor
  · intro found
    obtain ⟨before, after, whole⟩ := found
    obtain ⟨rest, inLeft, _⟩ | ⟨rest, beyond, inRight⟩ := List.append_eq_append_iff.mp whole
    · exact Or.inl ⟨before, rest, inLeft.symm⟩
    · cases rest with
      | nil => exact Or.inl ⟨before, [], by simpa using beyond⟩
      | cons first rest =>
        obtain ⟨rfl, rfl⟩ := List.cons.inj inRight
        obtain ⟨across, _, inNeedle⟩ | ⟨across, _, inRest⟩ := List.append_eq_append_iff.mp beyond
        -- the mark would be in the needle
        · rw [inNeedle] at noMark
          exact absurd (List.mem_append_right _ List.mem_cons_self) noMark
        · cases across with
          | nil =>
            rw [List.nil_append] at inRest
            rw [← inRest] at noMark
            exact absurd List.mem_cons_self noMark
          | cons first others =>
            obtain ⟨_, rfl⟩ := List.cons.inj inRest
            exact Or.inr ⟨others, after, rfl⟩
  · intro found
    obtain ⟨before, after, rfl⟩ | ⟨before, after, rfl⟩ := found
    · exact ⟨before, after ++ mark :: right, by simp⟩
    · exact ⟨left ++ mark :: before, after, by simp⟩

theorem infix_of_infix_nil (found : needle <:+: []) : needle <:+: left := by
  rw [List.infix_nil.mp found]
  exact List.nil_infix

theorem infix_pair_iff {first second : α} :
    needle <:+: [first, second] ↔ needle <:+: [first] ∨ needle <:+: [second] ∨ needle = [first, second] := by
  simp only [List.infix_cons_iff, List.prefix_cons_iff, List.infix_nil, List.prefix_nil]
  grind

/-- A rewriting of single elements that keeps or marks each of them. -/
theorem infix_flatMap {rewrite : α → List α} (all : List α)
    (keeps : ∀ x ∈ all, rewrite x = [x] ∨ x ∉ needle ∧ mark ∉ needle ∧ rewrite x = [mark, x]) :
    ∀ before, needle <:+: before ++ all.flatMap rewrite ↔ needle <:+: before ++ all := by
  induction all with
  | nil => exact fun _ => Iff.rfl
  | cons x rest inductionHypothesis =>
    intro before
    rw [List.forall_mem_cons] at keeps
    obtain kept | ⟨notIn, noMark, marked⟩ := keeps.1
    · have shifted := inductionHypothesis keeps.2 (before ++ [x])
      rw [List.append_assoc, List.append_assoc] at shifted
      rwa [List.flatMap_cons, kept]
    · have further := inductionHypothesis keeps.2 []
      rw [List.nil_append, List.nil_append] at further
      rw [List.flatMap_cons, marked, List.cons_append, List.singleton_append, infix_split noMark, infix_split notIn,
        ← further, ← @List.nil_append _ (x :: List.flatMap rewrite rest), infix_split notIn]
      constructor
      · rintro (inBefore | inNil | inRest)
        · exact Or.inl inBefore
        · exact Or.inl (infix_of_infix_nil inNil)
        · exact Or.inr inRest
      · exact fun found => found.imp_right Or.inr

end SurveyPlatform.Library

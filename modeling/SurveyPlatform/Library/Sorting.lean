import Mathlib.Data.List.Nodup
import Mathlib.Tactic.Common

/-! # Stable sorting

What `List.mergeSort` does under a comparison that ranks its elements
(`Ranking`): inserting one element splits the sorted rest at it
(`mergeSort_split`), so choosing some elements and sorting them can be done in
either order (`filter_mergeSort`), and among elements of different ranks the
sorted list has one before the other exactly when it ranks lower
(`pair_sublist_mergeSort_iff`).
-/

namespace SurveyPlatform.Library

variable {α : Type*} {le le' : α → α → Bool}

/-- A comparison by rank; two elements may have the same rank. -/
structure Ranking (le : α → α → Bool) : Prop where
  trans : ∀ a b c, le a b = true → le b c = true → le a c = true
  total : ∀ a b, (le a b || le b a) = true

theorem Ranking.refl (ranking : Ranking le) (a : α) : le a a = true := by
  simpa using ranking.total a a

theorem ranking_key (f : α → Nat) : Ranking fun a b => decide (f a ≤ f b) := by
  constructor
  · simp only [decide_eq_true_eq]
    exact fun a b c => Nat.le_trans
  · simp only [Bool.or_eq_true, decide_eq_true_eq]
    exact fun a b => Nat.le_total _ _

/-- By a first number, and by a second where the first is the same. -/
theorem ranking_lexicographic (f g : α → Nat) :
    Ranking fun a b => decide (f a < f b) || (f a == f b && decide (g a ≤ g b)) := by
  constructor
  · intro a b c
    simp only [Bool.or_eq_true, Bool.and_eq_true, decide_eq_true_eq, beq_iff_eq]
    omega
  · intro a b
    simp only [Bool.or_eq_true, Bool.and_eq_true, decide_eq_true_eq, beq_iff_eq]
    omega

/-- Of two members of a list one comes first. -/
theorem pair_sublist_or {items : List α} {a b : α} (inItems : a ∈ items) (inItems' : b ∈ items)
    (different : a ≠ b) : [a, b].Sublist items ∨ [b, a].Sublist items := by
  obtain ⟨before, after, rfl⟩ := List.append_of_mem inItems
  rw [List.mem_append, List.mem_cons] at inItems'
  obtain earlier | rfl | later := inItems'
  · have first : [b].Sublist before := List.singleton_sublist.mpr earlier
    have second : [a].Sublist (a :: after) := List.singleton_sublist.mpr List.mem_cons_self
    exact Or.inr (first.append second)
  · exact absurd rfl different
  · have second : [b].Sublist after := List.singleton_sublist.mpr later
    exact Or.inl ((second.cons_cons a).trans (List.sublist_append_right before _))

namespace Ranking

variable (ranking : Ranking le)
include ranking

theorem pairwise (items : List α) : (items.mergeSort le).Pairwise fun a b => le a b = true :=
  List.pairwise_mergeSort ranking.trans ranking.total items

/-- The new element goes behind what ranks lower and in front of everything else. -/
theorem mergeSort_split (a : α) (items : List α) :
    (a :: items).mergeSort le = (items.mergeSort le).filter (fun b => !le a b) ++
        a :: (items.mergeSort le).filter (fun b => le a b) ∧
      items.mergeSort le = (items.mergeSort le).filter (fun b => !le a b) ++
        (items.mergeSort le).filter (fun b => le a b) := by
  obtain ⟨lower, higher, sorted, rest, areLower⟩ := List.mergeSort_cons ranking.trans ranking.total a items
  have areHigher : ∀ b ∈ higher, le a b = true := by
    have pairwise := ranking.pairwise (a :: items)
    rw [sorted, List.pairwise_append, List.pairwise_cons] at pairwise
    exact pairwise.2.1.1
  have noneLower : higher.filter (fun b => !le a b) = [] := by
    rw [List.filter_eq_nil_iff]
    intro b member
    simp [areHigher b member]
  have noneHigher : lower.filter (fun b => le a b) = [] := by
    rw [List.filter_eq_nil_iff]
    intro b member
    simpa using areLower b member
  have filtered : (items.mergeSort le).filter (fun b => !le a b) = lower ∧
      (items.mergeSort le).filter (fun b => le a b) = higher := by
    simp only [rest, List.filter_append, noneLower, noneHigher, List.append_nil, List.nil_append]
    exact ⟨List.filter_eq_self.mpr areLower, List.filter_eq_self.mpr areHigher⟩
  rw [filtered.1, filtered.2]
  exact ⟨sorted, rest⟩

/-- Choosing and sorting commute. -/
theorem filter_mergeSort (kept : α → Bool) (items : List α) :
    (items.mergeSort le).filter kept = (items.filter kept).mergeSort le := by
  -- each element is sorted in between the same two parts, before or after the choice
  induction items with
  | nil => simp
  | cons a rest inductionHypothesis =>
    obtain ⟨inserted, whole⟩ := ranking.mergeSort_split a rest
    cases keep : kept a with
    | true =>
      rw [inserted, List.filter_append, List.filter_cons_of_pos keep, List.filter_cons_of_pos keep,
        (ranking.mergeSort_split a _).1, ← inductionHypothesis]
      simp only [List.filter_filter, Bool.and_comm]
    | false =>
      have dropped : ¬ kept a = true := by simp [keep]
      rw [List.filter_cons_of_neg dropped, ← inductionHypothesis, inserted, List.filter_append,
        List.filter_cons_of_neg dropped, ← List.filter_append, ← whole]

/-- Comparisons that agree on the elements sort them alike. -/
theorem mergeSort_congr (ranking' : Ranking le') {items : List α}
    (same : ∀ a ∈ items, ∀ b ∈ items, le a b = le' a b) : items.mergeSort le = items.mergeSort le' := by
  induction items with
  | nil => simp
  | cons a rest inductionHypothesis =>
    have tail := inductionHypothesis fun b member c member' =>
      same b (List.mem_cons_of_mem _ member) c (List.mem_cons_of_mem _ member')
    have head : ∀ b ∈ rest.mergeSort le', le a b = le' a b := fun b member =>
      same a List.mem_cons_self b (List.mem_cons_of_mem _ (List.mem_mergeSort.mp member))
    rw [(ranking.mergeSort_split a rest).1, (ranking'.mergeSort_split a rest).1, tail,
      List.filter_congr fun b member => head b member, List.filter_congr fun b member => congrArg (!·) (head b member)]

/-- With one element of each rank, the sorted list has `a` before `b` exactly when `b` does not rank first. -/
theorem pair_sublist_mergeSort_iff {items : List α} (nodup : items.Nodup)
    (distinct : ∀ a ∈ items, ∀ b ∈ items, le a b = true → le b a = true → a = b) {a b : α} (inItems : a ∈ items)
    (inItems' : b ∈ items) : [a, b].Sublist (items.mergeSort le) ↔ le b a = false := by
  have sortedNodup : (items.mergeSort le).Nodup := (List.mergeSort_perm items le).nodup_iff.mpr nodup
  have notTwice : ∀ c, ¬ [c, c].Sublist (items.mergeSort le) := List.nodup_iff_sublist.mp sortedNodup
  have rises : ∀ {c d}, [c, d].Sublist (items.mergeSort le) → le c d = true := fun pair =>
    List.pairwise_iff_forall_sublist.mp (ranking.pairwise items) pair
  constructor
  · intro before
    rw [← Bool.not_eq_true]
    intro notAbove
    obtain rfl := distinct a inItems b inItems' (rises before) notAbove
    exact notTwice a before
  · intro above
    have different : a ≠ b := by
      rintro rfl
      rw [ranking.refl] at above
      cases above
    obtain before | after := pair_sublist_or (List.mem_mergeSort.mpr inItems) (List.mem_mergeSort.mpr inItems')
      different
    · exact before
    · rw [rises after] at above
      cases above

end Ranking

end SurveyPlatform.Library

import Mathlib.Logic.Function.Basic
import Mathlib.Tactic.Common

/-! # Look-aside caches

A store and a cache beside it: `current s k v` says that `v` is a right answer
for the key `k` on the store `s`, and the cache is `CoherentCache` when it holds
nothing else.  Several answers may be right for one key.

A write keeps the cache coherent when every entry it leaves in place is still
right (`CoherentCache.write`); a read that missed may put a right answer back
(`CoherentCache.fill`).

Where a write and the clearing of its entry are two steps, the cache is coherent
except for the keys whose clearing is owed (`CoherentCacheExcept`); when nothing is
owed any more it is coherent again (`CoherentCacheExcept.settled`).
-/

namespace SurveyPlatform.Library

variable {σ κ ν : Type*} {current : σ → κ → ν → Prop} {s s' : σ} {entry entry' : κ → Option ν}

/-- Every entry is a right answer for its key. -/
def CoherentCache (current : σ → κ → ν → Prop) (s : σ) (entry : κ → Option ν) : Prop :=
  ∀ k v, entry k = some v → current s k v

theorem CoherentCache.write (coherent : CoherentCache current s entry)
    (left : ∀ k, entry' k = none ∨ (entry' k = entry k ∧ ∀ v, entry k = some v → current s k v → current s' k v)) :
    CoherentCache current s' entry' := by
  intro k v stored
  cases left k with
  | inl cleared =>
    rw [cleared] at stored
    cases stored
  | inr kept =>
    obtain ⟨same, still⟩ := kept
    rw [same] at stored
    exact still v stored (coherent k v stored)

theorem CoherentCache.fill [DecidableEq κ] (coherent : CoherentCache current s entry) {k : κ} {v : ν}
    (right : current s k v) : CoherentCache current s (Function.update entry k (some v)) := by
  intro k' v' stored
  by_cases same : k' = k
  · subst same
    rw [Function.update_self, Option.some.injEq] at stored
    exact stored ▸ right
  · rw [Function.update_of_ne same] at stored
    exact coherent k' v' stored

/-- Every entry is a right answer, or owed a clearing. -/
def CoherentCacheExcept (current : σ → κ → ν → Prop) (s : σ) (entry : κ → Option ν) (owed : κ → Prop) : Prop :=
  ∀ k, ¬ owed k → ∀ v, entry k = some v → current s k v

variable {owed owed' : κ → Prop}

theorem CoherentCacheExcept.settled (coherent : CoherentCacheExcept current s entry owed) (nothing : ∀ k, ¬ owed k) :
    CoherentCache current s entry :=
  fun k => coherent k (nothing k)

theorem CoherentCacheExcept.mono (coherent : CoherentCacheExcept current s entry owed) (more : ∀ k, owed k → owed' k) :
    CoherentCacheExcept current s entry owed' :=
  fun k settled => coherent k fun before => settled (more k before)

/-- A write is owed the clearing of every entry it does not leave right. -/
theorem CoherentCacheExcept.write (coherent : CoherentCacheExcept current s entry owed)
    (left : ∀ k, ¬ owed' k → ¬ owed k ∧ ∀ v, entry k = some v → current s k v → current s' k v) :
    CoherentCacheExcept current s' entry owed' := by
  intro k settled v stored
  obtain ⟨settledBefore, still⟩ := left k settled
  exact still v stored (coherent k settledBefore v stored)

/-- Once the entry is cleared nothing is owed for its key. -/
theorem CoherentCacheExcept.clear [DecidableEq κ] (coherent : CoherentCacheExcept current s entry owed) (k : κ) :
    CoherentCacheExcept current s (Function.update entry k none) fun k' => owed k' ∧ k' ≠ k := by
  intro k' settled v stored
  by_cases same : k' = k
  · subst same
    rw [Function.update_self] at stored
    cases stored
  · rw [Function.update_of_ne same] at stored
    exact coherent k' (fun before => settled ⟨before, same⟩) v stored

/-- A late fill must be right when it is stored, unless a clearing is still to come. -/
theorem CoherentCacheExcept.fill [DecidableEq κ] (coherent : CoherentCacheExcept current s entry owed) {k : κ} {v : ν}
    (right : ¬ owed k → current s k v) : CoherentCacheExcept current s (Function.update entry k (some v)) owed := by
  intro k' settled v' stored
  by_cases same : k' = k
  · subst same
    rw [Function.update_self, Option.some.injEq] at stored
    exact stored ▸ right settled
  · rw [Function.update_of_ne same] at stored
    exact coherent k' settled v' stored

end SurveyPlatform.Library

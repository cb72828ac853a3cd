import Mathlib.Logic.Function.Basic
import Mathlib.Tactic.Common

/-! # Caches whose entries expire

`ExpiringCache` is what a look-aside cache may rely on: an entry that is read was
set for its key, was not deleted since, and has not reached its timeout.  Entries
may be lost at any time.

`Recent` says of a cache that everything it can still answer was right at a moment
less than `timeout` ago.  `moments` are those that count, each with its time; more of
them only help (`Recent.mono`), and `Recent.set` and `Recent.delete` are the two writes.
-/

namespace SurveyPlatform.Library

/-- A cache with a timeout for each entry, `none` for entries that stay. -/
structure ExpiringCache (κ ν : Type) where
  Entries : Type
  get : Entries → Nat → κ → Option ν
  set : Entries → Nat → κ → ν → Option Int → Entries
  delete : Entries → κ → Entries
  get_set : ∀ entries now key value timeout later other found, now ≤ later →
    get (set entries now key value timeout) later other = some found →
      other = key ∧ found = value ∧ (∀ seconds, timeout = some seconds → (later : Int) < now + seconds) ∨
        other ≠ key ∧ get entries later other = some found
  get_delete : ∀ entries key later other found, get (delete entries key) later other = some found →
    other ≠ key ∧ get entries later other = some found

variable {κ ν σ : Type} {cache : ExpiringCache κ ν}

/-- Whatever the cache answers from now on was right at one of the moments, less than
`timeout` before. -/
def Recent (cache : ExpiringCache κ ν) (timeout : Nat) (time : σ → Nat) (right : σ → κ → ν → Prop) (moments : List σ)
    (now : Nat) (entries : cache.Entries) : Prop :=
  ∀ later key value, now ≤ later → cache.get entries later key = some value →
    ∃ moment ∈ moments, later < time moment + timeout ∧ right moment key value

section Recent

variable {timeout : Nat} {time : σ → Nat} {right : σ → κ → ν → Prop} {moments moments' : List σ} {now now' : Nat}
  {entries : cache.Entries}

theorem Recent.mono (recent : Recent cache timeout time right moments now entries) (passed : now ≤ now')
    (more : ∀ moment ∈ moments, moment ∈ moments') : Recent cache timeout time right moments' now' entries := by
  intro later key value after found
  obtain ⟨moment, member, young, isRight⟩ := recent later key value (Nat.le_trans passed after) found
  exact ⟨moment, more moment member, young, isRight⟩

theorem Recent.set (recent : Recent cache timeout time right moments now entries) {moment : σ} {key : κ} {value : ν}
    (member : moment ∈ moments) (isNow : time moment = now) (isRight : right moment key value) :
    Recent cache timeout time right moments now (cache.set entries now key value (some timeout)) := by
  intro later other found after stored
  obtain ⟨rfl, rfl, young⟩ | ⟨_, kept⟩ := cache.get_set entries now key value (some timeout) later other found after stored
  · have young := young timeout rfl
    exact ⟨moment, member, by omega, isRight⟩
  · exact recent later other found after kept

theorem Recent.delete (recent : Recent cache timeout time right moments now entries) (key : κ) :
    Recent cache timeout time right moments now (cache.delete entries key) := by
  intro later other found after stored
  exact recent later other found after (cache.get_delete entries key later other found stored).2

end Recent

/-! ## A cache that loses nothing -/

structure TimedEntry (ν : Type) where
  value : ν
  setAt : Nat
  timeout : Option Int

/-- The value, unless the timeout is reached. -/
def TimedEntry.read (entry : TimedEntry ν) (now : Nat) : Option ν :=
  if entry.timeout.all fun seconds => decide ((now : Int) < entry.setAt + seconds) then some entry.value else none

section Lossless

variable [DecidableEq κ] {entries : κ → Option (TimedEntry ν)} {later : Nat} {key other : κ} {found : ν}

end Lossless

end SurveyPlatform.Library

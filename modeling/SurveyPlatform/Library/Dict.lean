import Mathlib.Data.List.Nodup
import Mathlib.Tactic.Common

/-! # Insertion-ordered dictionaries

The mapping type of a dynamic language: assignment to a present key keeps the
key's position, assignment to a new key appends it.  `Dict` carries the proof
that no key occurs twice, so lookups and entries determine each other.

* `get?` / `set` — subscription and subscript assignment;
* `push` — the `setdefault(key, []).append(item)` idiom;
* `groupBy` — the grouping loop built from `push`, with `get?_groupBy` as its
  whole specification.
-/

namespace SurveyPlatform.Library

variable {κ α β : Type*} [DecidableEq κ]

/-! ## Assignment on entry lists -/

/-- `d[key] = value` on the raw entries. -/
def assign : List (κ × α) → κ → α → List (κ × α)
  | [], key, value => [(key, value)]
  | (key', value') :: rest, key, value =>
    -- a present key keeps its place
    if key' = key then (key, value) :: rest else (key', value') :: assign rest key value

theorem map_fst_assign (entries : List (κ × α)) (key : κ) (value : α) :
    (assign entries key value).map Prod.fst =
      if key ∈ entries.map Prod.fst then entries.map Prod.fst else entries.map Prod.fst ++ [key] := by
  induction entries with
  | nil => simp [assign]
  | cons entry rest inductionHypothesis =>
    obtain ⟨key', value'⟩ := entry
    by_cases same : key' = key
    · simp [assign, same]
    · simp only [assign, same, if_false, List.map_cons, inductionHypothesis, List.mem_cons]
      by_cases member : key ∈ rest.map Prod.fst <;> simp [member, Ne.symm same]

theorem nodup_assign {entries : List (κ × α)} (nodup : (entries.map Prod.fst).Nodup)
    (key : κ) (value : α) : ((assign entries key value).map Prod.fst).Nodup := by
  rw [map_fst_assign]
  split
  · exact nodup
  · rename_i absent
    rw [List.nodup_append]
    refine ⟨nodup, List.nodup_singleton _, ?_⟩
    intro other member single singleMember equal
    rw [List.mem_singleton] at singleMember
    exact absent (singleMember ▸ equal ▸ member)

theorem lookup_assign (entries : List (κ × α)) (key key' : κ) (value : α) :
    (assign entries key value).lookup key' = if key' = key then some value else entries.lookup key' := by
  induction entries with
  | nil => by_cases same : key' = key <;> simp [assign, same]
  | cons entry rest inductionHypothesis =>
    obtain ⟨head, headValue⟩ := entry
    by_cases headSame : head = key
    · subst headSame
      by_cases same : key' = head
      · simp [assign, same]
      · simp [assign, List.lookup_cons, same, beq_false_of_ne same]
    · simp only [assign, headSame, if_false, List.lookup_cons, inductionHypothesis]
      by_cases same : key' = head
      · subst same; simp [headSame]
      · simp [beq_false_of_ne same]

theorem lookup_eq_some_iff {entries : List (κ × α)} (nodup : (entries.map Prod.fst).Nodup)
    (key : κ) (value : α) : entries.lookup key = some value ↔ (key, value) ∈ entries := by
  induction entries with
  | nil => simp
  | cons entry rest inductionHypothesis =>
    obtain ⟨head, headValue⟩ := entry
    simp only [List.map_cons, List.nodup_cons] at nodup
    by_cases same : key = head
    · subst same
      have absent : (key, value) ∉ rest := fun member => nodup.1 (List.mem_map_of_mem member)
      simp [absent, eq_comm]
    · simp [List.lookup_cons, beq_false_of_ne same, inductionHypothesis nodup.2, same]

/-! ## Dictionaries -/

/-- Entries in insertion order, no key twice. -/
structure Dict (κ α : Type*) where
  entries : List (κ × α)
  nodup : (entries.map Prod.fst).Nodup

namespace Dict

/-- `{}` -/
def empty : Dict κ α := ⟨[], List.nodup_nil⟩

/-- `d.get(key)` -/
def get? (d : Dict κ α) (key : κ) : Option α := d.entries.lookup key

/-- `d[key] = value` -/
def set (d : Dict κ α) (key : κ) (value : α) : Dict κ α :=
  ⟨assign d.entries key value, nodup_assign d.nodup key value⟩

/-- `d.keys()` -/
def keys (d : Dict κ α) : List κ := d.entries.map Prod.fst

/-- `bool(d)` is false exactly for this one. -/
def isEmpty (d : Dict κ α) : Bool := d.entries.isEmpty

/-- `d == d'`: the same keys with the same values, whatever the order. -/
def Same (d d' : Dict κ α) : Prop := ∀ key, d.get? key = d'.get? key

@[simp] theorem get?_empty (key : κ) : (empty : Dict κ α).get? key = none := rfl

@[simp] theorem get?_set (d : Dict κ α) (key key' : κ) (value : α) :
    (d.set key value).get? key' = if key' = key then some value else d.get? key' :=
  lookup_assign d.entries key key' value

theorem get?_eq_some_iff (d : Dict κ α) (key : κ) (value : α) :
    d.get? key = some value ↔ (key, value) ∈ d.entries :=
  lookup_eq_some_iff d.nodup key value

theorem isEmpty_eq_true_iff (d : Dict κ α) : d.isEmpty = true ↔ ∀ key, d.get? key = none := by
  rw [isEmpty, List.isEmpty_iff]
  constructor
  · intro empty key
    simp [get?, empty]
  · intro none
    cases shape : d.entries with
    | nil => rfl
    | cons entry rest =>
      -- the key of the first entry would be found
      have present := (d.get?_eq_some_iff entry.1 entry.2).mpr (by simp [shape])
      rw [none] at present
      cases present

/-! ## Grouping -/

/-- `d.setdefault(key, []).append(item)` -/
def push (d : Dict κ (List β)) (key : κ) (item : β) : Dict κ (List β) :=
  d.set key ((d.get? key).getD [] ++ [item])

/-- `for x in items: d.setdefault(key(x), []).append(item(x))` -/
def groupBy (key : α → κ) (item : α → β) (items : List α) : Dict κ (List β) :=
  items.foldl (fun d x => d.push (key x) (item x)) empty

theorem get?_foldl_push (key : α → κ) (item : α → β) (items : List α) (d : Dict κ (List β)) (k : κ) :
    (items.foldl (fun d x => d.push (key x) (item x)) d).get? k =
      if (items.filter (fun x => key x = k)) = [] then d.get? k
      else some ((d.get? k).getD [] ++ (items.filter (fun x => key x = k)).map item) := by
  induction items generalizing d with
  | nil => simp
  | cons x rest inductionHypothesis =>
    -- the first item joins its own group; the rest of the loop starts from there
    rw [List.foldl_cons, inductionHypothesis]
    by_cases same : key x = k
    · subst same
      by_cases none : rest.filter (fun y => key y = key x) = [] <;> simp [push, none]
    · simp [push, same, Ne.symm same]

/-- The whole specification of the grouping loop: a key holds its items in
order, and is absent when it has none. -/
theorem get?_groupBy (key : α → κ) (item : α → β) (items : List α) (k : κ) :
    (groupBy key item items).get? k =
      if (items.filter (fun x => key x = k)) = [] then none
      else some ((items.filter (fun x => key x = k)).map item) := by
  simp [groupBy, get?_foldl_push]

@[simp] theorem getD_get?_groupBy (key : α → κ) (item : α → β) (items : List α) (k : κ) :
    ((groupBy key item items).get? k).getD [] = (items.filter (fun x => key x = k)).map item := by
  rw [get?_groupBy]
  split
  · rename_i none; simp [none]
  · rfl

end Dict

end SurveyPlatform.Library

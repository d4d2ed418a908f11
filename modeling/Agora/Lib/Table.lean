/-
This file is a small library of tables: finite maps that list their entries in the
order of their keys, as a host lists a map that a contract walks through.

A table is one of the standard library's extensional search trees. What is added here
is the total of a reading over all entries, and how it changes when one key is written, and
what a loop over the entries of one table makes of another one. Nothing here names a
particular contract.
-/

import Mathlib

namespace Agora

/-- A finite map with its entries in the order of the keys. -/
structure Table (Key Value : Type) [Ord Key] where
  tree : Std.ExtTreeMap Key Value

namespace Table

variable {Key Value : Type} [Ord Key] [Std.TransOrd Key]

/-- The table that binds nothing. -/
def empty : Table Key Value := ⟨∅⟩

def get (table : Table Key Value) (key : Key) : Option Value :=
  table.tree[key]?

/-- Bind one key. -/
def set (table : Table Key Value) (key : Key) (value : Value) : Table Key Value :=
  ⟨table.tree.insert key value⟩

/-- Unbind one key. -/
def remove (table : Table Key Value) (key : Key) : Table Key Value :=
  ⟨table.tree.erase key⟩

def entries (table : Table Key Value) : List (Key × Value) :=
  table.tree.toList

def values (table : Table Key Value) : List Value :=
  table.entries.map Prod.snd

/-- The sum of a reading over all entries. -/
def total (table : Table Key Value) (reading : Value → Int) : Int :=
  (table.values.map reading).sum

/-! ### Reading and writing -/

@[simp]
theorem get_empty (key : Key) : (empty : Table Key Value).get key = none :=
  Std.ExtTreeMap.getElem?_empty

section Reading

variable [Std.LawfulEqOrd Key] {first second : Table Key Value}

theorem ext (same : ∀ key, first.get key = second.get key) : first = second := by
  obtain ⟨firstTree⟩ := first
  obtain ⟨secondTree⟩ := second
  exact congrArg Table.mk (Std.ExtTreeMap.ext_getElem? same)

variable {table : Table Key Value} {value : Value}

theorem mem_entries {key : Key} : (key, value) ∈ table.entries ↔ table.get key = some value :=
  Std.ExtTreeMap.mem_toList_iff_getElem?_eq_some

theorem mem_values : value ∈ table.values ↔ ∃ key, table.get key = some value := by
  simp [values, mem_entries]

theorem nodup_entries (table : Table Key Value) : table.entries.Nodup := by
  refine Std.ExtTreeMap.distinct_keys_toList.imp ?_
  rintro entry _ different rfl
  exact different Std.ReflOrd.compare_self

end Reading

section Update

variable [Std.LawfulEqOrd Key] [DecidableEq Key]

theorem get_set (table : Table Key Value) (key other : Key) (value : Value) :
    (table.set key value).get other = if other = key then some value else table.get other := by
  refine Std.ExtTreeMap.getElem?_insert.trans ?_
  simp only [Std.LawfulEqOrd.compare_eq_iff_eq, eq_comm (a := key)]
  rfl

variable {value : Value}

@[simp]
theorem get_set_self {table : Table Key Value} {key : Key} :
    (table.set key value).get key = some value := by
  rw [get_set, if_pos rfl]

variable {table : Table Key Value}

/-- What is said of every value and of a new one is said of every value after the new one was
bound. -/
theorem forall_set {key : Key} {property : Value → Prop}
    (before : ∀ key value, table.get key = some value → property value) (new : property value) :
    ∀ other content, (table.set key value).get other = some content → property content := by
  intro other content found
  rw [get_set] at found
  split at found
  · cases found
    exact new
  · exact before other content found

theorem get_remove (table : Table Key Value) (key other : Key) :
    (table.remove key).get other = if other = key then none else table.get other := by
  refine Std.ExtTreeMap.getElem?_erase.trans ?_
  simp only [Std.LawfulEqOrd.compare_eq_iff_eq, eq_comm (a := key)]
  rfl

theorem remove_set (table : Table Key Value) (key : Key) (value : Value) :
    (table.set key value).remove key = table.remove key := by
  refine ext fun other => ?_
  rw [get_remove, get_remove, get_set]
  split <;> rfl

theorem remove_of_get_eq_none {key : Key} (unbound : table.get key = none) :
    table.remove key = table := by
  refine ext fun other => ?_
  rw [get_remove]
  split
  next same => rw [same, unbound]
  next => rfl

end Update

/-! ### Loops over the entries -/

section Loops

variable {Content : Type} [DecidableEq Key]
  {step : Table Key Value → Key × Content → Table Key Value}
  (turn : Option Value → Content → Option Value)
  (steps : ∀ table entry key, (step table entry).get key =
    if key = entry.1 then turn (table.get key) entry.2 else table.get key)

include steps

variable {entries : List (Key × Content)}

theorem get_foldl_of_notMem {key : Key} (unlisted : key ∉ entries.map Prod.fst)
    (table : Table Key Value) : (entries.foldl step table).get key = table.get key := by
  induction entries generalizing table with
  | nil => rfl
  | cons entry rest inductionHypothesis =>
    rw [List.map_cons, List.mem_cons, not_or] at unlisted
    rw [List.foldl_cons, inductionHypothesis unlisted.2, steps, if_neg unlisted.1]

/-- A loop whose every step turns the entry under the key it is given, over keys that do not
repeat, turns each of them once. -/
theorem get_foldl_of_mem (distinct : (entries.map Prod.fst).Nodup) {key : Key} {content : Content}
    (listed : (key, content) ∈ entries) (table : Table Key Value) :
    (entries.foldl step table).get key = turn (table.get key) content := by
  induction entries generalizing table with
  | nil => cases listed
  | cons entry rest inductionHypothesis =>
    obtain ⟨fresh, others⟩ := List.nodup_cons.mp distinct
    rw [List.foldl_cons]
    rcases List.mem_cons.mp listed with rfl | later
    · rw [get_foldl_of_notMem turn steps fresh, steps, if_pos rfl]
    · have different : key ≠ entry.1 := by
        rintro rfl
        exact fresh (List.mem_map.mpr ⟨_, later, rfl⟩)
      rw [inductionHypothesis others later, steps, if_neg different]

/-- What a loop over the entries of another table makes of a table, key by key. -/
theorem get_foldl_entries [Std.LawfulEqOrd Key] {table : Table Key Value}
    {other : Table Key Content} {key : Key} :
    (other.entries.foldl step table).get key =
      (other.get key).elim (table.get key) (turn (table.get key)) := by
  have distinct : (other.entries.map Prod.fst).Nodup := by
    refine List.pairwise_map.mpr (Std.ExtTreeMap.distinct_keys_toList.imp ?_)
    intro first second different same
    exact different (Std.LawfulEqOrd.compare_eq_iff_eq.mpr same)
  cases found : other.get key with
  | none =>
    refine get_foldl_of_notMem turn steps (fun listed => ?_) table
    obtain ⟨⟨_, content⟩, member, rfl⟩ := List.mem_map.mp listed
    rw [mem_entries.mp member] at found
    cases found
  | some content => exact get_foldl_of_mem turn steps distinct (mem_entries.mpr found) table

end Loops

/-! ### Totals -/

section Totals

variable [Std.LawfulEqOrd Key] (reading : Value → Int)

variable {table : Table Key Value}

theorem total_eq_zero (zero : ∀ key value, table.get key = some value → reading value = 0) :
    table.total reading = 0 := by
  refine List.sum_eq_zero fun summand member => ?_
  obtain ⟨value, listed, rfl⟩ := List.mem_map.mp member
  obtain ⟨key, bound⟩ := mem_values.mp listed
  exact zero key value bound

variable [DecidableEq Key]

/-- A bound key contributes its value beside the other keys. -/
theorem total_of_get_eq_some {key : Key} {value : Value} (bound : table.get key = some value) :
    table.total reading = reading value + (table.remove key).total reading := by
  have split : table.entries.Perm ((key, value) :: (table.remove key).entries) := by
    have others : (key, value) ∉ (table.remove key).entries := by
      rw [mem_entries, get_remove, if_pos rfl]
      exact (Option.some_ne_none value).symm
    refine (List.perm_ext_iff_of_nodup (nodup_entries table)
      (List.nodup_cons.mpr ⟨others, nodup_entries _⟩)).mpr ?_
    rintro ⟨other, content⟩
    rw [List.mem_cons, mem_entries, mem_entries, get_remove, Prod.mk.injEq]
    by_cases same : other = key
    · rw [same, bound]
      simp [eq_comm]
    · simp [same]
  have summed := ((split.map Prod.snd).map reading).sum_eq
  exact summed

/-- Writing one key exchanges its contribution. -/
theorem total_set (table : Table Key Value) (key : Key) (value : Value) :
    (table.set key value).total reading =
      table.total reading + (reading value - ((table.get key).map reading).getD 0) := by
  rw [total_of_get_eq_some reading get_set_self, remove_set]
  cases bound : table.get key with
  | none =>
    rw [remove_of_get_eq_none bound]
    simp [add_comm]
  | some old =>
    rw [total_of_get_eq_some reading bound, Option.map_some, Option.getD_some]
    ring

end Totals

end Table

end Agora

/-
This file is a small library of counts: how many of the keys that were ever issued are
still open.

Each key has a standing, none before it is issued, then open or closed. The keys that
were issued are kept as a multiset, so that a key issued twice would show. A census says
that each was issued once and that the count is the number of open ones. It survives
issuing keys and closing one.
-/

import Mathlib.Data.Multiset.UnionInter

namespace Agora

variable {Key : Type}

/-- The keys are those with a standing, each once, and so many of them are open. -/
structure Census (standing : Key → Option Bool) (keys : Multiset Key) (count : Int) : Prop where
  nodup : keys.Nodup
  members : ∀ key, key ∈ keys ↔ (standing key).isSome = true
  counted : count = keys.countP fun key => standing key = some true

namespace Census

variable {before after : Key → Option Bool} {keys : Multiset Key} {count : Int}

theorem empty : Census (fun _ : Key => none) 0 0 where
  nodup := Multiset.nodup_zero
  members := by simp
  counted := by simp

theorem congr (census : Census before keys count) (same : ∀ key, after key = before key) :
    Census after keys count := by
  obtain rfl : after = before := funext same
  exact census

/-- Fresh keys are issued open. -/
theorem issue [DecidableEq Key] (census : Census before keys count) (issued : List Key)
    (distinct : issued.Nodup)
    (fresh : ∀ key ∈ issued, before key = none)
    (read : ∀ key, after key = if key ∈ issued then some true else before key) :
    Census after (keys + (issued : Multiset Key)) (count + issued.length) where
  nodup := by
    refine Multiset.nodup_add.mpr ⟨census.nodup, distinct, ?_⟩
    refine Multiset.disjoint_left.mpr fun {key} old new => ?_
    have some := (census.members key).mp old
    rw [fresh key (Multiset.mem_coe.mp new)] at some
    cases some
  members key := by
    rw [Multiset.mem_add, Multiset.mem_coe, census.members, read]
    split <;> simp [*]
  counted := by
    have old : keys.countP (fun key => after key = some true) =
        keys.countP fun key => before key = some true := by
      refine Multiset.countP_congr rfl fun key member => ?_
      have some := (census.members key).mp member
      have unissued : key ∉ issued := fun new => by
        rw [fresh key new] at some
        cases some
      rw [read, if_neg unissued]
    have new : (issued : Multiset Key).countP (fun key => after key = some true) =
        issued.length := by
      rw [Multiset.countP_eq_card.mpr fun key member => ?_, Multiset.coe_card]
      rw [read, if_pos (Multiset.mem_coe.mp member)]
    rw [Multiset.countP_add, old, new, census.counted]
    push_cast
    rfl

/-- An open key is closed. -/
theorem close [DecidableEq Key] (census : Census before keys count) {key : Key}
    (opened : before key = some true)
    (read : ∀ other, after other = if other = key then some false else before other) :
    Census after keys (count - 1) where
  nodup := census.nodup
  members other := by
    rw [census.members, read]
    split
    · rename_i same
      simp [same, opened]
    · rfl
  counted := by
    obtain ⟨rest, rfl⟩ := Multiset.exists_cons_of_mem ((census.members key).mpr (by simp [opened]))
    have absent := (Multiset.nodup_cons.mp census.nodup).1
    have others : rest.countP (fun other => after other = some true) =
        rest.countP fun other => before other = some true := by
      refine Multiset.countP_congr rfl fun other member => ?_
      have different : other ≠ key := fun same => absent (same ▸ member)
      rw [read, if_neg different]
    have closed : ¬after key = some true := by
      rw [read, if_pos rfl]
      exact nofun
    have opens : (key ::ₘ rest).countP (fun other => before other = some true) =
        rest.countP (fun other => before other = some true) + 1 :=
      Multiset.countP_cons_of_pos rest opened
    have closes : (key ::ₘ rest).countP (fun other => after other = some true) =
        rest.countP fun other => after other = some true :=
      Multiset.countP_cons_of_neg rest closed
    rw [census.counted, opens, closes, others]
    omega

end Census

end Agora

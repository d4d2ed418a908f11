/-
This file is a small library of sharded lists: items are appended to shards of a fixed
size, and a count says which shard is next and how many of them are read.

A list is given by its count and by the family of its shards, so that it does not matter
where the two are stored. An item may be taken out again, which leaves its gap where it is.
The shards stand for a set of items as long as no shard with items in it gets out of the
reach of the count.
-/

import Mathlib.Data.List.Lattice
import Mathlib.Data.List.Nodup
import Mathlib.Data.List.Pairwise
import Mathlib.Data.Nat.Basic

namespace Agora

variable {Item : Type} {size count : Nat} {shard : Nat → List Item}

/-- The items in as many shards as the count fills. -/
def inShards (size count : Nat) (shard : Nat → List Item) : List Item :=
  (List.range ((count + size - 1) / size)).flatMap shard

/-- The item goes to the shard that the count names. -/
def pushShard (size count : Nat) (shard : Nat → List Item) (item : Item) (shardId : Nat) :
    List Item :=
  if shardId = count / size then shard (count / size) ++ [item] else shard shardId

/-- The shards that the count does not reach are empty. -/
def EmptyBeyond (size count : Nat) (shard : Nat → List Item) : Prop :=
  ∀ shardId, count ≤ shardId * size → shard shardId = []

section Beyond

variable (positive : 0 < size) (beyond : EmptyBeyond size count shard)

include positive beyond

/-- Nothing more is found in more shards than the count fills. -/
theorem EmptyBeyond.inShards_of_le {shards : Nat} (enough : count ≤ shards * size) :
    inShards size count shard = (List.range shards).flatMap shard := by
  have fills : (count + size - 1) / size ≤ shards := by
    refine Nat.le_of_lt_succ ((Nat.div_lt_iff_lt_mul positive).mpr ?_)
    rw [Nat.succ_mul]
    omega
  obtain ⟨others, rfl⟩ := Nat.exists_eq_add_of_le fills
  have nothing : ((List.range others).map ((count + size - 1) / size + ·)).flatMap shard = [] := by
    refine List.flatMap_eq_nil_iff.mpr fun shardId member => ?_
    obtain ⟨offset, _, rfl⟩ := List.mem_map.mp member
    have split := Nat.div_add_mod' (count + size - 1) size
    have small := Nat.mod_lt (count + size - 1) positive
    refine beyond _ ?_
    rw [Nat.add_mul]
    omega
  rw [List.range_add, List.flatMap_append, nothing, List.append_nil]
  rfl

/-- The shards before the one that the count names, and this one, are all there is. -/
theorem EmptyBeyond.inShards_eq :
    inShards size count shard =
      (List.range (count / size)).flatMap shard ++ shard (count / size) := by
  have enough : count ≤ (count / size + 1) * size :=
    Nat.mul_comm size _ ▸ Nat.le_of_lt (Nat.lt_mul_div_succ count positive)
  rw [beyond.inShards_of_le positive enough, List.range_succ, List.flatMap_append,
    List.flatMap_singleton]

/-- A pushed item comes last. -/
theorem EmptyBeyond.inShards_push (item : Item) :
    inShards size (count + 1) (pushShard size count shard item) =
      inShards size count shard ++ [item] := by
  have shards : (count + 1 + size - 1) / size = count / size + 1 := by
    rw [show count + 1 + size - 1 = count + size by omega, Nat.add_div_right count positive]
  have earlier : (List.range (count / size)).flatMap (pushShard size count shard item) =
      (List.range (count / size)).flatMap shard := by
    refine List.flatMap_congr fun shardId member => ?_
    exact if_neg (Nat.ne_of_lt (List.mem_range.mp member))
  have last : pushShard size count shard item (count / size) = shard (count / size) ++ [item] :=
    if_pos rfl
  rw [beyond.inShards_eq positive, inShards, shards, List.range_succ, List.flatMap_append,
    List.flatMap_singleton, earlier, last, List.append_assoc]

end Beyond

theorem EmptyBeyond.push (beyond : EmptyBeyond size count shard) {item : Item} :
    EmptyBeyond size (count + 1) (pushShard size count shard item) := by
  intro shardId outside
  have later : shardId ≠ count / size := by
    rintro rfl
    exact absurd outside (Nat.not_le.mpr (Nat.lt_succ_of_le (Nat.div_mul_le_self _ _)))
  rw [pushShard, if_neg later]
  exact beyond shardId (Nat.le_of_succ_le outside)

/-! ### Sets of items -/

/-- The shards that the count reaches hold exactly these items, each of them once, and the
others hold nothing. -/
structure ShardsHold (size count : Nat) (shard : Nat → List Item) (items : Item → Prop) :
    Prop where
  beyond : EmptyBeyond size count shard
  nodup : (inShards size count shard).Nodup
  length : (inShards size count shard).length = count
  mem : ∀ item, item ∈ inShards size count shard ↔ items item

variable {items next : Item → Prop} {item : Item}

theorem shardsHold_empty {size : Nat} : ShardsHold size 0 (fun _ => []) fun _ : Item => False := by
  have list : inShards size 0 (fun _ => ([] : List Item)) = [] := by simp [inShards]
  refine ⟨fun _ _ => rfl, ?_, ?_, fun item => ?_⟩ <;> simp [list]

theorem ShardsHold.congr (holds : ShardsHold size count shard items)
    (same : ∀ item, next item ↔ items item) : ShardsHold size count shard next :=
  ⟨holds.beyond, holds.nodup, holds.length, fun item => by rw [holds.mem, same]⟩

theorem ShardsHold.push (positive : 0 < size) (holds : ShardsHold size count shard items)
    (fresh : ¬items item) :
    ShardsHold size (count + 1) (pushShard size count shard item)
      fun other => other = item ∨ items other := by
  have list := holds.beyond.inShards_push positive item
  refine ⟨holds.beyond.push, ?_, ?_, fun other => ?_⟩
  · rw [list, List.nodup_append_comm, List.singleton_append, List.nodup_cons, holds.mem]
    exact ⟨fresh, holds.nodup⟩
  · rw [list, List.length_append, holds.length, List.length_singleton]
  · rw [list, List.mem_append, List.mem_singleton, holds.mem, or_comm]

section Pop

variable [DecidableEq Item]

/-- The item is taken out of one shard, and no other shard moves up. -/
def popShard (shard : Nat → List Item) (index : Nat) (item : Item) (shardId : Nat) : List Item :=
  if shardId = index then (shard index).filter (· ≠ item) else shard shardId

/-- The condition on a removal: when it leaves nothing but full shards, the last shard lists no
other item. -/
def ClosesShard (size count : Nat) (shard : Nat → List Item) (item : Item) : Prop :=
  count % size = 1 → ∀ other ∈ shard (count / size), other = item

/-- The first shard with the item is found when it is listed. -/
theorem exists_find_shard (listed : item ∈ inShards size count shard) :
    ∃ index, (List.range ((count + size - 1) / size)).find? (fun index => item ∈ shard index) =
      some index ∧ item ∈ shard index := by
  obtain ⟨shardId, inRange, member⟩ := List.mem_flatMap.mp listed
  cases found : (List.range ((count + size - 1) / size)).find? (fun index => item ∈ shard index)
    with
  | none => exact absurd member (by simpa using List.find?_eq_none.mp found shardId inRange)
  | some first => exact ⟨first, rfl, by simpa using List.find?_some found⟩

variable {index : Nat}

/-- Every shard loses the item, for only one has it. -/
theorem ShardsHold.popShard_eq (positive : 0 < size) (holds : ShardsHold size count shard items)
    (member : item ∈ shard index) (shardId : Nat) :
    popShard shard index item shardId = (shard shardId).filter (· ≠ item) := by
  unfold popShard
  split
  · rename_i here
    rw [here]
  rename_i elsewhere
  refine (List.filter_eq_self.mpr fun other present => decide_eq_true ?_).symm
  rintro rfl
  have enough : count ≤ (count + index + shardId + 1) * size := by
    refine le_trans ?_ (Nat.mul_le_mul_left _ positive)
    omega
  have nodup := holds.nodup
  rw [holds.beyond.inShards_of_le positive enough] at nodup
  have : Std.Symm (Function.onFun List.Disjoint shard) := ⟨fun _ _ => List.Disjoint.symm⟩
  refine (List.nodup_flatMap.mp nodup).2.forall ?_ ?_ elsewhere present member
  · exact List.mem_range.mpr (by omega)
  · exact List.mem_range.mpr (by omega)

/-- A removal that closes the last shard takes the item out of the set. -/
theorem ShardsHold.pop (large : 1 < size) (holds : ShardsHold size count shard items)
    (member : item ∈ shard index) (closes : ClosesShard size count shard item) :
    ShardsHold size (count - 1) (popShard shard index item)
      fun other => other ≠ item ∧ items other := by
  have positive : 0 < size := Nat.lt_of_succ_lt large
  have popped := holds.popShard_eq positive member
  have beyond : EmptyBeyond size (count - 1) (popShard shard index item) := by
    intro shardId outside
    rw [popped]
    by_cases further : count ≤ shardId * size
    · rw [holds.beyond shardId further, List.filter_nil]
    · -- the removal takes this shard out of reach
      have last : count = shardId * size + 1 := by omega
      refine List.filter_eq_nil_iff.mpr fun other present => ?_
      refine fun different => of_decide_eq_true different (closes ?_ other ?_)
      · rw [last, Nat.add_comm, Nat.add_mul_mod_self_right, Nat.mod_eq_of_lt large]
      · rwa [last, Nat.add_comm, Nat.add_mul_div_right _ _ positive, Nat.div_eq_of_lt large,
          Nat.zero_add]
  have list : inShards size (count - 1) (popShard shard index item) =
      (inShards size count shard).filter (· ≠ item) := by
    have enough : count ≤ count * size := Nat.le_mul_of_pos_right _ positive
    rw [beyond.inShards_of_le positive (le_trans (Nat.sub_le _ _) enough),
      holds.beyond.inShards_of_le positive enough, List.filter_flatMap]
    exact List.flatMap_congr fun shardId _ => popped shardId
  have listed : item ∈ inShards size count shard := by
    have reached : ¬count ≤ index * size := fun outside =>
      List.not_mem_nil (holds.beyond index outside ▸ member)
    rw [holds.beyond.inShards_of_le positive (Nat.le_mul_of_pos_right count positive)]
    refine List.mem_flatMap.mpr ⟨index, List.mem_range.mpr ?_, member⟩
    exact lt_of_le_of_lt (Nat.le_mul_of_pos_right _ positive) (Nat.lt_of_not_le reached)
  refine ⟨beyond, list ▸ holds.nodup.filter _, ?_, fun other => ?_⟩
  · have erased := List.length_erase_of_mem listed
    rw [holds.nodup.erase_eq_filter, holds.length] at erased
    rw [list, ← erased]
    refine congrArg List.length (List.filter_congr fun other _ => ?_)
    rw [Bool.eq_iff_iff, decide_eq_true_eq, bne_iff_ne]
  · rw [list, List.mem_filter, holds.mem, decide_eq_true_eq, and_comm]

end Pop

end Agora

/-
This file is about the list of tickets that the contract keeps for every buyer, over any
calls that add an id to it or take one out, and whether it is the list of the ids that were
added and not taken out since.

The shards stand for these ids as long as no removal takes the last shard out of the reach of
the count with other ids in it.
-/

import Agora.Lib.Run
import Agora.TicketPayment.Tickets

namespace Agora.TicketPayment

open Soroban

/-- A call that writes the index of the buyers. -/
inductive IndexCall where
  | add (buyer : Address) (paymentId : PaymentId)
  | remove (buyer : Address) (paymentId : PaymentId)

/-- Which ids each buyer has. -/
abbrev Holdings := Address → PaymentId → Bool

def Holdings.set (holdings : Holdings) (buyer : Address) (paymentId : PaymentId) (has : Bool) :
    Holdings :=
  fun other otherId => if other = buyer ∧ otherId = paymentId then has else holdings other otherId

namespace IndexCall

def run (index : ShardedIndex Address) : IndexCall → ShardedIndex Address
  | add buyer paymentId => index.add buyer paymentId
  | remove buyer paymentId => index.remove buyer paymentId

/-- What the call means: the buyer has the id from now on, or no more. -/
def hold (holdings : Holdings) : IndexCall → Holdings
  | add buyer paymentId => holdings.set buyer paymentId true
  | remove buyer paymentId => holdings.set buyer paymentId false

/-- The condition on a call: a listed id is removed only if this closes a shard. -/
def Keeps (index : ShardedIndex Address) (call : IndexCall) : Prop :=
  ∀ buyer paymentId, call = remove buyer paymentId → paymentId ∈ index.list.all buyer →
    ClosesShard shardSize (index.list.countOf buyer) (index.list.shardOf buyer) paymentId

end IndexCall

namespace ShardedIndex

variable {index next : ShardedIndex Address} {holdings : Holdings} {buyer : Address}
  {paymentId : PaymentId}

/-- The shards of a buyer hold these ids. -/
def Holds (index : ShardedIndex Address) (buyer : Address) (items : PaymentId → Prop) : Prop :=
  ShardsHold shardSize (index.list.countOf buyer) (index.list.shardOf buyer) items

/-- Every buyer is listed with the ids that they have. -/
structure Lists (index : ShardedIndex Address) (holdings : Holdings) : Prop where
  holds : ∀ buyer, index.Holds buyer fun paymentId => holdings buyer paymentId = true
  marked : ∀ buyer paymentId,
    (index.entry.get (buyer, paymentId)).isSome = holdings buyer paymentId

theorem lists_empty : empty.Lists fun _ _ => false :=
  ⟨fun _ => shardsHold_empty.congr fun _ => by simp, fun _ _ => rfl⟩

variable (lists : index.Lists holdings)

include lists

/-- Nothing needs to be written when the buyer has the id already, or has it no more. -/
theorem Lists.unwritten {has : Bool} (already : holdings buyer paymentId = has) :
    index.Lists (holdings.set buyer paymentId has) := by
  have same : holdings.set buyer paymentId has = holdings := by
    funext other otherId
    refine ite_eq_right_iff.mpr ?_
    rintro ⟨rfl, rfl⟩
    exact already.symm
  rwa [same]

/-- A write concerns one buyer and one id. -/
theorem Lists.written {has : Bool} (items : PaymentId → Prop)
    (others : ∀ other, other ≠ buyer → next.list.countOf other = index.list.countOf other ∧
      next.list.shardOf other = index.list.shardOf other)
    (entries : ∀ other otherId, (next.entry.get (other, otherId)).isSome =
      holdings.set buyer paymentId has other otherId) (own : next.Holds buyer items)
    (read : ∀ otherId, holdings.set buyer paymentId has buyer otherId = true ↔ items otherId) :
    next.Lists (holdings.set buyer paymentId has) := by
  refine ⟨fun other => ?_, entries⟩
  by_cases mine : other = buyer
  · subst mine
    exact own.congr read
  · unfold Holds
    rw [(others other mine).1, (others other mine).2]
    exact (lists.holds other).congr fun otherId => by rw [Holdings.set, if_neg fun both =>
      mine both.1]

theorem Lists.add :
    (index.add buyer paymentId).Lists (holdings.set buyer paymentId true) := by
  unfold ShardedIndex.add
  split
  · rename_i listed
    exact lists.unwritten ((lists.marked buyer paymentId).symm.trans listed)
  rename_i fresh
  rw [lists.marked] at fresh
  have own := (lists.holds buyer).push (by decide) fresh
  rw [← ShardedList.shardOf_append_self] at own
  refine lists.written (fun otherId => otherId = paymentId ∨ holdings buyer otherId = true)
    (fun other different => ⟨?_, ?_⟩) (fun other otherId => ?_) ?_ fun otherId => ?_
  · rw [ShardedList.countOf_append, if_neg different]
  · funext shardId
    rw [ShardedList.shardOf_append, if_neg fun both => different both.1]
  · rw [Store.get_set, Holdings.set, ← lists.marked]
    simp only [Prod.mk.injEq]
    split <;> rfl
  · unfold Holds
    rw [ShardedList.countOf_append, if_pos rfl]
    exact own
  · by_cases new : otherId = paymentId <;> simp [Holdings.set, new]

theorem Lists.remove
    (closes : paymentId ∈ index.list.all buyer → ClosesShard shardSize (index.list.countOf buyer)
      (index.list.shardOf buyer) paymentId) :
    (index.remove buyer paymentId).Lists (holdings.set buyer paymentId false) := by
  by_cases listed : paymentId ∈ index.list.all buyer
  · obtain ⟨shardId, found, member⟩ := exists_find_shard listed
    have found : (List.range (index.list.shardCount buyer)).find?
      (fun shardId => paymentId ∈ index.list.shardOf buyer shardId) = some shardId := found
    have own := (lists.holds buyer).pop (by decide) member (closes listed)
    simp only [ShardedIndex.remove, found]
    refine lists.written (fun otherId => otherId ≠ paymentId ∧ holdings buyer otherId = true)
      (fun other different => ⟨?_, ?_⟩) (fun other otherId => ?_) ?_ fun otherId => ?_
    · rw [ShardedList.countOf, Store.get_set, if_neg different]
      rfl
    · funext otherShard
      rw [ShardedList.shardOf, Store.get_set, if_neg fun same => different (Prod.ext_iff.mp same).1]
      rfl
    · rw [Store.get_remove, Holdings.set, ← lists.marked]
      simp only [Prod.mk.injEq]
      split <;> rfl
    · have count (shard : Store (Address × Nat) (List PaymentId)) : ShardedList.countOf
          ⟨shard, index.list.count.set buyer (index.list.countOf buyer - 1)⟩ buyer =
            index.list.countOf buyer - 1 := by
        rw [ShardedList.countOf, Store.get_set, if_pos rfl]
        rfl
      have shards (count : Store Address Nat) : ShardedList.shardOf
          ⟨index.list.shard.set (buyer, shardId)
            ((index.list.shardOf buyer shardId).filter (· ≠ paymentId)), count⟩ buyer =
              popShard (index.list.shardOf buyer) shardId paymentId := by
        funext otherShard
        simp only [ShardedList.shardOf, Store.get_set, Prod.mk.injEq, true_and, popShard]
        split <;> rfl
      unfold Holds
      rw [count, shards]
      exact own
    · by_cases removed : otherId = paymentId <;> simp [Holdings.set]
  · have absent := mt ((lists.holds buyer).mem paymentId).mpr listed
    have unfound : (List.range (index.list.shardCount buyer)).find?
        (fun shardId => paymentId ∈ index.list.shardOf buyer shardId) = none := by
      refine List.find?_eq_none.mpr fun shardId inRange present => listed ?_
      exact List.mem_flatMap.mpr ⟨shardId, inRange, of_decide_eq_true present⟩
    simp only [ShardedIndex.remove, unfound]
    exact lists.unwritten (Bool.eq_false_of_not_eq_true absent)

theorem Lists.run {call : IndexCall} (keeps : call.Keeps index) :
    (call.run index).Lists (call.hold holdings) := by
  cases call with
  | add buyer paymentId => exact lists.add
  | remove buyer paymentId => exact lists.remove (keeps buyer paymentId rfl)

/-- The index follows what the calls mean. -/
theorem Lists.runActions {calls : List IndexCall}
    (keeps : Respects IndexCall.run (fun index call => call.Keeps index) index calls) :
    (Agora.runActions IndexCall.run index calls).Lists (calls.foldl IndexCall.hold holdings) := by
  induction calls generalizing index holdings with
  | nil => exact lists
  | cons call rest inductionHypothesis =>
    exact inductionHypothesis (lists.run keeps.1) keeps.2

end ShardedIndex

/-- In every run of such calls the list of a buyer has each id that was added and not taken out
since, once, and nothing else, and the stored number is its length. -/
theorem buyer_index_exact (calls : List IndexCall)
    (keeps : Respects IndexCall.run (fun index call => call.Keeps index) .empty calls)
    (tickets : Tickets) (buyer : Address) :
    let index := runActions IndexCall.run .empty calls
    let listed := { tickets with byBuyer := index }.getBuyerPayments buyer
    listed.Nodup ∧
      (∀ paymentId, paymentId ∈ listed ↔
        calls.foldl IndexCall.hold (fun _ _ => false) buyer paymentId = true) ∧
      index.list.countOf buyer = listed.length := by
  have holds := (ShardedIndex.lists_empty.runActions keeps).holds buyer
  exact ⟨holds.nodup, holds.mem, holds.length.symm⟩

def collector : Address := ⟨"collector"⟩

/-- Of two tickets one is given away. -/
theorem kept_ticket_listed :
    let index := runActions IndexCall.run .empty
      [.add collector "first", .add collector "second", .remove collector "first"]
    "second" ∈ { Tickets.empty with byBuyer := index }.getBuyerPayments collector := by
  refine ((buyer_index_exact [.add collector "first", .add collector "second",
    .remove collector "first"] ⟨by rintro _ _ ⟨⟩, by rintro _ _ ⟨⟩, ?_, trivial⟩ .empty
    collector).2.1 _).mpr (by decide)
  rintro buyer paymentId ⟨⟩ _ absurdity
  exact absurd absurdity (by decide)

/-- Of a hundred and one tickets the first one is given away. The last one is not in the list any
more. -/
theorem last_ticket_unlisted :
    let tickets := (List.range 101).map fun number =>
      String.ofList (List.replicate (number + 1) 't')
    let calls := tickets.map (IndexCall.add collector) ++ [.remove collector "t"]
    let index := runActions IndexCall.run .empty calls
    let listed := { Tickets.empty with byBuyer := index }.getBuyerPayments collector
    (∃ last ∈ tickets, last ∉ listed ∧
        calls.foldl IndexCall.hold (fun _ _ => false) collector last = true) ∧
      listed.length = 99 ∧ index.list.countOf collector = 100 := by
  refine ⟨⟨String.ofList (List.replicate 101 't'), ?_, ?_, ?_⟩, ?_, ?_⟩ <;> decide +kernel

end Agora.TicketPayment

/-
This file models the ticket records of the contract and the indices kept beside
them: payments by event, by buyer and by status, the hashes of the ticket secrets,
and the attendance tokens.

The status index stores a list and a marker for every entry. The two always agree
and no list has a duplicate, whatever the records say, so both facts are fields of
`StatusIndex`. Whether the index agrees with the records is another question, and
depends on who writes them.
-/

import Agora.Lib.Shards
import Agora.Lib.Store
import Agora.TicketPayment.Types

namespace Agora.TicketPayment

open Soroban

/-! ### Sharded indices -/

def shardSize : Nat := 100

/-- Payment ids by owner, appended to shards of a fixed size. -/
structure ShardedList (Owner : Type) where
  shard : Store (Owner × Nat) (List PaymentId)
  count : Store Owner Nat

namespace ShardedList

variable {Owner : Type}

def empty : ShardedList Owner := ⟨.empty, .empty⟩

def countOf (list : ShardedList Owner) (owner : Owner) : Nat :=
  (list.count.get owner).getD 0

def shardOf (list : ShardedList Owner) (owner : Owner) (shardId : Nat) : List PaymentId :=
  (list.shard.get (owner, shardId)).getD []

def shardCount (list : ShardedList Owner) (owner : Owner) : Nat :=
  (list.countOf owner + shardSize - 1) / shardSize

/-- The ids of an owner, shard after shard. -/
def all (list : ShardedList Owner) (owner : Owner) : List PaymentId :=
  (List.range (list.shardCount owner)).flatMap (list.shardOf owner)

variable [DecidableEq Owner]

/-- Append an id to the shard the count points at. -/
def append (list : ShardedList Owner) (owner : Owner) (paymentId : PaymentId) :
    ShardedList Owner where
  shard := list.shard.set (owner, list.countOf owner / shardSize)
    (list.shardOf owner (list.countOf owner / shardSize) ++ [paymentId])
  count := list.count.set owner (list.countOf owner + 1)

section Packed

variable {list : ShardedList Owner} {owner other : Owner} {paymentId : PaymentId}

/-- The shards are filled one after another, and the count is the number of ids. Only `append`
keeps this: a removal leaves its gap where it is. -/
structure Packed (list : ShardedList Owner) (owner : Owner) : Prop where
  beyond : ∀ shardId, list.countOf owner ≤ shardId * shardSize → list.shardOf owner shardId = []
  length : (list.all owner).length = list.countOf owner

omit [DecidableEq Owner] in
theorem packed_empty (owner : Owner) : (empty : ShardedList Owner).Packed owner :=
  ⟨fun _ _ => rfl, by simp [all, shardCount, countOf, empty, shardSize]⟩

theorem countOf_append :
    (list.append owner paymentId).countOf other =
      if other = owner then list.countOf owner + 1 else list.countOf other := by
  rw [countOf, append, Store.get_set]
  split <;> rfl

theorem shardOf_append (shardId : Nat) :
    (list.append owner paymentId).shardOf other shardId =
      if other = owner ∧ shardId = list.countOf owner / shardSize then
        list.shardOf owner (list.countOf owner / shardSize) ++ [paymentId]
      else list.shardOf other shardId := by
  simp only [shardOf, append, Store.get_set, Prod.mk.injEq]
  split <;> rfl

theorem all_append_other (different : other ≠ owner) :
    (list.append owner paymentId).all other = list.all other := by
  have same : (list.append owner paymentId).shardOf other = list.shardOf other := by
    funext shardId
    rw [shardOf_append, if_neg fun both => different both.1]
  rw [all, shardCount, countOf_append, if_neg different, same]
  rfl

theorem shardOf_append_self :
    (list.append owner paymentId).shardOf owner =
      pushShard shardSize (list.countOf owner) (list.shardOf owner) paymentId := by
  funext shardId
  simp [shardOf_append, pushShard]

theorem Packed.all_append (packed : list.Packed owner) :
    (list.append owner paymentId).all owner = list.all owner ++ [paymentId] := by
  have count : (list.append owner paymentId).countOf owner = list.countOf owner + 1 := by
    rw [countOf_append, if_pos rfl]
  show inShards shardSize _ _ = inShards shardSize _ _ ++ _
  rw [count, shardOf_append_self]
  exact EmptyBeyond.inShards_push (by decide) packed.beyond paymentId

theorem Packed.append (packed : ∀ owner, list.Packed owner) (other : Owner) :
    (list.append owner paymentId).Packed other := by
  by_cases same : other = owner
  · subst same
    refine ⟨?_, ?_⟩
    · rw [countOf_append, if_pos rfl, shardOf_append_self]
      exact EmptyBeyond.push (packed other).beyond
    · rw [(packed other).all_append, countOf_append, if_pos rfl, List.length_append,
        (packed other).length, List.length_singleton]
  · refine ⟨fun shardId beyond => ?_, ?_⟩
    · rw [countOf_append, if_neg same] at beyond
      rw [shardOf_append, if_neg fun both => same both.1]
      exact (packed other).beyond shardId beyond
    · rw [all_append_other same, countOf_append, if_neg same]
      exact (packed other).length

end Packed

end ShardedList

/-- A sharded list with a marker for every id of every owner. -/
structure ShardedIndex (Owner : Type) where
  entry : Store (Owner × PaymentId) Unit
  list : ShardedList Owner

namespace ShardedIndex

variable {Owner : Type}

def empty : ShardedIndex Owner := ⟨.empty, .empty⟩

variable [DecidableEq Owner]

def add (index : ShardedIndex Owner) (owner : Owner) (paymentId : PaymentId) :
    ShardedIndex Owner :=
  if (index.entry.get (owner, paymentId)).isSome then index
  else
    { entry := index.entry.set (owner, paymentId) ()
      list := index.list.append owner paymentId }

/-- Only the first shard that holds the id is rewritten. -/
def remove (index : ShardedIndex Owner) (owner : Owner) (paymentId : PaymentId) :
    ShardedIndex Owner :=
  match (List.range (index.list.shardCount owner)).find?
      fun shardId => paymentId ∈ index.list.shardOf owner shardId with
  | none => index
  | some shardId =>
    { entry := index.entry.remove (owner, paymentId)
      list :=
        { shard := index.list.shard.set (owner, shardId)
            ((index.list.shardOf owner shardId).filter (· ≠ paymentId))
          count := index.list.count.set owner (index.list.countOf owner - 1) } }

end ShardedIndex

/-! ### The status index -/

/-- Payment ids by event and status, with a marker for every entry. -/
structure StatusIndex where
  list : Store (EventId × PaymentStatus) (List PaymentId)
  entry : Store (EventId × PaymentStatus × PaymentId) Unit
  marked : ∀ eventId status paymentId,
    (entry.get (eventId, status, paymentId)).isSome = true ↔
      paymentId ∈ (list.get (eventId, status)).getD []
  nodup : ∀ eventId status, ((list.get (eventId, status)).getD []).Nodup

namespace StatusIndex

/-- The source's `get_payments_by_status`. -/
def getPaymentsByStatus (index : StatusIndex) (eventId : EventId) (status : PaymentStatus) :
    List PaymentId :=
  (index.list.get (eventId, status)).getD []

def empty : StatusIndex where
  list := .empty
  entry := .empty
  marked := by simp
  nodup := by simp

def addPaymentToStatusIndex (index : StatusIndex) (eventId : EventId) (status : PaymentStatus)
    (paymentId : PaymentId) : StatusIndex :=
  if indexed : (index.entry.get (eventId, status, paymentId)).isSome = true then index
  else
    { list := index.list.set (eventId, status)
        (index.getPaymentsByStatus eventId status ++ [paymentId])
      entry := index.entry.set (eventId, status, paymentId) ()
      marked := by
        intro otherEvent otherStatus otherId
        have before := index.marked otherEvent otherStatus otherId
        simp only [Store.get_set, getPaymentsByStatus, Prod.mk.injEq]
        by_cases sameKey : otherEvent = eventId ∧ otherStatus = status
        · obtain ⟨rfl, rfl⟩ := sameKey
          by_cases sameId : otherId = paymentId
          · simp [sameId]
          · simpa [sameId] using before
        · have different : ¬(otherEvent = eventId ∧ otherStatus = status ∧ otherId = paymentId) :=
            fun same => sameKey ⟨same.1, same.2.1⟩
          rw [if_neg different, if_neg sameKey]
          exact before
      nodup := by
        intro otherEvent otherStatus
        have before := index.nodup otherEvent otherStatus
        simp only [Store.get_set, getPaymentsByStatus, Prod.mk.injEq]
        by_cases sameKey : otherEvent = eventId ∧ otherStatus = status
        · obtain ⟨rfl, rfl⟩ := sameKey
          have absent : paymentId ∉ (index.list.get (otherEvent, otherStatus)).getD [] :=
            fun member => indexed ((index.marked _ _ _).mpr member)
          simp only [and_self, if_true, Option.getD_some]
          refine List.nodup_append.mpr ⟨before, List.nodup_singleton _, ?_⟩
          intro first member second single equal
          rw [List.mem_singleton] at single
          exact absent (single ▸ equal ▸ member)
        · rw [if_neg sameKey]
          exact before }

def removePaymentFromStatusIndex (index : StatusIndex) (eventId : EventId)
    (status : PaymentStatus) (paymentId : PaymentId) : StatusIndex where
  list := index.list.set (eventId, status)
    ((index.getPaymentsByStatus eventId status).filter (· ≠ paymentId))
  entry := index.entry.remove (eventId, status, paymentId)
  marked := by
    intro otherEvent otherStatus otherId
    have before := index.marked otherEvent otherStatus otherId
    simp only [Store.get_set, Store.get_remove, getPaymentsByStatus, Prod.mk.injEq]
    by_cases sameKey : otherEvent = eventId ∧ otherStatus = status
    · obtain ⟨rfl, rfl⟩ := sameKey
      by_cases sameId : otherId = paymentId
      · simp [sameId]
      · simpa [sameId] using before
    · have different : ¬(otherEvent = eventId ∧ otherStatus = status ∧ otherId = paymentId) :=
        fun same => sameKey ⟨same.1, same.2.1⟩
      rw [if_neg different, if_neg sameKey]
      exact before
  nodup := by
    intro otherEvent otherStatus
    have before := index.nodup otherEvent otherStatus
    simp only [Store.get_set, getPaymentsByStatus, Prod.mk.injEq]
    by_cases sameKey : otherEvent = eventId ∧ otherStatus = status
    · obtain ⟨rfl, rfl⟩ := sameKey
      simpa using before.filter _
    · rw [if_neg sameKey]
      exact before

def updatePaymentStatusIndex (index : StatusIndex) (eventId : EventId)
    (oldStatus newStatus : PaymentStatus) (paymentId : PaymentId) : StatusIndex :=
  (index.removePaymentFromStatusIndex eventId oldStatus paymentId).addPaymentToStatusIndex
    eventId newStatus paymentId

theorem mem_addPaymentToStatusIndex (index : StatusIndex) (eventId otherEvent : EventId)
    (status otherStatus : PaymentStatus) (paymentId otherId : PaymentId) :
    otherId ∈ (index.addPaymentToStatusIndex eventId status paymentId).getPaymentsByStatus
        otherEvent otherStatus ↔
      otherId ∈ index.getPaymentsByStatus otherEvent otherStatus ∨
        (otherEvent = eventId ∧ otherStatus = status ∧ otherId = paymentId) := by
  unfold addPaymentToStatusIndex
  split
  · rename_i indexed
    refine ⟨Or.inl, ?_⟩
    rintro (member | ⟨rfl, rfl, rfl⟩)
    · exact member
    · exact (index.marked _ _ _).mp indexed
  · simp only [getPaymentsByStatus, Store.get_set, Prod.mk.injEq]
    by_cases sameKey : otherEvent = eventId ∧ otherStatus = status
    · obtain ⟨rfl, rfl⟩ := sameKey
      simp
    · rw [if_neg sameKey]
      refine ⟨Or.inl, ?_⟩
      rintro (member | ⟨sameEvent, sameStatus, _⟩)
      · exact member
      · exact absurd ⟨sameEvent, sameStatus⟩ sameKey

theorem mem_removePaymentFromStatusIndex (index : StatusIndex) (eventId otherEvent : EventId)
    (status otherStatus : PaymentStatus) (paymentId otherId : PaymentId) :
    otherId ∈ (index.removePaymentFromStatusIndex eventId status paymentId).getPaymentsByStatus
        otherEvent otherStatus ↔
      otherId ∈ index.getPaymentsByStatus otherEvent otherStatus ∧
        ¬(otherEvent = eventId ∧ otherStatus = status ∧ otherId = paymentId) := by
  simp only [removePaymentFromStatusIndex, getPaymentsByStatus, Store.get_set, Prod.mk.injEq]
  by_cases sameKey : otherEvent = eventId ∧ otherStatus = status
  · obtain ⟨rfl, rfl⟩ := sameKey
    simp
  · rw [if_neg sameKey]
    refine ⟨fun member => ⟨member, ?_⟩, And.left⟩
    rintro ⟨sameEvent, sameStatus, _⟩
    exact sameKey ⟨sameEvent, sameStatus⟩

end StatusIndex

/-! ### Records -/

/-- The ticket records with everything kept beside them. -/
structure Tickets where
  payments : Store PaymentId Payment
  byEvent : ShardedIndex EventId
  byBuyer : ShardedIndex Address
  byStatus : StatusIndex
  validationHash : Store PaymentId BytesN32
  poapMinted : Store PaymentId Unit
  poaps : ShardedList Address

namespace Tickets

def empty : Tickets := ⟨.empty, .empty, .empty, .empty, .empty, .empty, .empty⟩

def getPayment (tickets : Tickets) (paymentId : PaymentId) : Option Payment :=
  tickets.payments.get paymentId

def getEventPayments (tickets : Tickets) (eventId : EventId) : List PaymentId :=
  tickets.byEvent.list.all eventId

def getBuyerPayments (tickets : Tickets) (buyer : Address) : List PaymentId :=
  tickets.byBuyer.list.all buyer

/-- The address holds a confirmed ticket of the event. -/
def hasConfirmedTicket (tickets : Tickets) (eventId : EventId) (address : Address) : Bool :=
  (tickets.getEventPayments eventId).any fun paymentId =>
    (tickets.getPayment paymentId).any fun payment =>
      decide (payment.buyerAddress = address ∧ payment.status = .confirmed)

/-- Write a record without touching an index. -/
def setPayment (tickets : Tickets) (paymentId : PaymentId) (payment : Payment) : Tickets :=
  { tickets with payments := tickets.payments.set paymentId payment }

/-- Write a record; the indices learn of it only when the id was not stored before. -/
def storePayment (tickets : Tickets) (payment : Payment) : Tickets :=
  let written := tickets.setPayment payment.paymentId payment
  if (tickets.getPayment payment.paymentId).isSome then written
  else
    { written with
      byEvent := tickets.byEvent.add payment.eventId payment.paymentId
      byBuyer := tickets.byBuyer.add payment.buyerAddress payment.paymentId
      byStatus := tickets.byStatus.addPaymentToStatusIndex payment.eventId payment.status
        payment.paymentId }

/-- Move an id in the status index when the status changed. -/
def reindexStatus (tickets : Tickets) (eventId : EventId) (oldStatus newStatus : PaymentStatus)
    (paymentId : PaymentId) : Tickets :=
  if oldStatus = newStatus then tickets
  else
    { tickets with
      byStatus := tickets.byStatus.updatePaymentStatusIndex eventId oldStatus newStatus
        paymentId }

/-- Hand a ticket over in the buyer index. -/
def reindexBuyer (tickets : Tickets) (seller buyer : Address) (paymentId : PaymentId) : Tickets :=
  { tickets with byBuyer := (tickets.byBuyer.remove seller paymentId).add buyer paymentId }

def storeValidationHash (tickets : Tickets) (paymentId : PaymentId) (hash : BytesN32) :
    Tickets :=
  { tickets with validationHash := tickets.validationHash.set paymentId hash }

def verifySecret (host : Host) (tickets : Tickets) (paymentId : PaymentId) (rawSecret : Bytes) :
    Bool :=
  match tickets.validationHash.get paymentId with
  | some stored => host.sha256 rawSecret == stored
  | none => false

def isPoapMinted (tickets : Tickets) (paymentId : PaymentId) : Bool :=
  (tickets.poapMinted.get paymentId).isSome

def markPoapMinted (tickets : Tickets) (paymentId : PaymentId) (attendee : Address) : Tickets :=
  { tickets with
    poapMinted := tickets.poapMinted.set paymentId ()
    poaps := tickets.poaps.append attendee paymentId }

/-- The source's `get_poaps_by_attendee`. -/
def getPoapsByAttendee (tickets : Tickets) (attendee : Address) : List PaymentId :=
  tickets.poaps.all attendee

/-! ### Reading the records back -/

section Reading

variable (tickets : Tickets) (paymentId other : PaymentId) (payment : Payment)

theorem getPayment_setPayment :
    (tickets.setPayment paymentId payment).getPayment other =
      if other = paymentId then some payment else tickets.getPayment other := rfl

theorem getPayment_storePayment :
    (tickets.storePayment payment).getPayment other =
      if other = payment.paymentId then some payment else tickets.getPayment other := by
  unfold storePayment
  split <;> rfl

@[simp]
theorem validationHash_storePayment :
    (tickets.storePayment payment).validationHash = tickets.validationHash := by
  unfold storePayment
  split <;> rfl

@[simp]
theorem getPayment_reindexStatus (eventId : EventId) (oldStatus newStatus : PaymentStatus) :
    (tickets.reindexStatus eventId oldStatus newStatus paymentId).getPayment other =
      tickets.getPayment other := by
  unfold reindexStatus
  split <;> rfl

@[simp]
theorem getPayment_storeValidationHash (hash : BytesN32) :
    (tickets.storeValidationHash paymentId hash).getPayment other = tickets.getPayment other := rfl

@[simp]
theorem getPayment_markPoapMinted (attendee : Address) :
    (tickets.markPoapMinted paymentId attendee).getPayment other = tickets.getPayment other := rfl

/-- What is kept about the attendance tokens. -/
def attendance : Store PaymentId Unit × ShardedList Address := (tickets.poapMinted, tickets.poaps)

@[simp]
theorem attendance_storePayment :
    (tickets.storePayment payment).attendance = tickets.attendance := by
  unfold storePayment
  split <;> rfl

@[simp]
theorem attendance_reindexStatus {eventId : EventId} {oldStatus newStatus : PaymentStatus} :
    (tickets.reindexStatus eventId oldStatus newStatus paymentId).attendance =
      tickets.attendance := by
  unfold reindexStatus
  split <;> rfl

end Reading

/-- A property of all stored records. -/
def Every (tickets : Tickets) (property : PaymentId → Payment → Prop) : Prop :=
  ∀ paymentId payment, tickets.getPayment paymentId = some payment → property paymentId payment

theorem every_empty (property : PaymentId → Payment → Prop) : empty.Every property := by
  intro paymentId payment stored
  cases stored

variable {paymentId : PaymentId} {payment : Payment}

/-- A property of all records is kept by a change that writes one record. -/
theorem Every.write {tickets next : Tickets} {property : PaymentId → Payment → Prop}
    (every : tickets.Every property)
    (read : ∀ other, next.getPayment other =
      if other = paymentId then some payment else tickets.getPayment other)
    (written : property paymentId payment) : next.Every property := by
  intro other stored found
  rw [read] at found
  split at found
  · rename_i same
    cases found
    rw [same]
    exact written
  · exact every other stored found

/-- Every record is stored under its own id. -/
abbrev Keyed (tickets : Tickets) : Prop :=
  tickets.Every fun paymentId payment => payment.paymentId = paymentId

variable {record : Payment}

theorem Keyed.storePayment {tickets : Tickets} (keyed : tickets.Keyed) :
    (tickets.storePayment record).Keyed :=
  keyed.write (fun other => getPayment_storePayment tickets other record) rfl

/-- Every stored record has a successor that is related to it. -/
def Follows (relation : Payment → Payment → Prop) (before after : Tickets) : Prop :=
  ∀ paymentId payment, before.getPayment paymentId = some payment →
    ∃ record, after.getPayment paymentId = some record ∧ relation payment record

section Follows

variable {relation : Payment → Payment → Prop} {before middle after : Tickets}

theorem Follows.of_read (refl : ∀ payment, relation payment payment)
    (same : ∀ paymentId, after.getPayment paymentId = before.getPayment paymentId) :
    Follows relation before after := by
  intro paymentId payment stored
  exact ⟨payment, (same paymentId).trans stored, refl payment⟩

theorem Follows.trans
    (compose : ∀ first second third, relation first second → relation second third →
      relation first third)
    (head : Follows relation before middle) (tail : Follows relation middle after) :
    Follows relation before after := by
  intro paymentId payment stored
  obtain ⟨record, found, related⟩ := head paymentId payment stored
  obtain ⟨final, foundFinal, relatedFinal⟩ := tail paymentId record found
  exact ⟨final, foundFinal, compose payment record final related relatedFinal⟩

/-- A change that writes one record. -/
theorem Follows.write
    (refl : ∀ payment, relation payment payment)
    (read : ∀ other, after.getPayment other =
      if other = paymentId then some record else before.getPayment other)
    (related : ∀ payment, before.getPayment paymentId = some payment → relation payment record) :
    Follows relation before after := by
  intro other payment stored
  by_cases same : other = paymentId
  · exact ⟨record, by rw [read, if_pos same], related payment (same ▸ stored)⟩
  · exact ⟨payment, by rw [read, if_neg same, stored], refl payment⟩

theorem Follows.rewrite
    (refl : ∀ payment, relation payment payment)
    (stored : before.getPayment paymentId = some payment)
    (read : ∀ other, after.getPayment other =
      if other = paymentId then some record else before.getPayment other)
    (related : relation payment record) : Follows relation before after := by
  refine .write refl read fun earlier found => ?_
  cases stored.symm.trans found
  exact related

end Follows

end Tickets

end Agora.TicketPayment

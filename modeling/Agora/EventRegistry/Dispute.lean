/-
This file models the disputes of the registry: the holder of a ticket opens one, addresses
vote on it for two days, and after that anybody can have it resolved.

A vote is written in several places: the counters of the dispute, the vote of the voter,
and the list of the voters, which is kept in shards. The payment contract reads nothing of
a dispute but its status. The two contracts run together here, and the statuses that the
payment contract reads are those of the stored disputes.
-/

import Agora.EventRegistry.UserLimit

namespace Agora.EventRegistry

open Soroban TicketPayment

/-! ### Data -/

inductive DisputeVote where
  | buyerFavor
  | organizerFavor
  deriving DecidableEq, Repr

structure Dispute where
  eventId : EventId
  openedBy : Address
  openedAt : Nat
  closesAt : Nat
  status : DisputeStatus
  totalVotes : Nat
  buyerVotes : Nat
  organizerVotes : Nat
  quorumThresholdBps : Nat
  totalEligibleTickets : Int
  deriving DecidableEq, Repr

/-- What the registry stores of its disputes. A dispute is stored under the event it names. -/
structure DisputeStorage where
  dispute : Store EventId Dispute
  disputeVote : Store (EventId × Address) DisputeVote
  disputeVoteShard : Store (EventId × Nat) (List Address)
  disputeVoteCount : Store EventId Nat
  keyed : ∀ eventId, ∀ record ∈ dispute.get eventId, record.eventId = eventId

/-- An entry point of the registry that is about disputes. -/
abbrev DisputeEntry (Value : Type) := Transaction DisputeStorage (Fault EventRegistryError) Value

namespace DisputeStorage

def disputeShardSize : Nat := 50

def empty : DisputeStorage where
  dispute := .empty
  disputeVote := .empty
  disputeVoteShard := .empty
  disputeVoteCount := .empty
  keyed _ _ absent := by cases absent

variable (storage : DisputeStorage) (eventId : EventId)

def storeDispute (record : Dispute) : DisputeStorage :=
  { storage with
    dispute := storage.dispute.set record.eventId record
    keyed := Store.forall_set storage.keyed rfl }

theorem dispute_storeDispute (record : Dispute) :
    (storage.storeDispute record).dispute = storage.dispute.set record.eventId record := rfl

def storeDisputeVote (voter : Address) (vote : DisputeVote) : DisputeStorage :=
  { storage with disputeVote := storage.disputeVote.set (eventId, voter) vote }

def getDisputeVoteCount : Nat :=
  (storage.disputeVoteCount.get eventId).getD 0

def voteShard (shardId : Nat) : List Address :=
  (storage.disputeVoteShard.get (eventId, shardId)).getD []

def addDisputeVote (voter : Address) : DisputeStorage :=
  let count := storage.getDisputeVoteCount eventId
  let shardId := count / disputeShardSize
  { storage with
    disputeVoteShard := storage.disputeVoteShard.set (eventId, shardId)
      (storage.voteShard eventId shardId ++ [voter])
    disputeVoteCount := storage.disputeVoteCount.set eventId (count + 1) }

def hasVoted (voter : Address) : Bool :=
  (storage.disputeVote.get (eventId, voter)).isSome

/-- The voters of an event, shard after shard. -/
def voters : List Address :=
  inShards disputeShardSize (storage.getDisputeVoteCount eventId) (storage.voteShard eventId)

/-- A voter without a stored vote is left out. -/
def getDisputeVotes : List DisputeVote :=
  if storage.getDisputeVoteCount eventId = 0 then []
  else (storage.voters eventId).filterMap fun voter => storage.disputeVote.get (eventId, voter)

/-- What the payment contract reads of the disputes. -/
def statuses : Store EventId DisputeStatus :=
  storage.dispute.map (·.status)

end DisputeStorage

/-! ### Entry points -/

def defaultQuorumBps : Nat := 3000

/-- The result of checked arithmetic in u32. -/
def checkedU32 (value : Nat) : Option Nat :=
  if value < 2 ^ 32 then some value else none

theorem checkedU32_eq_some {value result : Nat} :
    checkedU32 value = some result ↔ value < 2 ^ 32 ∧ result = value := by
  unfold checkedU32
  by_cases small : value < 2 ^ 32
  · rw [if_pos small, Option.some.injEq]
    exact ⟨fun same => ⟨small, same.symm⟩, fun both => both.2.symm⟩
  · rw [if_neg small]
    exact iff_of_false (by simp) fun both => small both.1

namespace Dispute

/-- The number of eligible tickets is never filled in. -/
def opening (eventId : EventId) (openedBy : Address) (now : Nat) : Dispute where
  eventId := eventId
  openedBy := openedBy
  openedAt := now
  closesAt := now + disputeVotingDuration
  status := .opened
  totalVotes := 0
  buyerVotes := 0
  organizerVotes := 0
  quorumThresholdBps := defaultQuorumBps
  totalEligibleTickets := 0

variable (dispute : Dispute)

def Live : Prop :=
  dispute.status = .opened ∨ dispute.status = .voting

instance : Decidable dispute.Live :=
  inferInstanceAs (Decidable (_ ∨ _))

def Resolved : Prop :=
  dispute.status = .resolvedBuyer ∨ dispute.status = .resolvedOrganizer

instance : Decidable dispute.Resolved :=
  inferInstanceAs (Decidable (_ ∨ _))

/-- The dispute with one more vote. -/
def withVote : DisputeVote → Dispute
  | .buyerFavor =>
    { dispute with
      status := if dispute.status = .opened then .voting else dispute.status
      totalVotes := dispute.totalVotes + 1
      buyerVotes := dispute.buyerVotes + 1 }
  | .organizerFavor =>
    { dispute with
      status := if dispute.status = .opened then .voting else dispute.status
      totalVotes := dispute.totalVotes + 1
      organizerVotes := dispute.organizerVotes + 1 }

/-- The side that a vote is counted for. -/
def votesFor : DisputeVote → Nat
  | .buyerFavor => dispute.buyerVotes
  | .organizerFavor => dispute.organizerVotes

/-- What is compared with the quorum is the share of the buyers in the votes. -/
def meetsQuorum (buyerBps : Nat) : Prop :=
  0 < dispute.totalVotes ∧ dispute.quorumThresholdBps ≤ buyerBps / dispute.totalVotes

instance (buyerBps : Nat) : Decidable (dispute.meetsQuorum buyerBps) :=
  inferInstanceAs (Decidable (_ ∧ _))

def verdict (buyerBps : Nat) : DisputeStatus :=
  if dispute.meetsQuorum buyerBps ∧ dispute.organizerVotes < dispute.buyerVotes then
    .resolvedBuyer
  else .resolvedOrganizer

end Dispute

namespace Disputes

def getDispute (eventId : EventId) : DisputeEntry Dispute := do
  let storage ← get
  orFault (storage.dispute.get eventId) (.error .disputeNotFound)

/-- The registry is read for the event and for the payment contract, and this one for the
ticket. -/
def openDispute (registry : Registry) (signed : Address → Bool) (timestamp : Nat)
    (hasConfirmedTicket : Bool) (eventId : EventId) (openedBy : Address) :
    DisputeEntry Unit := do
  require (signed openedBy = true) .trap
  let event ← orFault (registry.events.get eventId) (.error .eventNotFound)
  let storage ← get
  require (storage.dispute.get eventId = none) (.error .eventAlreadyExists)
  require (event.endTime ≠ 0) (.error .eventNotEnded)
  -- the source adds in u64
  require (event.endTime + 172800 < 2 ^ 64) .trap
  require (timestamp ≤ event.endTime + 172800) (.error .eventNotEnded)
  let _ ← orFault registry.ticketPaymentContract (.error .notInitialized)
  require (hasConfirmedTicket = true) (.error .notTicketHolder)
  require (timestamp + disputeVotingDuration < 2 ^ 64) .trap
  modify (·.storeDispute (.opening eventId openedBy timestamp))

/-- Whoever signs may vote, once. -/
def voteOnDispute (signed : Address → Bool) (timestamp : Nat) (eventId : EventId)
    (voter : Address) (vote : DisputeVote) : DisputeEntry Unit := do
  require (signed voter = true) .trap
  let dispute ← getDispute eventId
  require dispute.Live (.error .disputeNotOpen)
  require (timestamp ≤ dispute.closesAt) (.error .proposalExpired)
  let storage ← get
  require (storage.hasVoted eventId voter = false) (.error .alreadyVoted)
  let _ ← orFault (checkedU32 (dispute.totalVotes + 1)) (.error .supplyOverflow)
  let _ ← orFault (checkedU32 (dispute.votesFor vote + 1)) (.error .supplyOverflow)
  modify (·.storeDisputeVote eventId voter vote)
  -- the number of voters is raised without a check of its own
  require (storage.getDisputeVoteCount eventId + 1 < 2 ^ 32) .trap
  modify (·.addDisputeVote eventId voter)
  modify (·.storeDispute (dispute.withVote vote))

/-- Whoever calls, a resolved dispute stays as it is. -/
def resolveDispute (timestamp : Nat) (eventId : EventId) : DisputeEntry DisputeStatus := do
  let dispute ← getDispute eventId
  require (dispute.closesAt < timestamp) (.error .proposalExpired)
  if dispute.Resolved then pure dispute.status
  else do
    let buyerBps ← orFault (checkedU32 (dispute.buyerVotes * 10000)) (.error .supplyOverflow)
    let resolved := { dispute with status := dispute.verdict buyerBps }
    modify (·.storeDispute resolved)
    pure resolved.status

end Disputes

/-! ### The machine -/

inductive DisputeCall where
  | openDispute (eventId : EventId) (openedBy : Address)
  | voteOnDispute (eventId : EventId) (voter : Address) (vote : DisputeVote)
  | resolveDispute (eventId : EventId)

def disputeStep (world : World Registry) (invocation : Invocation) (storage : DisputeStorage) :
    DisputeCall → DisputeStorage
  | .openDispute eventId openedBy =>
    commit (Disputes.openDispute world.registry invocation.signed invocation.timestamp
      (world.tickets.hasConfirmedTicket eventId openedBy) eventId openedBy) storage
  | .voteOnDispute eventId voter vote =>
    commit (Disputes.voteOnDispute invocation.signed invocation.timestamp eventId voter vote)
      storage
  | .resolveDispute eventId =>
    commit (Disputes.resolveDispute invocation.timestamp eventId) storage

/-- The two contracts, and the disputes in full. -/
structure Court where
  rest : World Registry
  storage : DisputeStorage

/-- The two contracts as they see each other. -/
def Court.world (court : Court) : World Registry :=
  court.rest.withRegistry { court.rest.registry with disputes := court.storage.statuses }

variable {host : Host}

/-- One step: a call about a dispute, or any other step of the two contracts. -/
inductive CourtAction (host : Host) where
  | dispute (invocation : Invocation) (call : DisputeCall)
  | joint (action : JointAction host)

def courtStep (court : Court) : CourtAction host → Court
  | .dispute invocation call =>
    { court with storage := disputeStep court.world invocation court.storage call }
  | .joint action => { court with rest := jointStep court.world action }

/-- The two contracts before their first call. -/
def Court.fresh : Court := ⟨.fresh .vacant, .empty⟩

/-! ### What the calls do -/

/-- What a call does to the stored disputes, with what it has checked. -/
inductive DisputeTurn (world : World Registry) (invocation : Invocation)
    (storage : DisputeStorage) : DisputeCall → DisputeStorage → Prop
  | kept (call : DisputeCall) : DisputeTurn world invocation storage call storage
  | opened (eventId : EventId) (openedBy : Address) (absent : storage.dispute.get eventId = none)
      (holder : world.tickets.hasConfirmedTicket eventId openedBy = true) :
      DisputeTurn world invocation storage (.openDispute eventId openedBy)
        (storage.storeDispute (.opening eventId openedBy invocation.timestamp))
  | voted (eventId : EventId) (voter : Address) (vote : DisputeVote) (dispute : Dispute)
      (stored : storage.dispute.get eventId = some dispute) (live : dispute.Live)
      (inTime : invocation.timestamp ≤ dispute.closesAt)
      (fresh : storage.disputeVote.get (eventId, voter) = none) :
      DisputeTurn world invocation storage (.voteOnDispute eventId voter vote)
        (((storage.storeDisputeVote eventId voter vote).addDisputeVote eventId voter).storeDispute
          (dispute.withVote vote))
  | resolved (eventId : EventId) (dispute : Dispute)
      (stored : storage.dispute.get eventId = some dispute)
      (closed : dispute.closesAt < invocation.timestamp) (unresolved : ¬dispute.Resolved) :
      DisputeTurn world invocation storage (.resolveDispute eventId)
        (storage.storeDispute
          { dispute with status := dispute.verdict (dispute.buyerVotes * 10000) })

section Specifications

variable {storage : DisputeStorage} {eventId : EventId} {timestamp : Nat} {signed : Address → Bool}

theorem openDispute_ensures {registry : Registry} {hasConfirmedTicket : Bool} {openedBy : Address} :
    Ensures (Disputes.openDispute registry signed timestamp hasConfirmedTicket eventId openedBy)
      storage fun _ next => storage.dispute.get eventId = none ∧ hasConfirmedTicket = true ∧
        next = storage.storeDispute (.opening eventId openedBy timestamp) := by
  simp only [Disputes.openDispute, ensures_rules]
  intro _ _ _ absent _ _ _ _ _ holder _
  exact ⟨absent, holder, trivial⟩

theorem voteOnDispute_ensures {voter : Address} {vote : DisputeVote} :
    Ensures (Disputes.voteOnDispute signed timestamp eventId voter vote) storage fun _ next =>
      ∃ dispute, storage.dispute.get eventId = some dispute ∧ dispute.Live ∧
        timestamp ≤ dispute.closesAt ∧ storage.disputeVote.get (eventId, voter) = none ∧
        next = ((storage.storeDisputeVote eventId voter vote).addDisputeVote eventId
          voter).storeDispute (dispute.withVote vote) := by
  simp only [Disputes.voteOnDispute, Disputes.getDispute, ensures_rules]
  intro _ dispute stored live inTime fresh _ _ _ _ _
  exact ⟨dispute, stored, live, inTime, by simpa [DisputeStorage.hasVoted] using fresh, rfl⟩

theorem resolveDispute_ensures :
    Ensures (Disputes.resolveDispute timestamp eventId) storage fun _ next =>
      ∃ dispute, storage.dispute.get eventId = some dispute ∧ dispute.closesAt < timestamp ∧
        (dispute.Resolved ∧ next = storage ∨
          ¬dispute.Resolved ∧ next = storage.storeDispute
            { dispute with status := dispute.verdict (dispute.buyerVotes * 10000) }) := by
  simp only [Disputes.resolveDispute, Disputes.getDispute, ensures_rules]
  intro dispute stored closed
  refine ⟨fun resolved => ⟨dispute, stored, closed, .inl ⟨resolved, trivial⟩⟩,
    fun unresolved buyerBps share => ?_⟩
  obtain ⟨_, rfl⟩ := checkedU32_eq_some.mp share
  exact ⟨dispute, stored, closed, .inr ⟨unresolved, rfl⟩⟩

end Specifications

theorem disputeStep_turn (world : World Registry) (invocation : Invocation)
    (storage : DisputeStorage) (call : DisputeCall) :
    DisputeTurn world invocation storage call (disputeStep world invocation storage call) := by
  cases call with
  | openDispute eventId openedBy =>
    refine commit_of_ensures (.kept _) (openDispute_ensures.mono ?_)
    rintro _ _ ⟨absent, holder, rfl⟩
    exact .opened eventId openedBy absent holder
  | voteOnDispute eventId voter vote =>
    refine commit_of_ensures (.kept _) (voteOnDispute_ensures.mono ?_)
    rintro _ _ ⟨dispute, stored, live, inTime, fresh, rfl⟩
    exact .voted eventId voter vote dispute stored live inTime fresh
  | resolveDispute eventId =>
    refine commit_of_ensures (.kept _) (resolveDispute_ensures.mono ?_)
    rintro _ _ ⟨dispute, stored, closed, ⟨_, rfl⟩ | ⟨unresolved, rfl⟩⟩
    · exact .kept _
    · exact .resolved eventId dispute stored closed unresolved

end Agora.EventRegistry

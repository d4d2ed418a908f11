/-
This file models the storage of the event registry and the part of it that the payment
contract calls: the inventory of an event, the promotion, the loyalty scores, the
scanners and the disputes. Of the ways in which an organizer takes an event off sale it
has the cancellation and the replacement of the stored event; the others stand with the
rest of the entry points.

The registry keeps a count of tickets per user where a tier limits them. A sale adds
to it; nothing ever takes away from it.
-/

import Agora.Lib.Store
import Agora.Lib.Table
import Agora.TicketPayment.Types

namespace Agora.EventRegistry

open Soroban TicketPayment

/-! ### Data -/

inductive EventRegistryError where
  | eventNotFound
  | unauthorized
  | eventInactive
  | notInitialized
  | maxSupplyExceeded
  | supplyOverflow
  | tierNotFound
  | tierSoldOut
  | supplyUnderflow
  | invalidQuantity
  | eventAlreadyCanceled
  | perUserLimitExceeded
  | tokenNotAccepted
  | organizerBlacklisted
  | invalidMetadataCid
  | invalidTags
  | eventAlreadyExists
  | tooManyTiers
  | tierLimitExceeds
  | invalidResaleCapBps
  | invalidMilestonePlan
  | invalidDeadline
  | eventNotEnded
  | notTicketHolder
  | invalidAddress
  | invalidFeePercent
  | eventCancelled
  | eventIsActive
  | invalidGracePeriod
  | replayAttackDetected
  | insufficientSignatures
  | orgNotBlacklisted
  | alreadyInitialized
  | invalidThreshold
  | propAlreadyExecuted
  | propAlreadyCanceled
  | proposalExpired
  | multisigError
  | invalidStakeAmount
  | alreadyStaked
  | notStaked
  | stakingNotConfigured
  | noRewardsAvailable
  | invalidRewardAmount
  | disputeNotFound
  | disputeNotOpen
  | alreadyVoted
  deriving DecidableEq, Repr

structure Tier where
  price : Int
  tierLimit : Int
  currentSold : Int
  isRefundable : Bool
  auctionConfig : List AuctionConfig
  loyaltyMultiplier : Nat
  maxPerUser : Nat

structure Event where
  organizerAddress : Address
  paymentAddress : Address
  platformFeePercent : Nat
  isActive : Bool
  status : EventStatus
  metadataCid : Bytes
  maxSupply : Int
  currentSupply : Int
  milestonePlan : Option (List Milestone)
  tiers : Table TierId Tier
  refundDeadline : Nat
  restockingFee : Int
  resaleCapBps : Option Nat
  isPostponed : Bool
  gracePeriodEnd : Nat
  minSalesTarget : Int
  targetDeadline : Nat
  goalMet : Bool
  customFeeBps : Option Nat
  startTime : Nat
  isPrivate : Bool
  endTime : Nat
  acceptedTokens : List Address
  useGlobalWhitelist : Bool
  feedbackCid : Option Bytes

structure GuestProfile where
  loyaltyScore : Nat
  totalTicketsPurchased : Nat
  totalSpent : Int
  lastUpdated : Nat

/-- What the administrator of the registry has set and only the registration reads. -/
structure Platform where
  initialized : Bool
  blacklisted : Address → Bool
  platformFee : Nat

/-- What is left of an archived event. -/
structure EventReceipt where
  organizerAddress : Address
  totalSold : Int
  archivedAt : Nat

/-- Ids by organizer, in shards. Whether an id is listed is stored a second time. -/
structure OrganizerIndex where
  member : Store (Address × EventId) Unit
  shard : Store (Address × Nat) (List EventId)
  count : Store Address Nat

structure Registry where
  admin : Option Address
  platform : Platform
  ticketPaymentContract : Option Address
  events : Store EventId Event
  organizerEvents : OrganizerIndex
  globalEventCount : Nat
  globalActiveEventCount : Nat
  eventReceipts : Store EventId EventReceipt
  organizerReceipts : OrganizerIndex
  bridgeThreshold : Option Nat
  processedTeleports : Store Bytes Bool
  disputes : Store EventId DisputeStatus
  globalPromoBps : Nat
  promoExpiry : Nat
  authorizedScanner : Store (EventId × Address) Unit
  userTicketCount : Store (EventId × TierId × Address) Nat
  globalTicketsSold : Int
  guestProfile : Store Address GuestProfile

/-- An entry point of the registry. -/
abbrev Entry (Value : Type) := Transaction Registry (Fault EventRegistryError) Value

/-! ### Storing events -/

namespace OrganizerIndex

def shardSize : Nat := 50

def empty : OrganizerIndex := ⟨.empty, .empty, .empty⟩

variable (index : OrganizerIndex) (organizer : Address)

def countOf : Nat :=
  (index.count.get organizer).getD 0

def shardOf (shardId : Nat) : List EventId :=
  (index.shard.get (organizer, shardId)).getD []

/-- As many shards as the count fills. -/
def shardCount : Nat :=
  (index.countOf organizer + shardSize - 1) / shardSize

def all : List EventId :=
  (List.range (index.shardCount organizer)).flatMap (index.shardOf organizer)

/-- An id that is not listed yet goes to the shard that the count names. -/
def add (eventId : EventId) : OrganizerIndex :=
  if (index.member.get (organizer, eventId)).isSome then index
  else
    let shardId := index.countOf organizer / shardSize
    { member := index.member.set (organizer, eventId) ()
      shard := index.shard.set (organizer, shardId)
        (index.shardOf organizer shardId ++ [eventId])
      count := index.count.set organizer (index.countOf organizer + 1) }

/-- The first shard that lists the id loses it, and no other shard moves up. -/
def remove (eventId : EventId) : OrganizerIndex :=
  let unlisted := { index with member := index.member.remove (organizer, eventId) }
  match (List.range (index.shardCount organizer)).find?
      (fun shardId => eventId ∈ index.shardOf organizer shardId) with
  | none => unlisted
  | some shardId =>
    { unlisted with
      shard := index.shard.set (organizer, shardId)
        ((index.shardOf organizer shardId).filter (· ≠ eventId))
      count := index.count.set organizer (index.countOf organizer - 1) }

end OrganizerIndex

/-- The number of active public events, when one event is written over another. The arms are
tried in this order. -/
def syncActiveEventCount (existing : Option Event) (updated : Event) (count : Nat) : Nat :=
  match updated.isPrivate, existing with
  | true, none => count
  | true, some previous => if !previous.isPrivate && previous.isActive then count - 1 else count
  | false, none => if updated.isActive then count + 1 else count
  | false, some previous =>
    if previous.isActive && !updated.isActive then count - 1
    else if !previous.isActive && updated.isActive then count + 1
    else if previous.isPrivate && updated.isActive then count + 1
    else count

namespace Registry

variable (registry : Registry) (eventId : EventId)

def updateEvent (event : Event) : Registry :=
  { registry with
    events := registry.events.set eventId event
    globalActiveEventCount := syncActiveEventCount (registry.events.get eventId) event
      registry.globalActiveEventCount }

/-- A public event that is new to the index of its organizer is counted. -/
def storeEvent (event : Event) : Registry :=
  let listed := (registry.organizerEvents.member.get (event.organizerAddress, eventId)).isSome
  { registry.updateEvent eventId event with
    organizerEvents := registry.organizerEvents.add event.organizerAddress eventId
    globalEventCount :=
      if !listed && !event.isPrivate then registry.globalEventCount + 1
      else registry.globalEventCount }

def removeEvent : Registry :=
  match registry.events.get eventId with
  | none => registry
  | some event =>
    { registry with
      events := registry.events.remove eventId
      organizerEvents := registry.organizerEvents.remove event.organizerAddress eventId
      globalActiveEventCount :=
        if event.isActive && !event.isPrivate then registry.globalActiveEventCount - 1
        else registry.globalActiveEventCount }

@[simp]
theorem events_updateEvent (event : Event) :
    (registry.updateEvent eventId event).events = registry.events.set eventId event := rfl

@[simp]
theorem userTicketCount_updateEvent (event : Event) :
    (registry.updateEvent eventId event).userTicketCount = registry.userTicketCount := rfl

@[simp]
theorem events_storeEvent (event : Event) :
    (registry.storeEvent eventId event).events = registry.events.set eventId event := rfl

end Registry

/-! ### Inventory -/

def requireTicketPayment (caller : Address) : Entry Unit := do
  let registry ← get
  let contract ← orFault registry.ticketPaymentContract (.error .notInitialized)
  require (caller = contract) .trap

def getEvent (eventId : EventId) : Entry Event := do
  let registry ← get
  orFault (registry.events.get eventId) (.error .eventNotFound)

def getTier (event : Event) (tierId : TierId) : Entry Tier :=
  orFault (event.tiers.get tierId) (.error .tierNotFound)

def updateEvent (eventId : EventId) (event : Event) : Entry Unit :=
  modify fun registry => registry.updateEvent eventId event

def Registry.getUserTicketCount (registry : Registry) (eventId : EventId) (tierId : TierId)
    (user : Address) : Nat :=
  (registry.userTicketCount.get (eventId, tierId, user)).getD 0

/-- A limit of zero is no limit. -/
def requireUserLimit (eventId : EventId) (tierId : TierId) (tier : Tier) (user : Address)
    (quantity : Nat) : Entry Unit := do
  let registry ← get
  let count := registry.getUserTicketCount eventId tierId user + quantity
  require (tier.maxPerUser = 0 ∨ count < 2 ^ 32) (.error .supplyOverflow)
  require (tier.maxPerUser = 0 ∨ count ≤ tier.maxPerUser) (.error .perUserLimitExceeded)

/-- Tickets of a limited tier are counted per user. -/
def countTickets (eventId : EventId) (tierId : TierId) (tier : Tier) (user : Address)
    (quantity : Nat) (registry : Registry) : Registry :=
  if 0 < tier.maxPerUser then
    { registry with
      userTicketCount := registry.userTicketCount.set (eventId, tierId, user)
        (min (registry.getUserTicketCount eventId tierId user + quantity) (2 ^ 32 - 1)) }
  else registry

def saturatingI128 (value : Int) : Int :=
  max (-2 ^ 127) (min value (2 ^ 127 - 1))

/-- The event after tickets of a tier were sold. -/
def Event.sold (event : Event) (tierId : TierId) (tier : Tier) (quantity : Nat) : Event :=
  { event with
    tiers := event.tiers.set tierId { tier with currentSold := tier.currentSold + quantity }
    currentSupply := event.currentSupply + quantity
    goalMet := event.goalMet || (0 < event.minSalesTarget &&
      event.minSalesTarget ≤ event.currentSupply + quantity) }

def incrementInventory (caller : Address) (eventId : EventId) (tierId : TierId)
    (user : Address) (quantity : Nat) (paymentToken : Address) : Entry Unit := do
  requireTicketPayment caller
  require (quantity ≠ 0) (.error .invalidQuantity)
  let event ← getEvent eventId
  require (event.isActive = true ∧ event.status ≠ .cancelled) (.error .eventInactive)
  require (event.acceptedTokens = [] ∨ paymentToken ∈ event.acceptedTokens)
    (.error .tokenNotAccepted)
  require (event.maxSupply ≤ 0 ∨ InI128 (event.currentSupply + quantity))
    (.error .supplyOverflow)
  require (event.maxSupply ≤ 0 ∨ event.currentSupply + quantity ≤ event.maxSupply)
    (.error .maxSupplyExceeded)
  let tier ← getTier event tierId
  require (InI128 (tier.currentSold + quantity)) (.error .supplyOverflow)
  require (tier.currentSold + quantity ≤ tier.tierLimit) (.error .tierSoldOut)
  requireUserLimit eventId tierId tier user quantity
  require (InI128 (event.currentSupply + quantity)) (.error .supplyOverflow)
  modify (countTickets eventId tierId tier user quantity)
  modify fun registry =>
    { registry with
      globalTicketsSold := saturatingI128 (registry.globalTicketsSold + quantity) }
  updateEvent eventId (event.sold tierId tier quantity)

/-- The event after one ticket of a tier was given back. -/
def Event.returned (event : Event) (tierId : TierId) (tier : Tier) : Event :=
  { event with
    tiers := event.tiers.set tierId { tier with currentSold := tier.currentSold - 1 }
    currentSupply := event.currentSupply - 1 }

/-- The user's count and the global count stay as they are. -/
def decrementInventory (caller : Address) (eventId : EventId) (tierId : TierId) : Entry Unit := do
  requireTicketPayment caller
  let event ← getEvent eventId
  let tier ← getTier event tierId
  require (0 < tier.currentSold) (.error .supplyUnderflow)
  require (0 < event.currentSupply) (.error .supplyUnderflow)
  updateEvent eventId (event.returned tierId tier)

/-! ### Organizers -/

def requireOrganizer (signed : Address → Bool) (eventId : EventId) (caller : Address) :
    Entry Unit := do
  let event ← getEvent eventId
  require (event.organizerAddress = caller) (.error .unauthorized)
  require (signed caller = true) .trap

def Event.cancelled (event : Event) : Event :=
  { event with status := .cancelled, isActive := false }

def cancelEvent (signed : Address → Bool) (eventId : EventId) : Entry Unit := do
  let event ← getEvent eventId
  requireOrganizer signed eventId event.organizerAddress
  require (event.status ≠ .cancelled) (.error .eventAlreadyCanceled)
  updateEvent eventId event.cancelled

def Event.Ended (event : Event) (timestamp : Nat) : Prop :=
  event.endTime ≠ 0 ∧ event.endTime < timestamp

instance (event : Event) (timestamp : Nat) : Decidable (event.Ended timestamp) :=
  inferInstanceAs (Decidable (_ ∧ _))

/-- The organizer of a stored event may replace it by any event of the same organizer. -/
def storeEvent (signed : Address → Bool) (timestamp : Nat) (eventId : EventId) (event : Event) :
    Entry Unit := do
  requireOrganizer signed eventId event.organizerAddress
  require (event.feedbackCid = none ∨ event.Ended timestamp) .trap
  require (event.resaleCapBps.getD 0 ≤ 10000) (.panic "InvalidResaleCapBps")
  modify fun registry => registry.storeEvent eventId event

/-! ### Disputes -/

def disputeVotingDuration : Nat := 172800

/-- A holder of a ticket opens a dispute within two days of the end of the event. Whether they
hold one is answered by the payment contract. -/
def openDispute (signed : Address → Bool) (timestamp : Nat) (hasConfirmedTicket : Bool)
    (eventId : EventId) (openedBy : Address) : Entry Unit := do
  require (signed openedBy = true) .trap
  let event ← getEvent eventId
  let registry ← get
  require (registry.disputes.get eventId = none) (.error .eventAlreadyExists)
  require (event.endTime ≠ 0) (.error .eventNotEnded)
  -- the source adds in u64
  require (event.endTime + 172800 < 2 ^ 64) .trap
  require (timestamp ≤ event.endTime + 172800) (.error .eventNotEnded)
  let _ ← orFault registry.ticketPaymentContract (.error .notInitialized)
  require (hasConfirmedTicket = true) (.error .notTicketHolder)
  require (timestamp + disputeVotingDuration < 2 ^ 64) .trap
  modify fun registry => { registry with disputes := registry.disputes.set eventId .opened }

/-! ### Promotion and loyalty -/

/-- An expired promotion is none. -/
def Registry.getGlobalPromoBps (registry : Registry) (timestamp : Nat) : Nat :=
  if registry.promoExpiry ≤ timestamp then 0 else registry.globalPromoBps

def Registry.getLoyaltyDiscountBps (registry : Registry) (guest : Address) : Nat :=
  let score := ((registry.guestProfile.get guest).map (·.loyaltyScore)).getD 0
  if 1000 ≤ score then 1000
  else if 500 ≤ score then 500
  else if 100 ≤ score then 250
  else 0

def saturatingNat (bits value : Nat) : Nat :=
  min value (2 ^ bits - 1)

def GuestProfile.awarded (profile : GuestProfile) (tickets : Nat) (amount : Int)
    (multiplier timestamp : Nat) : GuestProfile :=
  let factor := if multiplier = 0 then 1 else multiplier
  { loyaltyScore := saturatingNat 64
      (profile.loyaltyScore + saturatingNat 64 (saturatingNat 64 (tickets * 10) * factor))
    totalTicketsPurchased := saturatingNat 32 (profile.totalTicketsPurchased + tickets)
    totalSpent := saturatingI128 (profile.totalSpent + amount)
    lastUpdated := timestamp }

def updateLoyaltyScore (caller guest : Address) (tickets : Nat) (amount : Int)
    (multiplier timestamp : Nat) : Entry Unit := do
  let registry ← get
  let admin ← orFault registry.admin (.error .notInitialized)
  require (caller = admin ∨ registry.ticketPaymentContract = some caller) (.error .unauthorized)
  require (tickets ≠ 0) (.error .invalidQuantity)
  let profile := (registry.guestProfile.get guest).getD ⟨0, 0, 0, 0⟩
  modify fun registry =>
    { registry with
      guestProfile := registry.guestProfile.set guest
        (profile.awarded tickets amount multiplier timestamp) }

/-! ### The registry as the payment contract sees it -/

/-- The payment contract expects fields for early birds and dollar prices that the registry
does not have. -/
def Tier.info (tier : Tier) : TicketTier where
  price := tier.price
  earlyBirdPrice := 0
  earlyBirdDeadline := 0
  usdPrice := 0
  isRefundable := tier.isRefundable
  auctionConfig := tier.auctionConfig
  loyaltyMultiplier := tier.loyaltyMultiplier

def Event.info (event : Event) : EventInfo where
  organizerAddress := event.organizerAddress
  paymentAddress := event.paymentAddress
  platformFeePercent := event.platformFeePercent
  isActive := event.isActive
  status := event.status
  currentSupply := event.currentSupply
  milestonePlan := event.milestonePlan
  tiers := fun tierId => (event.tiers.get tierId).map Tier.info
  refundDeadline := event.refundDeadline
  restockingFee := event.restockingFee
  resaleCapBps := event.resaleCapBps
  minSalesTarget := event.minSalesTarget
  targetDeadline := event.targetDeadline
  goalMet := event.goalMet
  customFeeBps := event.customFeeBps
  endTime := event.endTime
  acceptedTokens := event.acceptedTokens
  useGlobalWhitelist := event.useGlobalWhitelist

/-- The registry after a call, or nothing when it refuses. -/
def after (entry : Entry Unit) (registry : Registry) : Option Registry :=
  match entry.run registry with
  | .ok (_, next) => some next
  | .error _ => none

/-- The payment contract names the user when it gives a ticket back; the registry takes no such
argument. -/
instance : RegistryApi Registry where
  getEvent registry eventId := (registry.events.get eventId).map Event.info
  getDispute registry eventId := registry.disputes.get eventId
  getGlobalPromoBps := Registry.getGlobalPromoBps
  getPromoExpiry := Registry.promoExpiry
  isScannerAuthorized registry eventId scanner :=
    (registry.authorizedScanner.get (eventId, scanner)).isSome
  getLoyaltyDiscountBps := Registry.getLoyaltyDiscountBps
  incrementInventory registry caller eventId tierId user quantity token :=
    after (incrementInventory caller eventId tierId user quantity token) registry
  decrementInventory registry caller eventId tierId _user :=
    after (decrementInventory caller eventId tierId) registry
  updateLoyaltyScore registry caller guest tickets amount multiplier timestamp :=
    commit (updateLoyaltyScore caller guest tickets amount multiplier timestamp) registry

theorem ensures_of_after {entry : Entry Unit} {registry next : Registry}
    {outcome : Registry → Prop} (called : after entry registry = some next)
    (ensures : Ensures entry registry fun _ final => outcome final) : outcome next := by
  unfold after at called
  cases run : entry.run registry with
  | error fault =>
    rw [run] at called
    cases called
  | ok pair =>
    rw [run] at called
    cases called
    exact ensures pair.1 pair.2 run

end Agora.EventRegistry

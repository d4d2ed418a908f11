/-
This file joins the two contracts. It says what the calls of the payment contract do
to the inventory of the registry: a sale counts its tickets in three places, the
supply, the tier and the user, and a return takes back the first two only.

The end of the file sets up a small deployment with one event, for the runs that
later files evaluate.
-/

import Agora.EventRegistry.Registry
import Agora.TicketPayment.Contract

namespace Agora.EventRegistry

open Soroban TicketPayment

/-! ### The inventory -/

/-- What the registry counts for a ticket: the supply of the event, the sold tickets of the
tier, and the tickets of the user. -/
structure Inventory where
  currentSupply : Option Int
  currentSold : Option Int
  userTicketCount : Nat
  deriving DecidableEq, Repr

def Registry.inventory (registry : Registry) (eventId : EventId) (tierId : TierId)
    (user : Address) : Inventory where
  currentSupply := (registry.events.get eventId).map (·.currentSupply)
  currentSold := (registry.events.get eventId).bind fun event =>
    (event.tiers.get tierId).map (·.currentSold)
  userTicketCount := registry.getUserTicketCount eventId tierId user

/-- The event and tier that a call finds. -/
structure Stocked (registry : Registry) (eventId : EventId) (tierId : TierId) (event : Event)
    (tier : Tier) : Prop where
  eventEq : registry.events.get eventId = some event
  tierEq : event.tiers.get tierId = some tier

/-- The tickets fit into the event, where its supply is limited, and into the tier. -/
structure HasRoom (event : Event) (tier : Tier) (quantity : Nat) : Prop where
  supply : event.maxSupply ≤ 0 ∨ event.currentSupply + quantity ≤ event.maxSupply
  limit : tier.currentSold + quantity ≤ tier.tierLimit

/-- The tickets are added to the total. -/
def Registry.addToGlobalTicketsSold (registry : Registry) (quantity : Nat) : Registry :=
  { registry with globalTicketsSold := saturatingI128 (registry.globalTicketsSold + quantity) }

variable {registry : Registry} {eventId : EventId} {tierId : TierId} {quantity : Nat}
  {user : Address} {tier : Tier}

/-- The count of the user is all that changes. -/
theorem countTickets_eq :
    ∃ counts, countTickets eventId tierId tier user quantity registry =
      { registry with userTicketCount := counts } := by
  unfold countTickets
  split
  · exact ⟨_, rfl⟩
  · exact ⟨_, rfl⟩

variable {caller : Address}

theorem incrementInventory_ensures {token : Address} :
    Ensures (incrementInventory caller eventId tierId user quantity token) registry
        fun _ next => ∃ event tier, Stocked registry eventId tierId event tier ∧
      HasRoom event tier quantity ∧
      (tier.maxPerUser = 0 ∨
        registry.getUserTicketCount eventId tierId user + quantity < 2 ^ 32) ∧
      (tier.maxPerUser = 0 ∨
        registry.getUserTicketCount eventId tierId user + quantity ≤ tier.maxPerUser) ∧
      (event.isActive = true ∧ event.status ≠ .cancelled) ∧
      next = ((countTickets eventId tierId tier user quantity
        registry).addToGlobalTicketsSold quantity).updateEvent eventId
          (event.sold tierId tier quantity) := by
  simp only [incrementInventory, requireTicketPayment, getEvent, getTier, requireUserLimit,
    updateEvent, ensures_rules]
  intro _ _ _ _ event foundEvent onSale _ _ supply tier foundTier _ limit small within _
  exact ⟨event, tier, ⟨foundEvent, foundTier⟩, ⟨supply, limit⟩, small, within, onSale, rfl⟩

/-- The events after a sale. -/
theorem events_sold (eventId : EventId) (tierId : TierId) (tier : Tier) (user : Address)
    (quantity : Nat) (registry : Registry) (event : Event) :
    (((countTickets eventId tierId tier user quantity
      registry).addToGlobalTicketsSold quantity).updateEvent eventId event).events =
        registry.events.set eventId event := by
  obtain ⟨counts, same⟩ := countTickets_eq
  rw [same]
  rfl

theorem decrementInventory_ensures :
    Ensures (decrementInventory caller eventId tierId) registry fun _ next =>
      ∃ event tier, Stocked registry eventId tierId event tier ∧
        0 < tier.currentSold ∧ 0 < event.currentSupply ∧
        next = registry.updateEvent eventId (event.returned tierId tier) := by
  simp only [decrementInventory, requireTicketPayment, getEvent, getTier, updateEvent,
    ensures_rules]
  intro _ _ _ event foundEvent tier foundTier sold supplied
  exact ⟨event, tier, ⟨foundEvent, foundTier⟩, sold, supplied, rfl⟩

theorem cancelEvent_ensures {signed : Address → Bool} :
    Ensures (cancelEvent signed eventId) registry fun _ next =>
      ∃ event, registry.events.get eventId = some event ∧
        next = registry.updateEvent eventId event.cancelled := by
  simp only [cancelEvent, requireOrganizer, getEvent, updateEvent, ensures_rules]
  intro event found _ _ _ _ _
  exact ⟨event, found, rfl⟩

variable {guest : Address} {tickets : Nat} {amount : Int}

theorem updateLoyaltyScore_ensures {multiplier timestamp : Nat} :
    Ensures (updateLoyaltyScore caller guest tickets amount multiplier timestamp) registry
      fun _ next => ∃ profiles, next = { registry with guestProfile := profiles } := by
  simp only [updateLoyaltyScore, ensures_rules]
  intro _ _ _ _
  exact ⟨_, rfl⟩

/-- Awarded or not, the profiles of the guests are all that changes. -/
theorem updateLoyaltyScore_eq {multiplier timestamp : Nat} :
    ∃ profiles, RegistryApi.updateLoyaltyScore registry caller guest tickets amount multiplier
      timestamp = { registry with guestProfile := profiles } :=
  commit_of_ensures ⟨registry.guestProfile, rfl⟩ updateLoyaltyScore_ensures

/-! ### The tickets sold in a tier -/

/-- The count of a tier, and zero where there is no such tier. -/
def Registry.currentSold (registry : Registry) (eventId : EventId) (tierId : TierId) : Int :=
  ((registry.events.get eventId).bind fun event =>
    (event.tiers.get tierId).map (·.currentSold)).getD 0

section CurrentSold

variable {next : Registry} {token : Address}

/-- A call that writes the count of one tier changes the count of no other. -/
theorem Stocked.currentSold_write {event record : Event} {sold : Int}
    (stocked : Stocked registry eventId tierId event tier)
    (events : next.events = registry.events.set eventId record)
    (tiers : record.tiers = event.tiers.set tierId { tier with currentSold := sold })
    (otherEvent : EventId) (otherTier : TierId) :
    next.currentSold otherEvent otherTier = registry.currentSold otherEvent otherTier +
      if otherEvent = eventId ∧ otherTier = tierId then sold - tier.currentSold else 0 := by
  unfold Registry.currentSold
  rw [events, Store.get_set]
  by_cases sameEvent : otherEvent = eventId
  · subst sameEvent
    rw [if_pos rfl, stocked.eventEq, Option.bind_some, Option.bind_some, tiers, Table.get_set]
    by_cases sameTier : otherTier = tierId
    · simp [sameTier, stocked.tierEq]
    · simp [sameTier]
  · simp [sameEvent]

theorem currentSold_incremented
    (called : RegistryApi.incrementInventory registry caller eventId tierId user quantity token =
      some next) (otherEvent : EventId) (otherTier : TierId) :
    next.currentSold otherEvent otherTier = registry.currentSold otherEvent otherTier +
      if otherEvent = eventId ∧ otherTier = tierId then (quantity : Int) else 0 := by
  obtain ⟨event, tier, stocked, _, _, _, _, rfl⟩ := ensures_of_after called
    incrementInventory_ensures
  have events := events_sold eventId tierId tier user quantity registry
    (event.sold tierId tier quantity)
  have counted := stocked.currentSold_write events rfl otherEvent otherTier
  rwa [add_sub_cancel_left] at counted

theorem currentSold_decremented
    (called : RegistryApi.decrementInventory registry caller eventId tierId user = some next)
    (otherEvent : EventId) (otherTier : TierId) :
    next.currentSold otherEvent otherTier = registry.currentSold otherEvent otherTier +
      if otherEvent = eventId ∧ otherTier = tierId then -1 else 0 := by
  obtain ⟨event, tier, stocked, _, _, final⟩ := ensures_of_after called decrementInventory_ensures
  have events : next.events = registry.events.set eventId (event.returned tierId tier) := by
    rw [final, Registry.events_updateEvent]
  have counted := stocked.currentSold_write events rfl otherEvent otherTier
  rwa [sub_sub_cancel_left] at counted

theorem currentSold_updateLoyaltyScore (guest : Address) (tickets : Nat) (amount : Int)
    (multiplier timestamp : Nat) :
    (RegistryApi.updateLoyaltyScore registry caller guest tickets amount multiplier
      timestamp).currentSold eventId tierId = registry.currentSold eventId tierId := by
  obtain ⟨profiles, same⟩ := updateLoyaltyScore_eq
  rw [same]
  rfl

end CurrentSold

/-! ### A small deployment -/

/-- A hash is the sum of the bytes here, which tells short codes apart. -/
def stage : Host where
  contract := ⟨"ticket-payment"⟩
  sha256 bytes := .replicate 32 bytes.sum

def adminAddress : Address := ⟨"admin"⟩

def usdcAddress : Address := ⟨"usdc"⟩

def organizerAddress : Address := ⟨"organizer"⟩

def aliceAddress : Address := ⟨"alice"⟩

def bobAddress : Address := ⟨"bob"⟩

/-- Everybody signs, at the given time. -/
def allSign (timestamp : Nat) : Env stage where
  timestamp := timestamp
  signed address := address ≠ stage.contract
  contract_silent := by decide
  lastprice _ _ := none
  isProMember _ _ := false

def generalTier : Tier where
  price := 1000
  tierLimit := 100
  currentSold := 0
  isRefundable := true
  auctionConfig := [⟨100, 1000, 10⟩]
  loyaltyMultiplier := 1
  maxPerUser := 0

/-- An event with a fee of five per cent. -/
def concert : Event where
  organizerAddress := organizerAddress
  paymentAddress := organizerAddress
  platformFeePercent := 500
  isActive := true
  status := .active
  metadataCid := []
  maxSupply := 0
  currentSupply := 0
  milestonePlan := none
  tiers := Table.empty.set "general" generalTier
  refundDeadline := 0
  restockingFee := 0
  resaleCapBps := none
  isPostponed := false
  gracePeriodEnd := 0
  minSalesTarget := 0
  targetDeadline := 0
  goalMet := false
  customFeeBps := none
  startTime := 0
  isPrivate := false
  endTime := 0
  acceptedTokens := []
  useGlobalWhitelist := true
  feedbackCid := none

def freeConcert : Event := { concert with platformFeePercent := 0 }

/-- A user may hold four tickets. -/
def limitedConcert : Event :=
  { concert with tiers := Table.empty.set "general" { generalTier with maxPerUser := 4 } }

def registryWith (event : Event) : Registry where
  admin := some adminAddress
  platform := ⟨true, fun _ => false, 500⟩
  ticketPaymentContract := some stage.contract
  events := Store.empty.set "concert" event
  organizerEvents := OrganizerIndex.empty.add event.organizerAddress "concert"
  globalEventCount := 1
  globalActiveEventCount := 1
  eventReceipts := .empty
  organizerReceipts := .empty
  bridgeThreshold := none
  processedTeleports := .empty
  disputes := .empty
  globalPromoBps := 0
  promoExpiry := 0
  authorizedScanner := .empty
  userTicketCount := .empty
  globalTicketsSold := 0
  guestProfile := .empty

/-- The contract is initialised, and the buyers have tokens that it may take. -/
def setUp : List (Action stage Registry) :=
  [.call (allSign 0) (.configure (.initializeContract
      ⟨adminAddress, usdcAddress, ⟨"wallet"⟩, ⟨"registry"⟩⟩)),
    .tokens (.mint usdcAddress aliceAddress 100000),
    .tokens (.approve usdcAddress aliceAddress stage.contract 100000),
    .tokens (.mint usdcAddress bobAddress 100000),
    .tokens (.approve usdcAddress bobAddress stage.contract 100000)]

/-- A purchase of tickets of the concert without any discount. -/
def ticketFor (buyer : Address) (paymentId : PaymentId) (quantity : Nat) : Purchase where
  paymentId := paymentId
  eventId := "concert"
  ticketTierId := "general"
  buyerAddress := buyer
  recipientAddress := none
  tokenAddress := usdcAddress
  amount := 1000
  quantity := quantity
  options := ⟨none, none, none⟩
  validationHash := .replicate 32 0

def saleAndRefund : List (Action stage Registry) :=
  [.call (allSign 1) (.processPayment (ticketFor aliceAddress "ticket" 1)),
    .call (allSign 2) (.refund .guest "ticket")]

/-- A ticket is sold, confirmed and handed over at the transfer fee. -/
def handedOver : List (Action stage Registry) :=
  setUp ++
    [.call (allSign 1) (.processPayment (ticketFor aliceAddress "ticket" 1)),
      .call (allSign 2) (.confirmPayment "ticket" "hash"),
      .call (allSign 3) (.transferTicket "ticket" bobAddress none)]

/-- Two single tickets, of which the first is confirmed and half of it is returned. -/
def halfReturned : List (Action stage Registry) :=
  [.call (allSign 1) (.processPayment (ticketFor aliceAddress "ticket" 1)),
    .call (allSign 1) (.processPayment (ticketFor bobAddress "other" 1)),
    .call (allSign 2) (.confirmPayment "ticket" "hash"),
    .call (allSign 3) (.issuePartialRefund "concert" 5000 10)]

/-- A registry with a second event of the same kind. -/
def twoEvents : Registry :=
  { registryWith concert with
    events := (registryWith concert).events.set "festival" concert }

/-- One ticket for each of the two events. -/
def twoSales : List (Action stage Registry) :=
  setUp ++
    [.call (allSign 1) (.processPayment (ticketFor aliceAddress "ticket" 1)),
      .call (allSign 1) (.processPayment
        { ticketFor bobAddress "other" 1 with eventId := "festival" })]

/-- The organizer stores the concert as completed. -/
def completeConcert (registry : Registry) : Registry :=
  commit (storeEvent (allSign 2).signed 2 "concert"
    { concert with isActive := false, status := .inactive }) registry

/-- The organizer cancels the concert in the registry. -/
def cancelConcert (registry : Registry) : Registry :=
  commit (cancelEvent (allSign 2).signed "concert") registry

def ticketSold : List (Action stage Registry) :=
  setUp ++ [.call (allSign 1) (.processPayment (ticketFor aliceAddress "ticket" 1))]

/-- The concert is cancelled in the registry after one sale. -/
def concertCancelled : List (Action stage Registry) :=
  ticketSold ++ [.registry (cancelConcert (reached (registryWith concert) ticketSold).registry)]

def endingConcert : Event := { concert with endTime := 10 }

def ticketConfirmed : List (Action stage Registry) :=
  ticketSold ++ [.call (allSign 2) (.confirmPayment "ticket" "hash")]

/-- The holder of the ticket opens a dispute after the concert. -/
def openConcertDispute (world : World Registry) : Registry :=
  commit (openDispute (allSign 11).signed 11
    (world.tickets.hasConfirmedTicket "concert" aliceAddress) "concert" aliceAddress)
    world.registry

def ticketDisputed : List (Action stage Registry) :=
  ticketConfirmed ++
    [.registry (openConcertDispute (reached (registryWith endingConcert) ticketConfirmed))]

/-- After the two sales the concert is completed. -/
def concertCompleted : List (Action stage Registry) :=
  twoSales ++ [.registry (completeConcert (reached twoEvents twoSales).registry)]

def eurcAddress : Address := ⟨"eurc"⟩

/-- A second token is put on the whitelist; the concert is sold in the first one and the other
event in the second one. -/
def salesInTwoTokens : List (Action stage Registry) :=
  setUp ++
    [.call (allSign 1) (.configure (.proposeParameterChange adminAddress
        (.addTokenToWhitelist eurcAddress))),
      .call (allSign 172801) (.configure (.executeProposal adminAddress 1)),
      .tokens (.mint eurcAddress bobAddress 100000),
      .tokens (.approve eurcAddress bobAddress stage.contract 100000),
      .call (allSign 172802) (.processPayment (ticketFor aliceAddress "ticket" 1)),
      .call (allSign 172802) (.processPayment
        { ticketFor bobAddress "other" 1 with
          eventId := "festival", tokenAddress := eurcAddress })]

/-- After these sales the organizer of the concert withdraws in one of the tokens. -/
def concertWithdrawal (token : Address) : List (Action stage Registry) :=
  salesInTwoTokens ++ [.call (allSign 172803) (.withdrawOrganizerFunds "concert" token)]

end Agora.EventRegistry

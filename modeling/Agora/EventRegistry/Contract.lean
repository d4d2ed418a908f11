/-
This file models the entry points of the registry that write stored events, and puts
them together into one machine: the registry takes calls in any order, from any callers,
and a call that fails changes nothing.

Tickets are sold along two paths. The payment contract sells through the inventory, and
a bridge mints for purchases on other chains, on the word of enough relayers whose
signatures nobody verifies. The second path has its own copy of the checks: it does not
ask for a positive quantity, does not count per user and does not look at the sales
target.

The entry points that write no event are taken together as one call that leaves the
events alone and everything else in any state.
-/

import Agora.Lib.Run
import Agora.EventRegistry.Registration

namespace Agora.EventRegistry

open Soroban TicketPayment

/-! ### The organizer -/

def updateEventStatus (signed : Address → Bool) (eventId : EventId) (isActive : Bool) :
    Entry Unit := do
  let event ← getEvent eventId
  requireOrganizer signed eventId event.organizerAddress
  require (event.status ≠ .cancelled) (.error .eventCancelled)
  -- a flag that would not change is not written
  if event.isActive = isActive then pure ()
  else updateEvent eventId { event with isActive := isActive }

def storeEventReceipt (eventId : EventId) (receipt : EventReceipt) : Entry Unit :=
  modify fun registry =>
    { registry with
      eventReceipts := registry.eventReceipts.set eventId receipt
      organizerReceipts := registry.organizerReceipts.add receipt.organizerAddress eventId }

/-- The id of an archived event is free again. -/
def archiveEvent (signed : Address → Bool) (timestamp : Nat) (eventId : EventId) :
    Entry Unit := do
  let event ← getEvent eventId
  requireOrganizer signed eventId event.organizerAddress
  require (event.isActive = false) (.error .eventIsActive)
  modify fun registry => registry.removeEvent eventId
  storeEventReceipt eventId ⟨event.organizerAddress, event.currentSupply, timestamp⟩

def updateMetadata (signed : Address → Bool) (eventId : EventId) (newMetadataCid : Bytes) :
    Entry Unit := do
  let event ← getEvent eventId
  requireOrganizer signed eventId event.organizerAddress
  validateMetadataCid newMetadataCid
  if event.metadataCid = newMetadataCid then pure ()
  else updateEvent eventId { event with metadataCid := newMetadataCid }

def setFeedbackCid (signed : Address → Bool) (timestamp : Nat) (eventId : EventId)
    (feedbackCid : Bytes) : Entry Unit := do
  let event ← getEvent eventId
  requireOrganizer signed eventId event.organizerAddress
  require (event.Ended timestamp) (.error .eventNotEnded)
  validateMetadataCid feedbackCid
  if event.feedbackCid = some feedbackCid then pure ()
  else updateEvent eventId { event with feedbackCid := some feedbackCid }

def setResaleCapBps (signed : Address → Bool) (eventId : EventId) (resaleCapBps : Option Nat) :
    Entry Unit := do
  let event ← getEvent eventId
  requireOrganizer signed eventId event.organizerAddress
  require (resaleCapBps.getD 0 ≤ 10000) (.error .invalidResaleCapBps)
  updateEvent eventId { event with resaleCapBps := resaleCapBps }

def postponeEvent (signed : Address → Bool) (timestamp : Nat) (eventId : EventId)
    (newStartTime gracePeriodEnd : Nat) : Entry Unit := do
  let event ← getEvent eventId
  requireOrganizer signed eventId event.organizerAddress
  require (timestamp < newStartTime) (.error .invalidDeadline)
  require (timestamp < gracePeriodEnd) (.error .invalidGracePeriod)
  updateEvent eventId { event with
    startTime := newStartTime, isPostponed := true, gracePeriodEnd := gracePeriodEnd }

/-! ### Tiers -/

/-- A tier that is replaced still counts towards the limit, beside the one that replaces it. -/
def validateAddedLimit (event : Event) (tier : Tier) : Entry Unit :=
  if 0 < event.maxSupply then do
    let existing ← orFault (totalTierLimit event.tiers) (.error .supplyOverflow)
    let total ← orFault (checkedAdd existing tier.tierLimit) (.error .supplyOverflow)
    require (total ≤ event.maxSupply) (.error .tierLimitExceeds)
  else pure ()

/-- The id may name a tier that the event has already; that tier is lost. -/
def addTier (signed : Address → Bool) (eventId : EventId) (tierId : TierId) (tier : Tier) :
    Entry Unit := do
  let event ← getEvent eventId
  require (signed event.organizerAddress = true) .trap
  validateAddedLimit event tier
  updateEvent eventId { event with tiers := event.tiers.set tierId tier }

def deactivateTier (signed : Address → Bool) (eventId : EventId) (tierId : TierId) :
    Entry Unit := do
  let event ← getEvent eventId
  require (signed event.organizerAddress = true) .trap
  let tier ← getTier event tierId
  updateEvent eventId
    { event with tiers := event.tiers.set tierId { tier with tierLimit := tier.currentSold } }

/-! ### The bridge -/

/-- The event after tickets of a tier were minted for another chain. -/
def Event.minted (event : Event) (tierId : TierId) (tier : Tier) (quantity : Nat) : Event :=
  { event with
    tiers := event.tiers.set tierId { tier with currentSold := tier.currentSold + quantity }
    currentSupply := event.currentSupply + quantity }

def executeTeleportMint (tierId : TierId) (eventId : EventId) (quantity : Nat) :
    Entry Unit := do
  let event ← getEvent eventId
  require (event.isActive = true ∧ event.status ≠ .cancelled) (.error .eventInactive)
  require (event.maxSupply ≤ 0 ∨ InI128 (event.currentSupply + quantity))
    (.error .supplyOverflow)
  require (event.maxSupply ≤ 0 ∨ event.currentSupply + quantity ≤ event.maxSupply)
    (.error .maxSupplyExceeded)
  let tier ← getTier event tierId
  require (InI128 (tier.currentSold + quantity)) (.error .supplyOverflow)
  require (tier.currentSold + quantity ≤ tier.tierLimit) (.error .tierSoldOut)
  require (InI128 (event.currentSupply + quantity)) (.error .supplyOverflow)
  modify fun registry =>
    { registry with
      globalTicketsSold := saturatingI128 (registry.globalTicketsSold + quantity) }
  updateEvent eventId (event.minted tierId tier quantity)

/-- Anybody may call this. The signatures are counted. -/
def mintCrossChainTicket (originTxHash : Bytes) (ticketTierId : TierId)
    (signatures : List Bytes) (eventId : EventId) (quantity : Nat) : Entry Unit := do
  let registry ← get
  require ((registry.processedTeleports.get originTxHash).getD false = false)
    (.error .replayAttackDetected)
  let threshold ← orFault registry.bridgeThreshold (.error .notInitialized)
  require (threshold ≤ signatures.length) (.error .insufficientSignatures)
  modify fun registry =>
    { registry with processedTeleports := registry.processedTeleports.set originTxHash true }
  executeTeleportMint ticketTierId eventId quantity

/-! ### The administrator -/

def requireAdmin (signed : Address → Bool) : Entry Unit := do
  let registry ← get
  let admin ← orFault registry.admin (.error .notInitialized)
  require (signed admin = true) .trap

def setCustomEventFee (signed : Address → Bool) (eventId : EventId)
    (customFeeBps : Option Nat) : Entry Unit := do
  requireAdmin signed
  require (customFeeBps.getD 0 ≤ 10000) (.error .invalidFeePercent)
  let event ← getEvent eventId
  updateEvent eventId { event with customFeeBps := customFeeBps }

/-- An active event is taken off sale. -/
def Registry.suspendEvent (registry : Registry) (eventId : EventId) : Registry :=
  match registry.events.get eventId with
  | none => registry
  | some event =>
    if event.isActive then registry.storeEvent eventId { event with isActive := false }
    else registry

def Registry.suspendOrganizerEvents (registry : Registry) (organizer : Address) : Registry :=
  (registry.organizerEvents.all organizer).foldl Registry.suspendEvent registry

section

variable {registry : Registry} (property : Registry → Prop)
  (suspends : ∀ (registry : Registry) (eventId : EventId) (event : Event),
    registry.events.get eventId = some event → property registry →
      property (registry.storeEvent eventId { event with isActive := false }))
  (start : property registry)

include suspends start

/-- What the suspension of an active event keeps, every suspension keeps. -/
theorem Registry.suspendEvent_induction {eventId : EventId} :
    property (registry.suspendEvent eventId) := by
  unfold Registry.suspendEvent
  split
  · exact start
  · rename_i event stored
    split
    · exact suspends registry eventId event stored start
    · exact start

theorem Registry.suspendOrganizerEvents_induction (organizer : Address) :
    property (registry.suspendOrganizerEvents organizer) := by
  unfold Registry.suspendOrganizerEvents
  refine List.foldlRecOn _ _ start ?_
  intro reached held eventId _
  exact suspendEvent_induction property suspends held

end

def Registry.addToBlacklist (registry : Registry) (organizer : Address) : Registry :=
  { registry with
    platform := { registry.platform with
      blacklisted := fun address =>
        if address = organizer then true else registry.platform.blacklisted address } }

def blacklistOrganizer (contract : Address) (signed : Address → Bool) (organizer : Address) :
    Entry Unit := do
  requireAdmin signed
  require (organizer ≠ contract) (.error .invalidAddress)
  let registry ← get
  if registry.platform.blacklisted organizer = true then pure ()
  else modify fun registry =>
    (registry.addToBlacklist organizer).suspendOrganizerEvents organizer

/-! ### What the entry points do -/

/-- A stored event is left alone or written anew. -/
def Edits (registry : Registry) (eventId : EventId) (edit : Event → Event) (next : Registry) :
    Prop :=
  ∃ event, registry.events.get eventId = some event ∧
    (next = registry ∨ next = registry.updateEvent eventId (edit event))

section Specifications

variable {signed : Address → Bool} {eventId : EventId} {registry : Registry} {timestamp : Nat}
  {tierId : TierId} {tier : Tier}

theorem updateEventStatus_ensures {isActive : Bool} :
    Ensures (updateEventStatus signed eventId isActive) registry fun _ next =>
      Edits registry eventId (fun event => { event with isActive := isActive }) next ∧
        ∀ event ∈ registry.events.get eventId, event.status ≠ .cancelled := by
  simp only [updateEventStatus, getEvent, requireOrganizer, updateEvent, ensures_rules]
  intro event stored _ _ _ _ uncancelled
  have checked : ∀ other ∈ registry.events.get eventId, other.status ≠ .cancelled := by
    intro other found
    cases stored.symm.trans found
    exact uncancelled
  exact ⟨fun _ => ⟨⟨event, stored, .inl rfl⟩, checked⟩,
    fun _ => ⟨⟨event, stored, .inr rfl⟩, checked⟩⟩

theorem updateMetadata_ensures {newMetadataCid : Bytes} :
    Ensures (updateMetadata signed eventId newMetadataCid) registry fun _ next =>
      Edits registry eventId (fun event => { event with metadataCid := newMetadataCid }) next := by
  simp only [updateMetadata, getEvent, requireOrganizer, validateMetadataCid, updateEvent,
    ensures_rules]
  intro event stored _ _ _ _ _
  exact ⟨fun _ => ⟨event, stored, .inl rfl⟩, fun _ => ⟨event, stored, .inr rfl⟩⟩

theorem setFeedbackCid_ensures {feedbackCid : Bytes} :
    Ensures (setFeedbackCid signed timestamp eventId feedbackCid) registry fun _ next =>
      Edits registry eventId (fun event => { event with feedbackCid := some feedbackCid })
        next := by
  simp only [setFeedbackCid, getEvent, requireOrganizer, validateMetadataCid, updateEvent,
    ensures_rules]
  intro event stored _ _ _ _ _ _
  exact ⟨fun _ => ⟨event, stored, .inl rfl⟩, fun _ => ⟨event, stored, .inr rfl⟩⟩

theorem setResaleCapBps_ensures {resaleCapBps : Option Nat} :
    Ensures (setResaleCapBps signed eventId resaleCapBps) registry fun _ next =>
      Edits registry eventId (fun event => { event with resaleCapBps := resaleCapBps }) next ∧
        resaleCapBps.getD 0 ≤ 10000 := by
  simp only [setResaleCapBps, getEvent, requireOrganizer, updateEvent, ensures_rules]
  intro event stored _ _ _ _ small
  exact ⟨⟨event, stored, .inr rfl⟩, small⟩

theorem postponeEvent_ensures {newStartTime gracePeriodEnd : Nat} :
    Ensures (postponeEvent signed timestamp eventId newStartTime gracePeriodEnd) registry
      fun _ next => Edits registry eventId (fun event => { event with
        startTime := newStartTime, isPostponed := true, gracePeriodEnd := gracePeriodEnd })
        next := by
  simp only [postponeEvent, getEvent, requireOrganizer, updateEvent, ensures_rules]
  intro event stored _ _ _ _ _ _
  exact ⟨event, stored, .inr rfl⟩

theorem setCustomEventFee_ensures {customFeeBps : Option Nat} :
    Ensures (setCustomEventFee signed eventId customFeeBps) registry fun _ next =>
      Edits registry eventId (fun event => { event with customFeeBps := customFeeBps }) next ∧
        customFeeBps.getD 0 ≤ 10000 := by
  simp only [setCustomEventFee, requireAdmin, getEvent, updateEvent, ensures_rules]
  intro _ _ _ small event stored
  exact ⟨⟨event, stored, .inr rfl⟩, small⟩

/-- An event that is off sale goes, and a receipt stays. -/
theorem archiveEvent_ensures :
    Ensures (archiveEvent signed timestamp eventId) registry fun _ next =>
      ∃ event receipts organizerReceipts, registry.events.get eventId = some event ∧
        event.isActive = false ∧
        next = { registry.removeEvent eventId with
          eventReceipts := receipts, organizerReceipts := organizerReceipts } := by
  simp only [archiveEvent, getEvent, requireOrganizer, storeEventReceipt, ensures_rules]
  intro event stored _ _ _ _ inactive
  exact ⟨event, _, _, stored, inactive, rfl⟩

theorem validateAddedLimit_ensures {event : Event} :
    Ensures (validateAddedLimit event tier) registry fun _ next => next = registry ∧
      (0 < event.maxSupply → event.tiers.total (·.tierLimit) + tier.tierLimit ≤
        event.maxSupply) := by
  simp only [validateAddedLimit, ensures_rules]
  refine ⟨fun _ existing summed total added bounded => ⟨trivial, fun _ => ?_⟩,
    fun unlimited => ⟨trivial, fun limited => absurd limited unlimited⟩⟩
  rwa [← totalTierLimit_eq_some summed, ← eq_of_checkedAdd added]

theorem addTier_ensures :
    Ensures (addTier signed eventId tierId tier) registry fun _ next =>
      ∃ event, registry.events.get eventId = some event ∧
        (0 < event.maxSupply → event.tiers.total (·.tierLimit) + tier.tierLimit ≤
          event.maxSupply) ∧
        next = registry.updateEvent eventId
          { event with tiers := event.tiers.set tierId tier } := by
  simp only [addTier, getEvent, updateEvent, ensures_rules]
  intro event stored _
  refine validateAddedLimit_ensures.mono ?_
  rintro _ _ ⟨rfl, limited⟩
  exact ⟨event, stored, limited, rfl⟩

theorem deactivateTier_ensures :
    Ensures (deactivateTier signed eventId tierId) registry fun _ next =>
      ∃ event tier, registry.events.get eventId = some event ∧
        event.tiers.get tierId = some tier ∧
        next = registry.updateEvent eventId { event with
          tiers := event.tiers.set tierId { tier with tierLimit := tier.currentSold } } := by
  simp only [deactivateTier, getEvent, getTier, updateEvent, ensures_rules]
  intro event stored _ tier found
  exact ⟨event, tier, stored, found, rfl⟩

/-- A mint finds a new hash, enough signatures and an event on sale. The tickets fit into the event
and the tier, and are counted in the total. -/
theorem mintCrossChainTicket_ensures {originTxHash : Bytes} {signatures : List Bytes}
    {quantity : Nat} :
    Ensures (mintCrossChainTicket originTxHash tierId signatures eventId quantity) registry
      fun _ next => ∃ event tier, registry.events.get eventId = some event ∧
        event.tiers.get tierId = some tier ∧
        (event.maxSupply ≤ 0 ∨ event.currentSupply + quantity ≤ event.maxSupply) ∧
        tier.currentSold + quantity ≤ tier.tierLimit ∧
        (event.isActive = true ∧ event.status ≠ .cancelled) ∧
        (registry.processedTeleports.get originTxHash).getD false = false ∧
        (∃ threshold, registry.bridgeThreshold = some threshold ∧
          threshold ≤ signatures.length) ∧
        next = Registry.updateEvent { registry with
          processedTeleports := registry.processedTeleports.set originTxHash true
          globalTicketsSold := saturatingI128 (registry.globalTicketsSold + quantity) }
          eventId (event.minted tierId tier quantity) := by
  simp only [mintCrossChainTicket, executeTeleportMint, getEvent, getTier, updateEvent,
    ensures_rules]
  intro fresh threshold configured enough event stored onSale _ supply tier found _ limit _
  exact ⟨event, tier, stored, found, supply, limit, onSale, fresh, ⟨threshold, configured, enough⟩,
    rfl⟩

theorem blacklistOrganizer_ensures {contract organizer : Address} :
    Ensures (blacklistOrganizer contract signed organizer) registry fun _ next =>
      next = registry ∨
        next = (registry.addToBlacklist organizer).suspendOrganizerEvents organizer := by
  simp only [blacklistOrganizer, requireAdmin, ensures_rules]
  intro _ _ _ _
  exact ⟨fun _ => .inl trivial, fun _ => .inr trivial⟩

end Specifications

/-! ### The machine -/

/-- The circumstances of a call to the registry. -/
structure Invocation where
  contract : Address
  timestamp : Nat
  caller : Address
  signed : Address → Bool

/-- The entry points that write stored events, without the one that replaces an event as a
whole. All the others are one call, which brings the rest of the storage into any state. -/
inductive RegistryCall where
  | registerEvent (args : EventRegistrationArgs)
  | updateEventStatus (eventId : EventId) (isActive : Bool)
  | cancelEvent (eventId : EventId)
  | archiveEvent (eventId : EventId)
  | updateMetadata (eventId : EventId) (newMetadataCid : Bytes)
  | setFeedbackCid (eventId : EventId) (feedbackCid : Bytes)
  | setResaleCapBps (eventId : EventId) (resaleCapBps : Option Nat)
  | postponeEvent (eventId : EventId) (newStartTime gracePeriodEnd : Nat)
  | addTier (eventId : EventId) (tierId : TierId) (tier : Tier)
  | deactivateTier (eventId : EventId) (tierId : TierId)
  | incrementInventory (eventId : EventId) (tierId : TierId) (user : Address) (quantity : Nat)
      (paymentToken : Address)
  | decrementInventory (eventId : EventId) (tierId : TierId)
  | mintCrossChainTicket (originTxHash : Bytes) (ticketTierId : TierId)
      (signatures : List Bytes) (eventId : EventId) (quantity : Nat)
  | setCustomEventFee (eventId : EventId) (customFeeBps : Option Nat)
  | blacklistOrganizer (organizer : Address)
  | other (storage : Registry)

def RegistryCall.entry (invocation : Invocation) : RegistryCall → Entry Unit
  | .registerEvent args => do
    let registry ← get
    EventRegistry.registerEvent registry.platform invocation.signed args
  | .updateEventStatus eventId isActive =>
    EventRegistry.updateEventStatus invocation.signed eventId isActive
  | .cancelEvent eventId => EventRegistry.cancelEvent invocation.signed eventId
  | .archiveEvent eventId =>
    EventRegistry.archiveEvent invocation.signed invocation.timestamp eventId
  | .updateMetadata eventId newMetadataCid =>
    EventRegistry.updateMetadata invocation.signed eventId newMetadataCid
  | .setFeedbackCid eventId feedbackCid =>
    EventRegistry.setFeedbackCid invocation.signed invocation.timestamp eventId feedbackCid
  | .setResaleCapBps eventId resaleCapBps =>
    EventRegistry.setResaleCapBps invocation.signed eventId resaleCapBps
  | .postponeEvent eventId newStartTime gracePeriodEnd =>
    EventRegistry.postponeEvent invocation.signed invocation.timestamp eventId newStartTime
      gracePeriodEnd
  | .addTier eventId tierId tier => EventRegistry.addTier invocation.signed eventId tierId tier
  | .deactivateTier eventId tierId =>
    EventRegistry.deactivateTier invocation.signed eventId tierId
  | .incrementInventory eventId tierId user quantity paymentToken =>
    EventRegistry.incrementInventory invocation.caller eventId tierId user quantity paymentToken
  | .decrementInventory eventId tierId =>
    EventRegistry.decrementInventory invocation.caller eventId tierId
  | .mintCrossChainTicket originTxHash ticketTierId signatures eventId quantity =>
    EventRegistry.mintCrossChainTicket originTxHash ticketTierId signatures eventId quantity
  | .setCustomEventFee eventId customFeeBps =>
    EventRegistry.setCustomEventFee invocation.signed eventId customFeeBps
  | .blacklistOrganizer organizer =>
    EventRegistry.blacklistOrganizer invocation.contract invocation.signed organizer
  | .other storage => modify fun registry => { storage with events := registry.events }

def registryStep (registry : Registry) (action : Invocation × RegistryCall) : Registry :=
  commit (action.2.entry action.1) registry

/-- The storage before anything was written to it. -/
def Registry.vacant : Registry where
  admin := none
  platform := ⟨false, fun _ => false, 0⟩
  ticketPaymentContract := none
  events := .empty
  organizerEvents := .empty
  globalEventCount := 0
  globalActiveEventCount := 0
  eventReceipts := .empty
  organizerReceipts := .empty
  bridgeThreshold := none
  processedTeleports := .empty
  disputes := .empty
  globalPromoBps := 0
  promoExpiry := 0
  authorizedScanner := .empty
  userTicketCount := .empty
  globalTicketsSold := 0
  guestProfile := .empty

end Agora.EventRegistry

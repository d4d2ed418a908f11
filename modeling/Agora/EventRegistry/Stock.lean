/-
This file proves what the registry keeps of its inventory. An event counts its tickets
twice, in total and by tier, and the two counts are written by different calls.

The abstract inventory is a stock: a supply, the tickets sold of it, and the tiers. It
is opened without a sale, tickets of a tier move out of it and back, a tier is put in
place and a tier is closed. `registryStep_origin` says once that a call takes the stock
of every event through one of these changes or leaves it alone. No event is oversold,
for the total is checked at every sale. The tiers add up to the total only as long as no
tier with sold tickets is replaced.
-/

import Agora.EventRegistry.Contract
import Agora.EventRegistry.System

namespace Agora.EventRegistry

open Soroban TicketPayment

/-! ### Stocks -/

/-- What an event has for sale. -/
structure Stock where
  maxSupply : Int
  currentSupply : Int
  tiers : Table TierId Tier

def Event.stock (event : Event) : Stock :=
  ⟨event.maxSupply, event.currentSupply, event.tiers⟩

namespace Stock

/-- Tickets of a tier are sold, or given back. -/
def move (stock : Stock) (tierId : TierId) (tier : Tier) (quantity : Int) : Stock where
  maxSupply := stock.maxSupply
  currentSupply := stock.currentSupply + quantity
  tiers := stock.tiers.set tierId { tier with currentSold := tier.currentSold + quantity }

/-- A tier is put in place, whatever was there before. -/
def place (stock : Stock) (tierId : TierId) (tier : Tier) : Stock :=
  { stock with tiers := stock.tiers.set tierId tier }

/-- No more is sold than there is, where the supply is limited. -/
structure Covered (stock : Stock) : Prop where
  nonneg : 0 ≤ stock.currentSupply
  within : 0 < stock.maxSupply → stock.currentSupply ≤ stock.maxSupply

/-- The tiers add up. -/
structure Balanced (stock : Stock) : Prop where
  counted : stock.currentSupply = stock.tiers.total (·.currentSold)
  sold : ∀ tierId tier, stock.tiers.get tierId = some tier →
    0 ≤ tier.currentSold ∧ tier.currentSold ≤ tier.tierLimit
  limited : 0 < stock.maxSupply → stock.tiers.total (·.tierLimit) ≤ stock.maxSupply

variable {stock : Stock} {tierId : TierId} {tier : Tier}

theorem Balanced.move {quantity : Int} (balanced : stock.Balanced)
    (found : stock.tiers.get tierId = some tier) (nonneg : 0 ≤ tier.currentSold + quantity)
    (limit : tier.currentSold + quantity ≤ tier.tierLimit) :
    (stock.move tierId tier quantity).Balanced where
  counted := by
    simp only [Stock.move, Table.total_set, found, Option.map_some, Option.getD_some]
    rw [balanced.counted]
    ring
  sold := Table.forall_set balanced.sold ⟨nonneg, limit⟩
  limited positive := by
    simp only [Stock.move, Table.total_set, found, Option.map_some, Option.getD_some]
    rw [sub_self, add_zero]
    exact balanced.limited positive

/-- A tier may be put in place of one of which no ticket is sold, or of as many as of the new
one. -/
theorem Balanced.place (balanced : stock.Balanced)
    (same : tier.currentSold = ((stock.tiers.get tierId).map (·.currentSold)).getD 0)
    (bounds : 0 ≤ tier.currentSold ∧ tier.currentSold ≤ tier.tierLimit)
    (limited : 0 < stock.maxSupply → (stock.place tierId tier).tiers.total (·.tierLimit) ≤
      stock.maxSupply) :
    (stock.place tierId tier).Balanced where
  counted := by
    simp only [Stock.place, Table.total_set]
    rw [same, sub_self, add_zero]
    exact balanced.counted
  sold := Table.forall_set balanced.sold bounds
  limited := limited

end Stock

/-- The stock of every stored event has the property. -/
def Registry.EveryStock (registry : Registry) (property : Stock → Prop) : Prop :=
  ∀ eventId event, registry.events.get eventId = some event → property event.stock

theorem Registry.everyStock_vacant (property : Stock → Prop) :
    Registry.vacant.EveryStock property := by
  intro eventId event absurdity
  cases absurdity

/-! ### What a call does -/

/-- The event that a call is about. -/
def RegistryCall.target : RegistryCall → Option EventId
  | .registerEvent args => some args.eventId
  | .updateEventStatus eventId _ => some eventId
  | .cancelEvent eventId => some eventId
  | .archiveEvent eventId => some eventId
  | .updateMetadata eventId _ => some eventId
  | .setFeedbackCid eventId _ => some eventId
  | .setResaleCapBps eventId _ => some eventId
  | .postponeEvent eventId _ _ => some eventId
  | .addTier eventId _ _ => some eventId
  | .deactivateTier eventId _ => some eventId
  | .incrementInventory eventId _ _ _ _ => some eventId
  | .decrementInventory eventId _ => some eventId
  | .mintCrossChainTicket _ _ _ eventId _ => some eventId
  | .setCustomEventFee eventId _ => some eventId
  | .blacklistOrganizer _ => none
  | .other _ => none

/-- What a call that succeeds makes of the registry, with the checks it has passed. -/
inductive Outcome (registry : Registry) : RegistryCall → Registry → Prop
  | idle (call : RegistryCall) : Outcome registry call registry
  | registered {args : EventRegistrationArgs} (free : registry.events.get args.eventId = none)
      (bounded : ∀ plan ∈ args.milestonePlan, (plan.map (·.releasePercent)).sum ≤ maxBps)
      (limited : 0 < args.maxSupply → args.tiers.total (·.tierLimit) ≤ args.maxSupply)
      (capped : args.resaleCapBps.getD 0 ≤ 10000)
      (welcome : registry.platform.blacklisted args.organizerAddress = false) :
    Outcome registry (.registerEvent args)
      (registry.storeEvent args.eventId (args.event registry.platform.platformFee))
  | activated {eventId : EventId} {isActive : Bool} {event : Event}
      (stored : registry.events.get eventId = some event)
      (uncancelled : event.status ≠ .cancelled) :
    Outcome registry (.updateEventStatus eventId isActive)
      (registry.updateEvent eventId { event with isActive := isActive })
  | cancelled {eventId : EventId} {event : Event}
      (stored : registry.events.get eventId = some event) :
    Outcome registry (.cancelEvent eventId) (registry.updateEvent eventId event.cancelled)
  | archived {eventId : EventId} {event : Event} {receipts : Store EventId EventReceipt}
      {organizerReceipts : OrganizerIndex} (stored : registry.events.get eventId = some event)
      (inactive : event.isActive = false) :
    Outcome registry (.archiveEvent eventId) { registry.removeEvent eventId with
      eventReceipts := receipts, organizerReceipts := organizerReceipts }
  | described {call : RegistryCall} {eventId : EventId} {event : Event} {metadataCid : Bytes}
      {feedbackCid : Option Bytes} {startTime : Nat} {isPostponed : Bool} {gracePeriodEnd : Nat}
      (target : call.target = some eventId) (stored : registry.events.get eventId = some event) :
    Outcome registry call (registry.updateEvent eventId { event with
      metadataCid, feedbackCid, startTime, isPostponed, gracePeriodEnd })
  | capped {eventId : EventId} {event : Event} {resaleCapBps : Option Nat}
      (stored : registry.events.get eventId = some event)
      (small : resaleCapBps.getD 0 ≤ 10000) :
    Outcome registry (.setResaleCapBps eventId resaleCapBps)
      (registry.updateEvent eventId { event with resaleCapBps := resaleCapBps })
  | charged {eventId : EventId} {event : Event} {customFeeBps : Option Nat}
      (stored : registry.events.get eventId = some event)
      (small : customFeeBps.getD 0 ≤ 10000) :
    Outcome registry (.setCustomEventFee eventId customFeeBps)
      (registry.updateEvent eventId { event with customFeeBps := customFeeBps })
  | tierAdded {eventId : EventId} {tierId : TierId} {event : Event} {tier : Tier}
      (stored : registry.events.get eventId = some event)
      (limited : 0 < event.maxSupply → event.tiers.total (·.tierLimit) + tier.tierLimit ≤
        event.maxSupply) :
    Outcome registry (.addTier eventId tierId tier)
      (registry.updateEvent eventId { event with tiers := event.tiers.set tierId tier })
  | tierClosed {eventId : EventId} {tierId : TierId} {event : Event} {tier : Tier}
      (stocked : Stocked registry eventId tierId event tier) :
    Outcome registry (.deactivateTier eventId tierId) (registry.updateEvent eventId { event with
      tiers := event.tiers.set tierId { tier with tierLimit := tier.currentSold } })
  | sold {eventId : EventId} {tierId : TierId} {user token : Address} {quantity : Nat}
      {event : Event} {tier : Tier} (stocked : Stocked registry eventId tierId event tier)
      (room : HasRoom event tier quantity)
      (onSale : event.isActive = true ∧ event.status ≠ .cancelled) :
    Outcome registry (.incrementInventory eventId tierId user quantity token)
      (((countTickets eventId tierId tier user quantity registry).addToGlobalTicketsSold
        quantity).updateEvent eventId (event.sold tierId tier quantity))
  | returned {eventId : EventId} {tierId : TierId} {event : Event} {tier : Tier}
      (stocked : Stocked registry eventId tierId event tier) (sold : 0 < tier.currentSold)
      (supplied : 0 < event.currentSupply) :
    Outcome registry (.decrementInventory eventId tierId)
      (registry.updateEvent eventId (event.returned tierId tier))
  | minted {originTxHash : Bytes} {eventId : EventId} {tierId : TierId}
      {signatures : List Bytes} {quantity : Nat} {event : Event} {tier : Tier}
      (stocked : Stocked registry eventId tierId event tier) (room : HasRoom event tier quantity)
      (onSale : event.isActive = true ∧ event.status ≠ .cancelled)
      (fresh : (registry.processedTeleports.get originTxHash).getD false = false)
      (signed : ∃ threshold, registry.bridgeThreshold = some threshold ∧
        threshold ≤ signatures.length) :
    Outcome registry (.mintCrossChainTicket originTxHash tierId signatures eventId quantity)
      (Registry.updateEvent { registry with
        processedTeleports := registry.processedTeleports.set originTxHash true
        globalTicketsSold := saturatingI128 (registry.globalTicketsSold + quantity) }
        eventId (event.minted tierId tier quantity))
  | blacklisted {organizer : Address} : Outcome registry (.blacklistOrganizer organizer)
      ((registry.addToBlacklist organizer).suspendOrganizerEvents organizer)
  | other {storage : Registry} :
    Outcome registry (.other storage) { storage with events := registry.events }

variable {registry next : Registry} {call : RegistryCall} {eventId : EventId}

theorem Edits.outcome {edit : Event → Event} (edits : Edits registry eventId edit next)
    (makes : ∀ event, registry.events.get eventId = some event →
      Outcome registry call (registry.updateEvent eventId (edit event))) :
    Outcome registry call next := by
  obtain ⟨event, stored, rfl | rfl⟩ := edits
  · exact .idle call
  · exact makes event stored

/-- Every call that succeeds has one of the outcomes. -/
theorem registryCall_outcome {invocation : Invocation} {call : RegistryCall} :
    Ensures (call.entry invocation) registry fun _ next => Outcome registry call next := by
  cases call with
  | registerEvent args =>
    simp only [RegistryCall.entry, ensures_rules]
    refine registerEvent_ensures.mono ?_
    rintro _ _ ⟨free, rfl, bounded, limited, capped, welcome⟩
    exact .registered (by simpa using free) bounded limited capped welcome
  | updateEventStatus eventId isActive =>
    exact updateEventStatus_ensures.mono fun _ _ both =>
      both.1.outcome fun event stored => .activated stored (both.2 event stored)
  | cancelEvent eventId =>
    refine cancelEvent_ensures.mono ?_
    rintro _ _ ⟨event, stored, rfl⟩
    exact .cancelled stored
  | archiveEvent eventId =>
    refine archiveEvent_ensures.mono ?_
    rintro _ _ ⟨event, _, _, stored, inactive, rfl⟩
    exact .archived stored inactive
  | updateMetadata eventId newMetadataCid =>
    exact updateMetadata_ensures.mono fun _ _ edits =>
      edits.outcome fun _ => .described rfl
  | setFeedbackCid eventId feedbackCid =>
    exact setFeedbackCid_ensures.mono fun _ _ edits =>
      edits.outcome fun _ => .described rfl
  | setResaleCapBps eventId resaleCapBps =>
    exact setResaleCapBps_ensures.mono fun _ _ both =>
      both.1.outcome fun _ stored => .capped stored both.2
  | postponeEvent eventId newStartTime gracePeriodEnd =>
    exact postponeEvent_ensures.mono fun _ _ edits => edits.outcome fun _ => .described rfl
  | addTier eventId tierId tier =>
    refine addTier_ensures.mono ?_
    rintro _ _ ⟨event, stored, limited, rfl⟩
    exact .tierAdded stored limited
  | deactivateTier eventId tierId =>
    refine deactivateTier_ensures.mono ?_
    rintro _ _ ⟨event, tier, stored, found, rfl⟩
    exact .tierClosed ⟨stored, found⟩
  | incrementInventory eventId tierId user quantity token =>
    refine incrementInventory_ensures.mono ?_
    rintro _ _ ⟨event, tier, stocked, room, _, _, onSale, rfl⟩
    exact .sold stocked room onSale
  | decrementInventory eventId tierId =>
    refine decrementInventory_ensures.mono ?_
    rintro _ _ ⟨event, tier, stocked, sold, supplied, rfl⟩
    exact .returned stocked sold supplied
  | mintCrossChainTicket originTxHash tierId signatures eventId quantity =>
    refine mintCrossChainTicket_ensures.mono ?_
    rintro _ _ ⟨event, tier, stored, found, supply, limit, onSale, fresh, signed, rfl⟩
    exact .minted ⟨stored, found⟩ ⟨supply, limit⟩ onSale fresh signed
  | setCustomEventFee eventId customFeeBps =>
    exact setCustomEventFee_ensures.mono fun _ _ both =>
      both.1.outcome fun _ stored => .charged stored both.2
  | blacklistOrganizer organizer =>
    refine blacklistOrganizer_ensures.mono ?_
    rintro _ _ (rfl | rfl)
    · exact .idle _
    · exact .blacklisted
  | other storage =>
    simp only [RegistryCall.entry, ensures_modify]
    exact .other

/-! ### What a call does to the stocks -/

/-- Where the stock of an event after a call comes from. -/
inductive Origin (registry : Registry) (eventId : EventId) (call : RegistryCall) : Stock → Prop
  | kept {event : Event} (stored : registry.events.get eventId = some event) :
    Origin registry eventId call event.stock
  | opened {args : EventRegistrationArgs} (called : call = .registerEvent args)
      (limited : 0 < args.maxSupply → args.tiers.total (·.tierLimit) ≤ args.maxSupply) :
    Origin registry eventId call ⟨args.maxSupply, 0, args.tiers⟩
  | sold {event : Event} {tierId : TierId} {tier : Tier} {quantity : Nat}
      (stocked : Stocked registry eventId tierId event tier) (room : HasRoom event tier quantity) :
    Origin registry eventId call (event.stock.move tierId tier quantity)
  | returned {event : Event} {tierId : TierId} {tier : Tier}
      (stocked : Stocked registry eventId tierId event tier) (sold : 0 < tier.currentSold)
      (supplied : 0 < event.currentSupply) :
    Origin registry eventId call (event.stock.move tierId tier (-1))
  | added {event : Event} {tierId : TierId} {tier : Tier}
      (called : call = .addTier eventId tierId tier)
      (stored : registry.events.get eventId = some event)
      (limited : 0 < event.maxSupply → event.tiers.total (·.tierLimit) + tier.tierLimit ≤
        event.maxSupply) :
    Origin registry eventId call (event.stock.place tierId tier)
  | closed {event : Event} {tierId : TierId} {tier : Tier}
      (stocked : Stocked registry eventId tierId event tier) :
    Origin registry eventId call
      (event.stock.place tierId { tier with tierLimit := tier.currentSold })

/-- Every event has its stock from somewhere. -/
def Explains (registry : Registry) (call : RegistryCall) (next : Registry) : Prop :=
  ∀ eventId event, next.events.get eventId = some event →
    Origin registry eventId call event.stock

section Explanations

theorem Explains.of_events (same : next.events = registry.events) :
    Explains registry call next := by
  intro eventId event stored
  rw [same] at stored
  exact .kept stored

variable {event : Event}

/-- One event is written. -/
theorem Explains.of_set (events : next.events = registry.events.set eventId event)
    (origin : Origin registry eventId call event.stock) : Explains registry call next := by
  rw [Explains, events]
  exact Store.forall_set (fun _ _ stored => .kept stored) origin

theorem Explains.of_remove (events : next.events = registry.events.remove eventId) :
    Explains registry call next := by
  intro other record stored
  rw [events, Store.get_remove] at stored
  split at stored
  · cases stored
  · exact .kept stored

/-- An event is written with another description and the same stock. -/
theorem Explains.of_updateEvent {record : Event} (stored : registry.events.get eventId = some event)
    (same : record.stock = event.stock) :
    Explains registry call (registry.updateEvent eventId record) :=
  .of_set rfl (same ▸ .kept stored)

/-- A suspension changes no stock. -/
theorem Explains.suspended {other : EventId} {event : Event}
    (stored : next.events.get other = some event) (explains : Explains registry call next) :
    Explains registry call (next.storeEvent other { event with isActive := false }) := by
  rw [Explains, Registry.events_storeEvent]
  exact Store.forall_set explains (explains other event stored)

theorem Explains.blacklist (organizer : Address) :
    Explains registry call
      ((registry.addToBlacklist organizer).suspendOrganizerEvents organizer) := by
  have listed : Explains registry call (registry.addToBlacklist organizer) := .of_events rfl
  -- one event after another, each suspension on top of the earlier ones
  refine Registry.suspendOrganizerEvents_induction (Explains registry call) ?_ listed organizer
  intro next eventId event stored explains
  exact explains.suspended stored

end Explanations

theorem events_removeEvent {event : Event} (stored : registry.events.get eventId = some event) :
    (registry.removeEvent eventId).events = registry.events.remove eventId := by
  simp only [Registry.removeEvent, stored]

theorem Outcome.explains (outcome : Outcome registry call next) : Explains registry call next := by
  cases outcome with
  | idle | other => exact .of_events rfl
  | registered _ _ limited _ _ => exact .of_set rfl (.opened rfl limited)
  | activated stored _ | cancelled stored | described _ stored | capped stored _
  | charged stored _ => exact .of_updateEvent stored rfl
  | archived stored _ => exact .of_remove (events_removeEvent stored)
  | tierAdded stored limited => exact .of_set rfl (.added rfl stored limited)
  | tierClosed stocked => exact .of_set rfl (.closed stocked)
  | sold stocked room _ => exact .of_set (events_sold _ _ _ _ _ registry _) (.sold stocked room)
  | returned stocked sold supplied => exact .of_set rfl (.returned stocked sold supplied)
  | minted stocked room _ _ _ => exact .of_set rfl (.sold stocked room)
  | blacklisted => exact .blacklist _

/-- After a call every event has its stock from before it, through at most one change. -/
theorem registryStep_origin {action : Invocation × RegistryCall} :
    Explains registry action.2 (registryStep registry action) :=
  commit_of_ensures (.of_events rfl) (registryCall_outcome.mono fun _ _ => Outcome.explains)

/-! ### Supplies -/

variable {stock : Stock}

theorem Origin.covered (origin : Origin registry eventId call stock)
    (before : registry.EveryStock Stock.Covered) : stock.Covered := by
  cases origin with
  | kept stored => exact before eventId _ stored
  | opened _ _ => exact ⟨le_rfl, fun positive => positive.le⟩
  | @sold event tierId tier quantity stocked room =>
    have covered := before eventId event stocked.eventEq
    refine ⟨add_nonneg covered.nonneg (Int.natCast_nonneg quantity), fun positive => ?_⟩
    exact room.supply.resolve_left (not_le.mpr positive)
  | @returned event tierId tier stocked _ supplied =>
    have covered := before eventId event stocked.eventEq
    refine ⟨Int.sub_nonneg_of_le supplied, fun positive => ?_⟩
    exact (Int.sub_le_self _ zero_le_one).trans (covered.within positive)
  | @added event tierId tier _ stored _ =>
    have covered := before eventId event stored
    exact ⟨covered.nonneg, covered.within⟩
  | @closed event tierId tier stocked =>
    have covered := before eventId event stocked.eventEq
    exact ⟨covered.nonneg, covered.within⟩

/-- No run oversells an event. -/
theorem never_oversold (actions : List (Invocation × RegistryCall)) (eventId : EventId)
    (event : Event)
    (stored : (runActions registryStep .vacant actions).events.get eventId = some event)
    (limited : 0 < event.maxSupply) :
    0 ≤ event.currentSupply ∧ event.currentSupply ≤ event.maxSupply := by
  have every : (runActions registryStep .vacant actions).EveryStock Stock.Covered := by
    refine run_invariant (Registry.EveryStock · Stock.Covered) ?_ .vacant actions
      (Registry.everyStock_vacant _)
    intro registry action before eventId event stored
    exact (registryStep_origin eventId event stored).covered before
  have covered := every eventId event stored
  exact ⟨covered.nonneg, covered.within limited⟩

/-- Two hundred tickets, of which the one tier has half. -/
def smallConcert : EventRegistrationArgs where
  eventId := "concert"
  organizerAddress := organizerAddress
  paymentAddress := organizerAddress
  metadataCid := cidV0 ++ List.replicate 44 0x61
  maxSupply := 200
  milestonePlan := none
  tiers := Table.empty.set "general" generalTier
  refundDeadline := 0
  restockingFee := 0
  resaleCapBps := none
  minSalesTarget := none
  targetDeadline := none
  tags := none
  startTime := 0
  isPrivate := false
  endTime := 0
  acceptedTokens := []
  useGlobalWhitelist := true

/-- The payment contract calls, and everybody signs. -/
def everybodySigns : Invocation :=
  ⟨⟨"registry"⟩, 0, stage.contract, fun _ => true⟩

/-- The registry is set up, the concert registered and one ticket sold. -/
def smallConcertSold : List (Invocation × RegistryCall) :=
  [(everybodySigns, .other { Registry.vacant with
      platform := ⟨true, fun _ => false, 500⟩, ticketPaymentContract := some stage.contract }),
    (everybodySigns, .registerEvent smallConcert),
    (everybodySigns, .incrementInventory "concert" "general" aliceAddress 1 usdcAddress)]

theorem small_concert_not_oversold :
    ∃ event, (runActions registryStep .vacant smallConcertSold).events.get "concert" =
      some event ∧ event.currentSupply = 1 ∧ event.currentSupply ≤ event.maxSupply := by
  refine ⟨(smallConcert.event 500).sold "general" generalTier 1, rfl, rfl, ?_⟩
  exact (never_oversold smallConcertSold "concert" _ rfl (by decide)).2

/-! ### Tiers -/

/-- The tiers that a call hands in. -/
def RegistryCall.tiers : RegistryCall → List Tier
  | .registerEvent args => args.tiers.values
  | .addTier _ _ tier => [tier]
  | _ => []

/-- The tier in whose place a call puts another one. -/
def Registry.replacedTier (registry : Registry) : RegistryCall → Option Tier
  | .addTier eventId tierId _ => (registry.events.get eventId).bind (·.tiers.get tierId)
  | _ => none

def Tier.Unsold (tier : Tier) : Prop :=
  tier.currentSold = 0

instance (tier : Tier) : Decidable tier.Unsold :=
  inferInstanceAs (Decidable (_ = _))

theorem Origin.balanced (origin : Origin registry eventId call stock)
    (fresh : ∀ tier ∈ call.tiers, tier.Unsold ∧ 0 ≤ tier.tierLimit)
    (unsold : ∀ tier ∈ registry.replacedTier call, tier.Unsold)
    (before : registry.EveryStock Stock.Balanced) : stock.Balanced := by
  cases origin with
  | kept stored => exact before eventId _ stored
  | @opened args called limited =>
    subst called
    have handedIn (tierId : TierId) (tier : Tier) (found : args.tiers.get tierId = some tier) :=
      fresh tier (Table.mem_values.mpr ⟨tierId, found⟩)
    refine ⟨(Table.total_eq_zero _ fun tierId tier found => (handedIn tierId tier found).1).symm,
      fun tierId tier found => ?_, limited⟩
    obtain ⟨none, nonneg⟩ := handedIn tierId tier found
    exact ⟨none.ge, none.le.trans nonneg⟩
  | @sold event tierId tier quantity stocked room =>
    have balanced := before eventId event stocked.eventEq
    have nonneg := (balanced.sold tierId tier stocked.tierEq).1
    exact balanced.move stocked.tierEq (add_nonneg nonneg (Int.natCast_nonneg quantity)) room.limit
  | @returned event tierId tier stocked sold _ =>
    have balanced := before eventId event stocked.eventEq
    have limit := (balanced.sold tierId tier stocked.tierEq).2
    exact balanced.move stocked.tierEq (by omega) (by omega)
  | @added event tierId tier called stored limited =>
    subst called
    have balanced := before eventId event stored
    obtain ⟨none, nonneg⟩ := fresh tier (List.mem_singleton_self tier)
    -- the tier in whose place it comes counted nothing and had a limit that is not negative
    have replaced : ((event.tiers.get tierId).map (·.currentSold)).getD 0 = 0 ∧
        0 ≤ ((event.tiers.get tierId).map (·.tierLimit)).getD 0 := by
      cases found : event.tiers.get tierId with
      | none => exact ⟨rfl, le_rfl⟩
      | some old =>
        have zero : old.currentSold = 0 := unsold old (by
          simp [Registry.replacedTier, stored, found])
        have bounds := balanced.sold tierId old found
        exact ⟨zero, bounds.1.trans bounds.2⟩
    refine balanced.place (none.trans replaced.1.symm) ⟨none.ge, none.le.trans nonneg⟩ ?_
    intro positive
    have within := limited positive
    simp only [Stock.place, Event.stock, Table.total_set]
    linarith [replaced.2]
  | @closed event tierId tier stocked =>
    have balanced := before eventId event stocked.eventEq
    have bounds := balanced.sold tierId tier stocked.tierEq
    have found : event.stock.tiers.get tierId = some tier := stocked.tierEq
    refine balanced.place (by rw [found]; rfl) ⟨bounds.1, le_rfl⟩ ?_
    intro positive
    have within := balanced.limited positive
    simp only [Stock.place, Table.total_set, found, Option.map_some, Option.getD_some]
    linarith [bounds.2]

/-- In a run in which no tier is handed in with sold tickets or a negative limit, and none comes
in the place of one with sold tickets, the tiers of every event add up. -/
theorem tiers_add_up (actions : List (Invocation × RegistryCall))
    (fresh : ∀ action ∈ actions, ∀ tier ∈ action.2.tiers, tier.Unsold ∧ 0 ≤ tier.tierLimit)
    (unsold : Respects registryStep
      (fun registry action => ∀ tier ∈ registry.replacedTier action.2, tier.Unsold) .vacant actions)
    (eventId : EventId) (event : Event)
    (stored : (runActions registryStep .vacant actions).events.get eventId = some event) :
    event.currentSupply = event.tiers.total (·.currentSold) ∧
      (∀ tierId tier, event.tiers.get tierId = some tier →
        0 ≤ tier.currentSold ∧ tier.currentSold ≤ tier.tierLimit) ∧
      (0 < event.maxSupply → event.tiers.total (·.tierLimit) ≤ event.maxSupply) := by
  have every : (runActions registryStep .vacant actions).EveryStock Stock.Balanced := by
    refine respects_invariant (Registry.EveryStock · Stock.Balanced) ?_ .vacant actions
      ((respects_of_forall fresh Registry.vacant).and unsold) (Registry.everyStock_vacant _)
    intro registry action conditions before eventId event stored
    exact (registryStep_origin eventId event stored).balanced conditions.1 conditions.2 before
  have balanced := every eventId event stored
  exact ⟨balanced.counted, balanced.sold, balanced.limited⟩

theorem small_concert_adds_up :
    ∃ event, (runActions registryStep .vacant smallConcertSold).events.get "concert" =
      some event ∧ event.currentSupply = 1 ∧ event.tiers.total (·.currentSold) = 1 := by
  refine ⟨(smallConcert.event 500).sold "general" generalTier 1, rfl, rfl, ?_⟩
  exact (tiers_add_up smallConcertSold (by decide) (by decide) "concert" _ rfl).1.symm

/-- The organizer puts a tier in the place of the one that has sold a ticket. The ticket stays in
the total, no tier counts it, and it cannot be given back. -/
theorem replaced_tier_forgets_sales :
    let actions := smallConcertSold ++
      [(everybodySigns, .addTier "concert" "general" generalTier)]
    let registry := runActions registryStep .vacant actions
    (∀ action ∈ actions, ∀ tier ∈ action.2.tiers, tier.Unsold ∧ 0 ≤ tier.tierLimit) ∧
      (registry.events.get "concert").map (·.currentSupply) = some 1 ∧
      (registry.events.get "concert").map (·.tiers.total (·.currentSold)) = some 0 ∧
      accepted (decrementInventory stage.contract "concert" "general") registry = false := by
  decide

end Agora.EventRegistry

/-
This file puts the registry together once more, with the two entry points that the
inventory did not need: the one that replaces an event as a whole, and the one that takes
an organizer off the blacklist.

What the public sees of the registry is its catalog: the stored events, the list of events
of every organizer, the statistics, the blacklist and the tickets of every user. Every
entry point that touches none of these is one call that brings the rest of the storage
into any state. `catalogStep_turn` says once what a call can do to the catalog; the
invariants in the later files are about these turns only.
-/

import Agora.EventRegistry.Stock

namespace Agora.EventRegistry

open Soroban TicketPayment

/-! ### The blacklist -/

def Registry.removeFromBlacklist (registry : Registry) (organizer : Address) : Registry :=
  { registry with
    platform := { registry.platform with
      blacklisted := fun address =>
        if address = organizer then false else registry.platform.blacklisted address } }

/-- The events that were suspended stay as they are. -/
def removeFromBlacklist (contract : Address) (signed : Address → Bool) (organizer : Address) :
    Entry Unit := do
  requireAdmin signed
  require (organizer ≠ contract) (.error .invalidAddress)
  let registry ← get
  require (registry.platform.blacklisted organizer = true) (.error .orgNotBlacklisted)
  modify fun registry => registry.removeFromBlacklist organizer

/-! ### The catalog -/

/-- What the entry points that write events, and the blacklist, are about. -/
structure Catalog where
  events : Store EventId Event
  organizerEvents : OrganizerIndex
  globalEventCount : Nat
  globalActiveEventCount : Nat
  globalTicketsSold : Int
  blacklisted : Address → Bool
  userTicketCount : Store (EventId × TierId × Address) Nat

def Registry.catalog (registry : Registry) : Catalog where
  events := registry.events
  organizerEvents := registry.organizerEvents
  globalEventCount := registry.globalEventCount
  globalActiveEventCount := registry.globalActiveEventCount
  globalTicketsSold := registry.globalTicketsSold
  blacklisted := registry.platform.blacklisted
  userTicketCount := registry.userTicketCount

/-- The rest of the storage is replaced, and the catalog stays. -/
def Registry.withRest (registry storage : Registry) : Registry :=
  { storage with
    platform := { storage.platform with blacklisted := registry.platform.blacklisted }
    events := registry.events
    organizerEvents := registry.organizerEvents
    globalEventCount := registry.globalEventCount
    globalActiveEventCount := registry.globalActiveEventCount
    globalTicketsSold := registry.globalTicketsSold
    userTicketCount := registry.userTicketCount }

/-! ### The machine -/

/-- All entry points of the registry. -/
inductive CatalogCall where
  | call (call : RegistryCall)
  | storeEvent (eventId : EventId) (event : Event)
  | removeFromBlacklist (organizer : Address)

/-- The event that a call is about. -/
def CatalogCall.target : CatalogCall → Option EventId
  | .call regular => regular.target
  | .storeEvent eventId _ => some eventId
  | .removeFromBlacklist _ => none

/-- The call that stands for all entry points without a constructor of their own leaves the
catalog alone, for none of these entry points writes to it. -/
def CatalogCall.entry (invocation : Invocation) : CatalogCall → Entry Unit
  | .call (.other storage) => modify fun registry => registry.withRest storage
  | .call regular => regular.entry invocation
  | .storeEvent eventId event =>
    EventRegistry.storeEvent invocation.signed invocation.timestamp eventId event
  | .removeFromBlacklist organizer =>
    EventRegistry.removeFromBlacklist invocation.contract invocation.signed organizer

def catalogStep (registry : Registry) (action : Invocation × CatalogCall) : Registry :=
  commit (action.2.entry action.1) registry

/-! ### What a call does -/

/-- A stored event is written anew with the same organizer, as public as before, and on sale only
if it was before or the organizer asks for it. -/
structure Rewrites (registry : Registry) (call : CatalogCall) (eventId : EventId)
    (event record : Event) : Prop where
  target : call.target = some eventId
  stored : registry.events.get eventId = some event
  organizer : record.organizerAddress = event.organizerAddress
  isPrivate : record.isPrivate = event.isPrivate
  isActive : record.isActive = true →
    event.isActive = true ∨ call = .call (.updateEventStatus eventId true)

/-- What a call does to the catalog. -/
inductive CatalogTurn (registry : Registry) (call : CatalogCall) (next : Registry) : Prop
  | kept (same : next.catalog = registry.catalog)
  | registered {args : EventRegistrationArgs} {platformFee : Nat}
      (called : call = .call (.registerEvent args))
      (welcome : registry.platform.blacklisted args.organizerAddress = false)
      (free : registry.events.get args.eventId = none)
      (same : next.catalog = (registry.storeEvent args.eventId (args.event platformFee)).catalog)
  | rewritten {eventId : EventId} {event record : Event}
      (same : next.catalog = (registry.updateEvent eventId record).catalog)
      (rewrites : Rewrites registry call eventId event record)
  | sold {eventId : EventId} {tierId : TierId} {user token : Address} {quantity : Nat}
      {event : Event} {tier : Tier}
      (called : call = .call (.incrementInventory eventId tierId user quantity token))
      (stocked : Stocked registry eventId tierId event tier)
      (same : next.catalog = (((countTickets eventId tierId tier user quantity
        registry).addToGlobalTicketsSold quantity).updateEvent eventId
          (event.sold tierId tier quantity)).catalog)
  | minted {originTxHash : Bytes} {eventId : EventId} {tierId : TierId} {quantity : Nat}
      {signatures : List Bytes} {event : Event} {tier : Tier}
      (called : call =
        .call (.mintCrossChainTicket originTxHash tierId signatures eventId quantity))
      (stocked : Stocked registry eventId tierId event tier)
      (same : next.catalog = ((registry.addToGlobalTicketsSold quantity).updateEvent eventId
        (event.minted tierId tier quantity)).catalog)
  | stored {eventId : EventId} {event record : Event}
      (called : call = .storeEvent eventId record)
      (stored : registry.events.get eventId = some event)
      (organizer : record.organizerAddress = event.organizerAddress)
      (same : next.catalog = (registry.storeEvent eventId record).catalog)
  | archived {eventId : EventId} {event : Event}
      (called : call = .call (.archiveEvent eventId))
      (stored : registry.events.get eventId = some event) (inactive : event.isActive = false)
      (same : next.catalog = (registry.removeEvent eventId).catalog)
  | blacklisted {organizer : Address}
      (called : call = .call (.blacklistOrganizer organizer))
      (same : next.catalog =
        ((registry.addToBlacklist organizer).suspendOrganizerEvents organizer).catalog)
  | reprieved {organizer : Address} (called : call = .removeFromBlacklist organizer)
      (same : next.catalog = (registry.removeFromBlacklist organizer).catalog)

section Turns

variable {registry : Registry} {call : CatalogCall} (signed : Address → Bool) {eventId : EventId}

theorem CatalogTurn.refl : CatalogTurn registry call registry := .kept rfl

/-- A field of the event is written that has nothing to do with its place in the catalog. -/
theorem CatalogTurn.rewrite {event record : Event} (target : call.target = some eventId)
    (stored : registry.events.get eventId = some event)
    (organizer : record.organizerAddress = event.organizerAddress)
    (isPrivate : record.isPrivate = event.isPrivate) (isActive : record.isActive = event.isActive) :
    CatalogTurn registry call (registry.updateEvent eventId record) :=
  .rewritten rfl ⟨target, stored, organizer, isPrivate, fun active => .inl (isActive ▸ active)⟩

theorem Outcome.turn {next : Registry} {regular : RegistryCall}
    (outcome : Outcome registry regular next) (known : ∀ storage, regular ≠ .other storage) :
    CatalogTurn registry (.call regular) next := by
  cases outcome with
  | idle => exact .refl
  | registered free _ _ _ welcome => exact .registered rfl welcome free rfl
  | activated stored _ =>
    refine .rewritten rfl ⟨rfl, stored, rfl, rfl, ?_⟩
    rintro rfl
    exact .inr rfl
  | cancelled stored =>
    exact .rewritten rfl ⟨rfl, stored, rfl, rfl, fun absurdity => by cases absurdity⟩
  | archived stored inactive => exact .archived rfl stored inactive rfl
  | described target stored => exact .rewrite target stored rfl rfl rfl
  | capped stored _ | charged stored _ | tierAdded stored _ => exact .rewrite rfl stored rfl rfl rfl
  | tierClosed stocked | returned stocked _ _ => exact .rewrite rfl stocked.eventEq rfl rfl rfl
  | sold stocked _ _ => exact .sold rfl stocked rfl
  | minted stocked _ _ _ _ => exact .minted rfl stocked rfl
  | blacklisted => exact .blacklisted rfl rfl
  | other => exact absurd rfl (known _)

end Turns

theorem registryCall_turn {registry : Registry} {invocation : Invocation} {call : RegistryCall} :
    Ensures ((CatalogCall.call call).entry invocation) registry fun _ next =>
      CatalogTurn registry (.call call) next := by
  have turn (known : ∀ storage, call ≠ .other storage) : Ensures (call.entry invocation) registry
      fun _ next => CatalogTurn registry (.call call) next :=
    registryCall_outcome.mono fun _ _ outcome => outcome.turn known
  cases call with
  | other storage =>
    simp only [CatalogCall.entry, ensures_modify]
    exact .kept rfl
  | _ => exact turn (by rintro _ ⟨⟩)

/-- Every call takes the catalog through one of the turns. -/
theorem catalogStep_turn (registry : Registry) (action : Invocation × CatalogCall) :
    CatalogTurn registry action.2 (catalogStep registry action) := by
  obtain ⟨invocation, call⟩ := action
  refine commit_of_ensures .refl ?_
  cases call with
  | call call => exact registryCall_turn
  | storeEvent eventId record =>
    simp only [CatalogCall.entry, storeEvent, requireOrganizer, getEvent, ensures_rules]
    intro event stored organizer _ _ _
    exact .stored rfl stored organizer.symm rfl
  | removeFromBlacklist organizer =>
    simp only [CatalogCall.entry, removeFromBlacklist, requireAdmin, ensures_rules]
    intro _ _ _ _ _
    exact .reprieved rfl rfl

/-! ### A small registry -/

/-- The registry is initialised. -/
def opening : Invocation × CatalogCall :=
  (everybodySigns, .call (.other { Registry.vacant with
    admin := some adminAddress
    platform := ⟨true, fun _ => false, 500⟩
    ticketPaymentContract := some stage.contract
    bridgeThreshold := some 0 }))

def privateFestival : EventRegistrationArgs :=
  { smallConcert with eventId := "festival", isPrivate := true }

/-- The organizer has a public and a private event. -/
def twoRegistered : List (Invocation × CatalogCall) :=
  [opening, (everybodySigns, .call (.registerEvent smallConcert)),
    (everybodySigns, .call (.registerEvent privateFestival))]

end Agora.EventRegistry

/-
This file says once what a call does to the record of one event.

A record is written when the event is registered, goes when it is archived, and is written
again in between by a dozen entry points, each of which keeps most of it. `catalogStep_record`
lists these writes with the checks that each of them has passed; `callStep_record` says that a
call of the payment contract writes a record only as the inventory does. What happens to an
event over whole runs is proved from these writes in the later files.
-/

import Agora.EventRegistry.UserLimit

namespace Agora.EventRegistry

open Soroban TicketPayment

/-! ### The checks of a record -/

/-- What the registration checks of the amounts of an event. -/
structure Event.Valid (event : Event) : Prop where
  platformFee : event.platformFeePercent ≤ 10000
  customFee : ∀ fee ∈ event.customFeeBps, fee ≤ 10000
  resaleCap : ∀ cap ∈ event.resaleCapBps, cap ≤ 10000
  milestones : ∀ plan ∈ event.milestonePlan, (plan.map (·.releasePercent)).sum ≤ 10000
  tiers : 0 < event.maxSupply → event.tiers.total (·.tierLimit) ≤ event.maxSupply

instance (event : Event) : Decidable event.Valid :=
  decidable_of_iff (event.platformFeePercent ≤ 10000 ∧ (∀ fee ∈ event.customFeeBps, fee ≤ 10000) ∧
      (∀ cap ∈ event.resaleCapBps, cap ≤ 10000) ∧
      (∀ plan ∈ event.milestonePlan, (plan.map (·.releasePercent)).sum ≤ 10000) ∧
      (0 < event.maxSupply → event.tiers.total (·.tierLimit) ≤ event.maxSupply))
    ⟨fun ⟨platformFee, customFee, resaleCap, milestones, tiers⟩ =>
      ⟨platformFee, customFee, resaleCap, milestones, tiers⟩,
      fun valid => ⟨valid.platformFee, valid.customFee, valid.resaleCap, valid.milestones,
        valid.tiers⟩⟩

/-- Tickets of the event may be sold. -/
def Event.OnSale (event : Event) : Prop :=
  event.isActive = true ∧ event.status ≠ .cancelled

instance (event : Event) : Decidable event.OnSale :=
  inferInstanceAs (Decidable (_ ∧ _))

/-- The checks read an absent value as zero. -/
theorem le_of_getD_le {value : Option Nat} {bound : Nat} (checked : value.getD 0 ≤ bound) :
    ∀ given ∈ value, given ≤ bound := by
  rintro given ⟨⟩
  exact checked

/-! ### Writes -/

/-- How a call writes the record of an event that is stored. -/
inductive RecordWrite (eventId : EventId) (call : CatalogCall) (event : Event) : Event → Prop
  | status {isActive : Bool} (called : call = .call (.updateEventStatus eventId isActive))
      (uncancelled : event.status ≠ .cancelled) :
    RecordWrite eventId call event { event with isActive := isActive }
  | cancelled (called : call = .call (.cancelEvent eventId)) :
    RecordWrite eventId call event event.cancelled
  | described {metadataCid : Bytes} {feedbackCid : Option Bytes} {startTime : Nat}
      {isPostponed : Bool} {gracePeriodEnd : Nat} :
    RecordWrite eventId call event { event with
      metadataCid, feedbackCid, startTime, isPostponed, gracePeriodEnd }
  | capped {resaleCapBps : Option Nat} (small : ∀ cap ∈ resaleCapBps, cap ≤ 10000) :
    RecordWrite eventId call event { event with resaleCapBps }
  | charged {customFeeBps : Option Nat} (small : ∀ fee ∈ customFeeBps, fee ≤ 10000) :
    RecordWrite eventId call event { event with customFeeBps }
  | tierAdded {tierId : TierId} {tier : Tier} (called : call = .call (.addTier eventId tierId tier))
      (limited : 0 < event.maxSupply →
        event.tiers.total (·.tierLimit) + tier.tierLimit ≤ event.maxSupply) :
    RecordWrite eventId call event { event with tiers := event.tiers.set tierId tier }
  | tierClosed {tierId : TierId} {tier : Tier}
      (called : call = .call (.deactivateTier eventId tierId))
      (found : event.tiers.get tierId = some tier) :
    RecordWrite eventId call event { event with
      tiers := event.tiers.set tierId { tier with tierLimit := tier.currentSold } }
  | sold {tierId : TierId} {tier : Tier} {user token : Address} {quantity : Nat}
      (called : call = .call (.incrementInventory eventId tierId user quantity token))
      (onSale : event.OnSale) (found : event.tiers.get tierId = some tier) :
    RecordWrite eventId call event (event.sold tierId tier quantity)
  | minted {originTxHash : Bytes} {tierId : TierId} {tier : Tier} {signatures : List Bytes}
      {quantity : Nat}
      (called : call =
        .call (.mintCrossChainTicket originTxHash tierId signatures eventId quantity))
      (onSale : event.OnSale) (found : event.tiers.get tierId = some tier) :
    RecordWrite eventId call event (event.minted tierId tier quantity)
  | returned {tierId : TierId} {tier : Tier}
      (called : call = .call (.decrementInventory eventId tierId))
      (found : event.tiers.get tierId = some tier) :
    RecordWrite eventId call event (event.returned tierId tier)
  | replaced {record : Event} (called : call = .storeEvent eventId record)
      (organizer : record.organizerAddress = event.organizerAddress) :
    RecordWrite eventId call event record
  | suspended {organizer : Address} (called : call = .call (.blacklistOrganizer organizer)) :
    RecordWrite eventId call event { event with isActive := false }

/-- What a call leaves under the id of an event. -/
inductive RecordTurn (registry : Registry) (eventId : EventId) (call : CatalogCall) :
    Option Event → Prop
  | kept : RecordTurn registry eventId call (registry.events.get eventId)
  | registered {args : EventRegistrationArgs} (called : call = .call (.registerEvent args))
      (named : args.eventId = eventId) (free : registry.events.get eventId = none)
      (valid : registry.platform.platformFee ≤ 10000 →
        (args.event registry.platform.platformFee).Valid) :
    RecordTurn registry eventId call (some (args.event registry.platform.platformFee))
  | written {event record : Event} (stored : registry.events.get eventId = some event)
      (writes : RecordWrite eventId call event record) :
    RecordTurn registry eventId call (some record)
  | archived {event : Event} (called : call = .call (.archiveEvent eventId))
      (stored : registry.events.get eventId = some event) (inactive : event.isActive = false) :
    RecordTurn registry eventId call none

section Turns

variable {registry next : Registry} {eventId target : EventId} {call : CatalogCall}

theorem RecordTurn.of_events (same : next.events = registry.events) :
    RecordTurn registry eventId call (next.events.get eventId) := by
  rw [same]
  exact .kept

variable {record : Event}

/-- One stored event is written. -/
theorem RecordTurn.of_set {event : Event} (events : next.events = registry.events.set target record)
    (stored : registry.events.get target = some event)
    (writes : RecordWrite target call event record) :
    RecordTurn registry eventId call (next.events.get eventId) := by
  rw [events, Store.get_set]
  split
  · rename_i same
    subst same
    exact .written stored writes
  · exact .kept

/-- Where the record of an event after a call comes from. -/
theorem RecordTurn.cases_stored (turn : RecordTurn registry eventId call (some record)) :
    registry.events.get eventId = some record ∨
      (∃ args : EventRegistrationArgs, call = .call (.registerEvent args) ∧
        args.eventId = eventId ∧ record = args.event registry.platform.platformFee ∧
        registry.events.get eventId = none ∧
        (registry.platform.platformFee ≤ 10000 → record.Valid)) ∨
      ∃ event, registry.events.get eventId = some event ∧
        RecordWrite eventId call event record := by
  generalize after : some record = next at turn
  cases turn with
  | kept => exact .inl rfl
  | registered called named free valid =>
    cases after
    exact .inr (.inl ⟨_, called, named, rfl, free, valid⟩)
  | written stored writes =>
    cases after
    exact .inr (.inr ⟨_, stored, writes⟩)
  | archived => cases after

/-- An event that is suspended more than once is as after the first time. -/
theorem RecordTurn.of_suspensions (organizer : Address) :
    RecordTurn registry eventId (.call (.blacklistOrganizer organizer))
      (((registry.addToBlacklist organizer).suspendOrganizerEvents organizer).events.get
        eventId) := by
  have either := Registry.suspendOrganizerEvents_induction (fun reached =>
    reached.events.get eventId = registry.events.get eventId ∨
      ∃ event, registry.events.get eventId = some event ∧
        reached.events.get eventId = some { event with isActive := false })
    (fun reached other record found before => ?_)
    (show (registry.addToBlacklist organizer).events.get eventId = _ ∨ _ from .inl rfl) organizer
  rcases either with kept | ⟨event, stored, suspended⟩
  · rw [kept]
    exact .kept
  · rw [suspended]
    exact .written stored (.suspended rfl)
  · rw [Registry.events_storeEvent, Store.get_set]
    split
    · rename_i same
      subst same
      rcases before with kept | ⟨event, stored, suspended⟩
      · exact .inr ⟨record, kept ▸ found, rfl⟩
      · rw [suspended] at found
        cases found
        exact .inr ⟨event, stored, rfl⟩
    · exact before

end Turns

/-! ### The calls of the registry -/

theorem Outcome.record {registry next : Registry} {call : RegistryCall}
    (outcome : Outcome registry call next) (eventId : EventId) :
    RecordTurn registry eventId (.call call) (next.events.get eventId) := by
  cases outcome with
  | idle | other => exact .kept
  | registered free bounded limited capped _ =>
    rw [Registry.events_storeEvent, Store.get_set]
    split
    · rename_i same
      subst same
      refine .registered rfl rfl free fun feeSmall => ?_
      exact ⟨feeSmall, by rintro _ ⟨⟩, le_of_getD_le capped, bounded, limited⟩
    · exact .kept
  | activated stored uncancelled => exact .of_set rfl stored (.status rfl uncancelled)
  | cancelled stored => exact .of_set rfl stored (.cancelled rfl)
  | @archived target event _ _ stored inactive =>
    show RecordTurn registry eventId _ ((registry.removeEvent target).events.get eventId)
    rw [events_removeEvent stored, Store.get_remove]
    split
    · rename_i same
      subst same
      exact .archived rfl stored inactive
    · exact .kept
  | described _ stored => exact .of_set rfl stored .described
  | capped stored small => exact .of_set rfl stored (.capped (le_of_getD_le small))
  | charged stored small => exact .of_set rfl stored (.charged (le_of_getD_le small))
  | tierAdded stored limited => exact .of_set rfl stored (.tierAdded rfl limited)
  | tierClosed stocked => exact .of_set rfl stocked.eventEq (.tierClosed rfl stocked.tierEq)
  | sold stocked _ onSale =>
    exact .of_set (events_sold _ _ _ _ _ registry _) stocked.eventEq
      (.sold rfl onSale stocked.tierEq)
  | returned stocked _ _ => exact .of_set rfl stocked.eventEq (.returned rfl stocked.tierEq)
  | minted stocked _ onSale _ _ =>
    exact .of_set rfl stocked.eventEq (.minted rfl onSale stocked.tierEq)
  | blacklisted => exact .of_suspensions _

theorem registryCall_record (registry : Registry) (invocation : Invocation) (eventId : EventId)
    (call : RegistryCall) :
    Ensures ((CatalogCall.call call).entry invocation) registry fun _ next =>
      RecordTurn registry eventId (.call call) (next.events.get eventId) := by
  have outcome : Ensures (call.entry invocation) registry fun _ next =>
    Outcome registry call next := registryCall_outcome
  have turn := outcome.mono fun _ _ outcome => outcome.record eventId
  cases call with
  | other storage =>
    simp only [CatalogCall.entry, ensures_modify]
    exact .kept
  | _ => exact turn

/-- Every call leaves the record of an event alone or writes it in one of these ways. -/
theorem catalogStep_record (registry : Registry) (invocation : Invocation) (call : CatalogCall)
    (eventId : EventId) :
    RecordTurn registry eventId call
      ((catalogStep registry (invocation, call)).events.get eventId) := by
  have turn : Ensures (call.entry invocation) registry fun _ next =>
      RecordTurn registry eventId call (next.events.get eventId) := by
    cases call with
    | call call => exact registryCall_record registry invocation eventId call
    | storeEvent target record =>
      simp only [CatalogCall.entry, storeEvent, requireOrganizer, getEvent, ensures_rules]
      intro event stored organizer _ _ _
      exact .of_set rfl stored (.replaced rfl organizer.symm)
    | removeFromBlacklist organizer =>
      simp only [CatalogCall.entry, removeFromBlacklist, requireAdmin, ensures_rules]
      intro _ _ _ _ _
      exact .of_events rfl
  exact commit_of_ensures .kept turn

/-! ### The calls of the payment contract -/

/-- The entry points that are reserved for the payment contract. -/
def RegistryCall.IsInventory : RegistryCall → Prop
  | .incrementInventory _ _ _ _ _ => True
  | .decrementInventory _ _ => True
  | _ => False

/-- The payment contract writes a record only as the inventory does. -/
def InventoryTurn (registry : Registry) (eventId : EventId) (record : Option Event) : Prop :=
  ∃ call : RegistryCall, call.IsInventory ∧ RecordTurn registry eventId (.call call) record

section Calls

variable {host : Host} {registry next : Registry} (eventId : EventId)

theorem InventoryTurn.refl : InventoryTurn registry eventId (registry.events.get eventId) :=
  ⟨.decrementInventory eventId "", trivial, .kept⟩

variable {caller : Address} {target : EventId} {tierId : TierId} {user : Address}

theorem InventoryTurn.of_incremented {token : Address} {quantity : Nat}
    (incremented : RegistryApi.incrementInventory registry caller target tierId user quantity
      token = some next) : InventoryTurn registry eventId (next.events.get eventId) := by
  have turn : Ensures (incrementInventory caller target tierId user quantity token) registry
      fun _ next => RecordTurn registry eventId
        (.call (.incrementInventory target tierId user quantity token))
        (next.events.get eventId) :=
    registryCall_record registry ⟨caller, 0, caller, fun _ => false⟩ eventId
      (.incrementInventory target tierId user quantity token)
  exact ⟨.incrementInventory target tierId user quantity token, trivial,
    ensures_of_after incremented turn⟩

theorem InventoryTurn.of_decremented
    (decremented : RegistryApi.decrementInventory registry caller target tierId user = some next) :
    InventoryTurn registry eventId (next.events.get eventId) := by
  have turn : Ensures (decrementInventory caller target tierId) registry fun _ next =>
      RecordTurn registry eventId (.call (.decrementInventory target tierId))
        (next.events.get eventId) :=
    registryCall_record registry ⟨caller, 0, caller, fun _ => false⟩ eventId
      (.decrementInventory target tierId)
  exact ⟨.decrementInventory target tierId, trivial, ensures_of_after decremented turn⟩

variable {world : World Registry} {env : Env host}

theorem processPayment_record {purchase : Purchase} :
    Ensures (processPayment env purchase) world fun _ next =>
      InventoryTurn world.registry eventId (next.registry.events.get eventId) := by
  refine processPayment_ensures.mono ?_
  rintro _ _ ⟨sale, _, _, registry, incremented, multiplier, awarded⟩
  obtain ⟨profiles, same⟩ := updateLoyaltyScore_eq
  have turn : InventoryTurn world.registry eventId (registry.events.get eventId) :=
    .of_incremented eventId incremented
  rw [awarded, same]
  exact turn

/-- Every step of the payment contract leaves the record of an event alone or writes it as the
inventory does. -/
theorem callStep_record (wellformed : Wellformed host world) {env : Env host} {call : Call} :
    InventoryTurn world.registry eventId
      ((step world (.call env call)).registry.events.get eventId) := by
  have quiet (other : ¬(Action.call env call : Action host Registry).CallsInventory) :
      (step world (.call env call)).registry = world.registry := by
    obtain ⟨change, effect, does⟩ := step_takes wellformed.escrowState (.call env call)
    exact does.registry (effect.quiet other)
  have calling {Value : Type} {program : TicketPayment.Entry Registry Value}
      (turn : Ensures program world fun _ next =>
        InventoryTurn world.registry eventId (next.registry.events.get eventId)) :
      InventoryTurn world.registry eventId ((commit program world).registry.events.get eventId) :=
    commit_of_ensures (.refl eventId) turn
  cases call with
  | processPayment purchase => exact calling (processPayment_record eventId)
  | closeAuction paymentId event tierId =>
    refine calling (closeAuction_ensures.mono ?_)
    rintro _ _ ⟨_, _, _, _, _, incremented, _⟩
    exact .of_incremented eventId incremented
  | refund path paymentId =>
    refine calling (refundVia_ensures.mono ?_)
    rintro _ _ ⟨_, _, _, _, _, decremented, _⟩
    exact .of_decremented eventId decremented
  | claimCancellationRefund paymentId =>
    refine calling (claimCancellationRefund_ensures.mono ?_)
    rintro _ _ ⟨_, _, _, _, decremented⟩
    exact .of_decremented eventId decremented
  | _ =>
    rw [quiet id]
    exact .refl eventId

end Calls

end Agora.EventRegistry

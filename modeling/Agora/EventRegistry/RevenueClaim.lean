/-
This file asks whether the organizer of an event that is over can claim its revenue.

The payment contract pays a claim only for an event that is off sale and has the status that
stands for completed. The organizer can take the event off sale in the registry, but no entry
point sets that status, except the one that replaces the record as a whole. So a claim
succeeds, after whatever calls of the organizer, exactly when the status is there already, the
sales target is met and the money can be sent.
-/

import Agora.EventRegistry.DisputeVotes
import Agora.EventRegistry.Records

namespace Agora.EventRegistry

open Soroban TicketPayment

variable {host : Host}

/-! ### The calls of the organizer -/

/-- A call that only the organizer signs. The entry points of the inventory are reserved for the
payment contract, and the one that replaces the record as a whole is left out. -/
def OrganizerCall (organizer : Address) (action : Invocation × CatalogCall) : Prop :=
  (∀ address, action.1.signed address = true → address = organizer) ∧
    match action.2 with
    | .call regular => ¬regular.IsInventory
    | .storeEvent _ _ => False
    | .removeFromBlacklist _ => True

/-- The state after some calls to the registry. -/
def afterCalls (world : World Registry) (calls : List (Invocation × CatalogCall)) :
    World Registry :=
  world.withRegistry (runActions catalogStep world.registry calls)

/-- The same to a claim. -/
structure SameClaim (event record : Event) : Prop where
  status : record.status = event.status
  paymentAddress : record.paymentAddress = event.paymentAddress
  minSalesTarget : record.minSalesTarget = event.minSalesTarget
  goalMet : record.goalMet = event.goalMet

/-- A completed event that is stored is the one from before, to a claim. -/
def KeepsStatus (event : Event) (registry : Registry) (eventId : EventId) : Prop :=
  ∀ record ∈ registry.events.get eventId, record.status = .inactive → SameClaim event record

section Calls

variable {registry : Registry} {eventId : EventId} {organizer : Address} {event : Event}

theorem RecordWrite.sameClaim {call : CatalogCall} {record : Event} {invocation : Invocation}
    (writes : RecordWrite eventId call event record)
    (allowed : OrganizerCall organizer (invocation, call)) (completed : record.status = .inactive) :
    SameClaim event record := by
  cases writes with
  | sold called | returned called =>
    subst called
    exact absurd trivial allowed.2
  | replaced called =>
    subst called
    exact absurd allowed.2 id
  | cancelled => cases completed
  | _ => exact ⟨rfl, rfl, rfl, rfl⟩

/-- No call of the organizer completes an event. -/
theorem catalogStep_keepsStatus {action : Invocation × CatalogCall}
    (allowed : OrganizerCall organizer action) (before : KeepsStatus event registry eventId) :
    KeepsStatus event (catalogStep registry action) eventId := by
  obtain ⟨invocation, call⟩ := action
  intro record found completed
  have turn := catalogStep_record registry invocation call eventId
  rw [Option.mem_def.mp found] at turn
  rcases turn.cases_stored with same | ⟨_, _, _, rfl, _⟩ | ⟨earlier, stored, writes⟩
  · exact before record same completed
  · cases completed
  · have same := writes.sameClaim allowed completed
    have claim := before earlier stored (same.status ▸ completed)
    exact ⟨same.status.trans claim.status, same.paymentAddress.trans claim.paymentAddress,
      same.minSalesTarget.trans claim.minSalesTarget, same.goalMet.trans claim.goalMet⟩

theorem afterCalls_keepsStatus (calls : List (Invocation × CatalogCall))
    (allowed : ∀ action ∈ calls, OrganizerCall organizer action)
    (stored : registry.events.get eventId = some event) :
    KeepsStatus event (runActions catalogStep registry calls) eventId := by
  refine respects_invariant (fun registry => KeepsStatus event registry eventId)
    (fun _ _ => catalogStep_keepsStatus) registry calls (respects_of_forall allowed registry) ?_
  intro record found _
  cases stored.symm.trans found
  exact ⟨rfl, rfl, rfl, rfl⟩

/-- The organizer takes the event off sale. -/
def takesOffSale (organizer : Address) (eventId : EventId) : Invocation × CatalogCall :=
  (⟨organizer, 0, organizer, fun address => address = organizer⟩,
    .call (.updateEventStatus eventId false))

theorem organizerCall_takesOffSale : OrganizerCall organizer (takesOffSale organizer eventId) :=
  ⟨fun _ signed => of_decide_eq_true signed, id⟩

/-- Whether it was on sale or not, the event is off sale afterwards. -/
theorem updateEventStatus_offSale (signed : Address → Bool)
    (stored : registry.events.get eventId = some event)
    (organizerSigned : signed event.organizerAddress = true)
    (uncancelled : event.status ≠ .cancelled) :
    Succeeds (updateEventStatus signed eventId false) registry fun _ next =>
      next.events.get eventId = some { event with isActive := false } ∧
        next.disputes = registry.disputes := by
  simp only [updateEventStatus, getEvent, requireOrganizer, updateEvent, succeeds_rules]
  refine ⟨event, stored, event, stored, rfl, organizerSigned, uncancelled, ?_⟩
  by_cases active : event.isActive = false
  · refine .inl ⟨active, ?_, trivial⟩
    rw [stored, ← active]
  · exact .inr ⟨active, Store.get_set_self _ _ _, rfl⟩

theorem afterCalls_takesOffSale {world : World Registry}
    (stored : world.registry.events.get eventId = some event)
    (uncancelled : event.status ≠ .cancelled) :
    let next := afterCalls world [takesOffSale event.organizerAddress eventId]
    next.registry.events.get eventId = some { event with isActive := false } ∧
      isEventDisputed next eventId = isEventDisputed world eventId := by
  obtain ⟨value, next, run, off, disputes⟩ := updateEventStatus_offSale
    (takesOffSale event.organizerAddress eventId).1.signed stored (decide_eq_true rfl) uncancelled
  have reached : (afterCalls world [takesOffSale event.organizerAddress eventId]).registry =
      next := by
    show commit (updateEventStatus _ eventId false) world.registry = next
    rw [commit, run]
  refine ⟨reached ▸ off, ?_⟩
  simp only [isEventDisputed, RegistryApi.getDispute, reached, disputes]

end Calls

/-! ### The claims -/

/-- An event that is over and has money for its organizer, who may not be waiting for a dispute
and has not cancelled it. -/
structure HasRevenue (env : Env host) (world : World Registry) (eventId : EventId)
    (event : Event) : Prop where
  stored : world.registry.events.get eventId = some event
  uncancelled : event.status ≠ .cancelled
  undisputed : isEventDisputed world eventId = false
  ended : event.Ended env.timestamp
  revenue : 0 < (world.books.getEventBalance eventId).organizerAmount

/-- The status is there already, the sales target is met, and nothing stands in the way of the
payment. -/
structure Claimable (host : Host) (world : World Registry) (eventId : EventId) (token : Address)
    (event : Event) : Prop where
  completed : event.status = .inactive
  goal : ¬(0 < event.minSalesTarget ∧ event.goalMet = false)
  unpaused : world.settings.isPaused = false
  registry : world.settings.eventRegistry.isSome = true
  can : CanClaim host world eventId token event.paymentAddress
    (claimPayout (world.tokens.balance token host.contract) (world.books.getEventBalance eventId))

section Claims

variable {env : Env host} {world : World Registry} {eventId : EventId} {event : Event}
  {token : Address} (due : HasRevenue env world eventId event)

include due

/-- A claim that succeeds after some calls of the organizer found the status there before. -/
theorem claimable_of_accepted {calls : List (Invocation × CatalogCall)}
    (allowed : ∀ action ∈ calls, OrganizerCall event.organizerAddress action)
    (paid : accepted (claimRevenue env eventId token) (afterCalls world calls) = true) :
    Claimable host world eventId token event := by
  obtain ⟨info, may, can⟩ := claimRevenue_accepted_iff.mp paid
  obtain ⟨record, found, rfl⟩ := Option.map_eq_some_iff.mp may.found
  have claim := afterCalls_keepsStatus calls allowed due.stored record found may.completed.2
  have goal : ¬(0 < event.minSalesTarget ∧ event.goalMet = false) := by
    rw [← claim.minSalesTarget, ← claim.goalMet]
    exact may.goal
  refine ⟨claim.status ▸ may.completed.2, goal, may.unpaused, may.registry, can.wallet,
    can.withdrawn, ?_⟩
  rw [← claim.paymentAddress]
  exact can.sends

/-- The organizer takes the event off sale and claims. -/
theorem accepted_of_claimable (signed : env.signed event.organizerAddress = true)
    (claimable : Claimable host world eventId token event) :
    accepted (claimRevenue env eventId token)
      (afterCalls world [takesOffSale event.organizerAddress eventId]) = true := by
  obtain ⟨off, undisputed⟩ := afterCalls_takesOffSale due.stored due.uncancelled
  have can := claimable.can
  refine claimRevenue_accepted_iff.mpr
    ⟨({ event with isActive := false } : Event).info, ?_, can.wallet, can.withdrawn, can.sends⟩
  exact ⟨claimable.unpaused, claimable.registry, congrArg (Option.map Event.info) off, signed,
    ⟨rfl, claimable.completed⟩, claimable.goal, undisputed.trans due.undisputed,
    fun nothing => due.revenue.ne' nothing.1⟩

end Claims

/-- Calls of the organizer lead to a claim that succeeds exactly when the event is claimable
before them. -/
theorem revenue_claimable_iff (actions : List (JointAction host)) (env : Env host)
    (eventId : EventId) (token : Address) (event : Event)
    (due : HasRevenue env (runActions jointStep (.fresh .vacant) actions) eventId event)
    (signed : env.signed event.organizerAddress = true) :
    let world := runActions jointStep (.fresh .vacant) actions
    (∃ calls, (∀ action ∈ calls, OrganizerCall event.organizerAddress action) ∧
        accepted (claimRevenue env eventId token) (afterCalls world calls) = true) ↔
      Claimable host world eventId token event := by
  constructor
  · rintro ⟨calls, allowed, paid⟩
    exact claimable_of_accepted due allowed paid
  · intro claimable
    refine ⟨[takesOffSale event.organizerAddress eventId], ?_,
      accepted_of_claimable due signed claimable⟩
    intro action member
    rw [List.mem_singleton.mp member]
    exact organizerCall_takesOffSale

/-! ### A concert that is over -/

def shortConcert : EventRegistrationArgs := { smallConcert with endTime := 10 }

/-- Alice buys a ticket for the concert. -/
def shortConcertSold : List (JointAction stage) := onSale shortConcert ++ [aliceBuys]

/-- The organizer stores the concert as completed, with the ticket sold. -/
def shortConcertCompleted : List (JointAction stage) :=
  shortConcertSold ++ [.registry (signedAt 11) (.storeEvent "concert"
    { (shortConcert.event 500).sold "general" generalTier 1 with status := .inactive })
    organizerAddress]

theorem completed_concert_claimable :
    ∃ calls, (∀ action ∈ calls, OrganizerCall organizerAddress action) ∧
      accepted (claimRevenue (allSign 12) "concert" usdcAddress)
        (afterCalls (runActions jointStep (.fresh .vacant) shortConcertCompleted) calls) =
          true := by
  refine (revenue_claimable_iff shortConcertCompleted (allSign 12) "concert" usdcAddress
    { (shortConcert.event 500).sold "general" generalTier 1 with status := .inactive }
    ⟨rfl, by decide, by decide, by decide, by decide +kernel⟩ rfl).mpr ?_
  refine ⟨rfl, by decide, by decide, by decide, ?_⟩
  exact ⟨by decide +kernel, by decide +kernel, by decide +kernel⟩

/-- The concert is over, the money of the ticket is there, and the organizer has no calls after
which it can be claimed. -/
theorem sold_concert_unclaimable :
    HasRevenue (allSign 12) (runActions jointStep (.fresh .vacant) shortConcertSold) "concert"
        ((shortConcert.event 500).sold "general" generalTier 1) ∧
      ∀ token calls, (∀ action ∈ calls, OrganizerCall organizerAddress action) →
        accepted (claimRevenue (allSign 12) "concert" token)
          (afterCalls (runActions jointStep (.fresh .vacant) shortConcertSold) calls) = false := by
  have due : HasRevenue (allSign 12) (runActions jointStep (.fresh .vacant) shortConcertSold)
      "concert" ((shortConcert.event 500).sold "general" generalTier 1) :=
    ⟨rfl, by decide, by decide, by decide, by decide +kernel⟩
  refine ⟨due, fun token calls allowed => ?_⟩
  refine Bool.eq_false_iff.mpr fun paid => ?_
  have completed := (claimable_of_accepted due allowed paid).completed
  cases completed

end Agora.EventRegistry

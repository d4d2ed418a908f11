/-
This file asks whether an organizer on the blacklist has an event on sale.

The blacklisting takes the events of the organizer off sale once, as far as their list
names them, and the registration of new events asks for the blacklist. The calls with
which an organizer puts an event on sale again do not.
-/

import Agora.EventRegistry.OrganizerEvents

namespace Agora.EventRegistry

open Soroban TicketPayment

/-! ### Suspension -/

variable {registry : Registry} {eventId : EventId} {event : Event}

/-- What is stored after a suspension was stored before it, and is on sale only if it was and is
another event. -/
theorem suspendEvent_stored {suspended : EventId}
    (stored : (registry.suspendEvent suspended).events.get eventId = some event) :
    ∃ before, registry.events.get eventId = some before ∧
      event.organizerAddress = before.organizerAddress ∧
      (event.isActive = true → before.isActive = true ∧ eventId ≠ suspended) := by
  unfold Registry.suspendEvent at stored
  split at stored
  · rename_i absent
    refine ⟨event, stored, rfl, fun active => ⟨active, ?_⟩⟩
    rintro rfl
    cases absent.symm.trans stored
  · rename_i before found
    split at stored
    · rw [Registry.events_storeEvent, Store.get_set] at stored
      split at stored
      · rename_i same
        cases stored
        exact ⟨before, same ▸ found, rfl, fun absurdity => by cases absurdity⟩
      · rename_i different
        exact ⟨event, stored, rfl, fun active => ⟨active, different⟩⟩
    · rename_i inactive
      refine ⟨event, stored, rfl, fun active => ⟨active, ?_⟩⟩
      rintro rfl
      cases found.symm.trans stored
      exact inactive active

/-- After a sweep only events that are not in the list are on sale. -/
theorem foldl_suspendEvent_stored {ids : List EventId}
    (stored : (ids.foldl Registry.suspendEvent registry).events.get eventId = some event) :
    ∃ before, registry.events.get eventId = some before ∧
      event.organizerAddress = before.organizerAddress ∧
      (event.isActive = true → before.isActive = true ∧ eventId ∉ ids) := by
  induction ids generalizing registry with
  | nil => exact ⟨event, stored, rfl, fun active => ⟨active, List.not_mem_nil⟩⟩
  | cons first rest inductionHypothesis =>
    obtain ⟨middle, found, organizer, active⟩ := inductionHypothesis stored
    obtain ⟨before, original, sameOrganizer, wasActive⟩ := suspendEvent_stored found
    refine ⟨before, original, organizer.trans sameOrganizer, fun now => ?_⟩
    obtain ⟨middleActive, unlisted⟩ := active now
    obtain ⟨beforeActive, different⟩ := wasActive middleActive
    exact ⟨beforeActive, List.not_mem_cons_of_ne_of_not_mem different unlisted⟩

theorem platform_suspendOrganizerEvents (registry : Registry) (organizer : Address) :
    (registry.suspendOrganizerEvents organizer).platform = registry.platform := by
  refine Registry.suspendOrganizerEvents_induction (·.platform = registry.platform) ?_ rfl organizer
  intro reached eventId event _ same
  exact same

/-! ### Events of blacklisted organizers -/

/-- No event of a blacklisted organizer is on sale. -/
def Catalog.Suspended (catalog : Catalog) : Prop :=
  ∀ eventId event, catalog.events.get eventId = some event →
    catalog.blacklisted event.organizerAddress = true → event.isActive = false

/-- The condition on a call: nobody puts an event of a blacklisted organizer on sale, and when an
organizer is blacklisted, their list names the events they have on sale. -/
structure KeepsSuspended (registry : Registry) (call : CatalogCall) : Prop where
  reopened : ∀ eventId event, call = .call (.updateEventStatus eventId true) →
    registry.events.get eventId = some event →
    registry.platform.blacklisted event.organizerAddress = false
  replaced : ∀ eventId event, call = .storeEvent eventId event → event.isActive = true →
    registry.platform.blacklisted event.organizerAddress = false
  named : ∀ organizer, call = .call (.blacklistOrganizer organizer) →
    ∀ eventId event, registry.events.get eventId = some event →
      event.organizerAddress = organizer → event.isActive = true →
      eventId ∈ registry.organizerEvents.all organizer

section Turns

variable {next : Registry} {call : CatalogCall} (suspended : registry.catalog.Suspended)
  {record : Event}

include suspended

/-- One event is written. -/
theorem Catalog.Suspended.updateEvent
    (inactive : registry.platform.blacklisted record.organizerAddress = true →
      record.isActive = false) : (registry.updateEvent eventId record).catalog.Suspended :=
  Store.forall_set suspended inactive

/-- A stored event is written anew. -/
theorem Catalog.Suspended.rewrite {event : Event}
    (rewrites : Rewrites registry call eventId event record)
    (keeps : KeepsSuspended registry call) :
    (registry.updateEvent eventId record).catalog.Suspended := by
  refine Catalog.Suspended.updateEvent suspended fun blacklisted => ?_
  rw [rewrites.organizer] at blacklisted
  by_contra active
  rcases rewrites.isActive (Bool.eq_true_of_not_eq_false active) with wasActive | called
  · rw [suspended eventId event rewrites.stored blacklisted] at wasActive
    cases wasActive
  · rw [keeps.reopened eventId event called rewrites.stored] at blacklisted
    cases blacklisted

theorem Catalog.Suspended.removeEvent : (registry.removeEvent eventId).catalog.Suspended := by
  unfold Registry.removeEvent
  split
  · exact suspended
  · intro other event stored blacklisted
    change (registry.events.remove eventId).get other = some event at stored
    rw [Store.get_remove] at stored
    split at stored
    · cases stored
    · exact suspended other event stored blacklisted

variable {organizer : Address}

/-- The organizer is blacklisted, and the events that their list names are taken off sale. -/
theorem Catalog.Suspended.blacklist
    (named : ∀ eventId event, registry.events.get eventId = some event →
      event.organizerAddress = organizer → event.isActive = true →
      eventId ∈ registry.organizerEvents.all organizer) :
    ((registry.addToBlacklist organizer).suspendOrganizerEvents organizer).catalog.Suspended := by
  intro eventId event stored blacklisted
  obtain ⟨before, found, sameOrganizer, active⟩ := foldl_suspendEvent_stored stored
  by_contra onSale
  obtain ⟨wasActive, unlisted⟩ := active (Bool.eq_true_of_not_eq_false onSale)
  have platform := platform_suspendOrganizerEvents (registry.addToBlacklist organizer) organizer
  change ((registry.addToBlacklist organizer).suspendOrganizerEvents
    organizer).platform.blacklisted event.organizerAddress = true at blacklisted
  rw [platform, sameOrganizer] at blacklisted
  by_cases mine : before.organizerAddress = organizer
  · exact unlisted (named eventId before found mine wasActive)
  · have earlier : registry.platform.blacklisted before.organizerAddress = true := by
      simpa [Registry.addToBlacklist, mine] using blacklisted
    rw [suspended eventId before found earlier] at wasActive
    cases wasActive

theorem Catalog.Suspended.reprieve :
    (registry.removeFromBlacklist organizer).catalog.Suspended := by
  intro eventId event stored blacklisted
  refine suspended eventId event stored ?_
  change (if event.organizerAddress = organizer then false
    else registry.platform.blacklisted event.organizerAddress) = true at blacklisted
  split at blacklisted
  · cases blacklisted
  · exact blacklisted

theorem CatalogTurn.keeps_suspended (turn : CatalogTurn registry call next)
    (keeps : KeepsSuspended registry call) : next.catalog.Suspended := by
  cases turn with
  | kept same => exact same ▸ suspended
  | registered called welcome free same =>
    rw [same]
    refine Catalog.Suspended.updateEvent suspended fun blacklisted => ?_
    cases welcome.symm.trans blacklisted
  | rewritten same rewrites =>
    rw [same]
    exact Catalog.Suspended.rewrite suspended rewrites keeps
  | @sold eventId tierId user _ quantity event tier called stocked same =>
    obtain ⟨counts, counted⟩ := countTickets_eq
    rw [same, counted]
    exact Catalog.Suspended.updateEvent suspended fun blacklisted =>
      suspended eventId event stocked.eventEq blacklisted
  | @minted _ eventId _ _ _ event _ called stocked same =>
    rw [same]
    exact Catalog.Suspended.updateEvent suspended fun blacklisted =>
      suspended eventId event stocked.eventEq blacklisted
  | @stored eventId event record called stored organizer same =>
    rw [same]
    refine Catalog.Suspended.updateEvent suspended fun blacklisted => ?_
    by_contra active
    rw [keeps.replaced eventId record called (Bool.eq_true_of_not_eq_false active)] at blacklisted
    cases blacklisted
  | archived called stored inactive same =>
    rw [same]
    exact Catalog.Suspended.removeEvent suspended
  | @blacklisted organizer called same =>
    rw [same]
    exact Catalog.Suspended.blacklist suspended (keeps.named organizer called)
  | @reprieved organizer called same =>
    rw [same]
    exact Catalog.Suspended.reprieve suspended

end Turns

/-- In every run of such calls no stored event of a blacklisted organizer is on sale. -/
theorem blacklisted_organizer_suspended (actions : List (Invocation × CatalogCall))
    (keeps : Respects catalogStep (fun registry action => KeepsSuspended registry action.2) .vacant
      actions) (organizer : Address)
    (blacklisted : (runActions catalogStep .vacant actions).platform.blacklisted organizer = true)
    (eventId : EventId) (event : Event)
    (stored : (runActions catalogStep .vacant actions).events.get eventId = some event)
    (owned : event.organizerAddress = organizer) : event.isActive = false := by
  have suspended : (runActions catalogStep .vacant actions).catalog.Suspended := by
    refine respects_invariant (fun registry : Registry => registry.catalog.Suspended) ?_ .vacant
      actions keeps ?_
    · intro registry action keeps suspended
      exact CatalogTurn.keeps_suspended suspended (catalogStep_turn registry action) keeps
    · intro eventId event absurdity
      cases absurdity
  exact suspended eventId event stored (owned ▸ blacklisted)

def blacklisting : Invocation × CatalogCall :=
  (everybodySigns, .call (.blacklistOrganizer organizerAddress))

/-- The organizer of two events is blacklisted. -/
theorem blacklisted_concert_suspended :
    let registry := runActions catalogStep .vacant (twoRegistered ++ [blacklisting])
    registry.platform.blacklisted organizerAddress = true ∧
      ∃ event, registry.events.get "concert" = some event ∧ event.isActive = false := by
  have other {registry : Registry} {call : RegistryCall}
      (status : ∀ eventId, call ≠ .updateEventStatus eventId true)
      (another : ∀ organizer, call ≠ .blacklistOrganizer organizer) :
      KeepsSuspended registry (.call call) :=
    ⟨fun eventId _ called => absurd (CatalogCall.call.inj called) (status eventId),
      fun _ _ called => (by cases called),
      fun organizer called => absurd (CatalogCall.call.inj called) (another organizer)⟩
  have keeps : Respects catalogStep (fun registry action => KeepsSuspended registry action.2)
      .vacant (twoRegistered ++ [blacklisting]) := by
    refine ⟨other (by simp) (by simp), other (by simp) (by simp), other (by simp) (by simp),
      ⟨fun _ _ called => (by cases called), fun _ _ called => (by cases called), ?_⟩, trivial⟩
    intro organizer called eventId event stored owned _
    cases called
    have exact := run_indexExact twoRegistered
      ⟨fun _ _ called => (by cases called), fun _ _ called => (by cases called),
        fun _ _ called => (by cases called), trivial⟩
    exact (exact.listed organizerAddress eventId).mpr (owned ▸ owner_of_stored stored)
  have listed : (runActions catalogStep .vacant
    (twoRegistered ++ [blacklisting])).platform.blacklisted organizerAddress = true := by decide
  refine ⟨listed, { smallConcert.event 500 with isActive := false }, rfl, ?_⟩
  exact blacklisted_organizer_suspended _ keeps organizerAddress listed "concert" _ rfl rfl

/-- The blacklisted organizer puts the concert on sale again. And of fifty-one concerts the one
that fell out of the list when another was archived is never taken off sale. -/
theorem blacklisted_organizer_on_sale :
    let last := String.ofList (List.replicate 51 'c')
    let reopened := runActions catalogStep .vacant (twoRegistered ++
      [blacklisting, (everybodySigns, .call (.updateEventStatus "concert" true))])
    let missed := runActions catalogStep .vacant
      (opening :: manyConcerts 51 ++ archiving "c" ++ [blacklisting])
    (reopened.platform.blacklisted organizerAddress = true ∧
        (reopened.events.get "concert").map (·.organizerAddress) = some organizerAddress ∧
        (reopened.events.get "concert").map (·.isActive) = some true) ∧
      missed.platform.blacklisted organizerAddress = true ∧
      (missed.events.get last).map (·.organizerAddress) = some organizerAddress ∧
      (missed.events.get last).map (·.isActive) = some true := by
  decide +kernel

end Agora.EventRegistry

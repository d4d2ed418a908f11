/-
This file is about the statistics of the registry: how many public events are on sale, how
many were ever registered, and how many tickets were sold. Private events are meant to stay
out of all three.

The number of active events is corrected at every write by comparing the flags of the event
before and after. One arm of the comparison forgets to ask whether the event was counted at
all: a private event on sale that becomes public and goes off sale in one write takes away
from the count what it never added. The number of tickets does not ask for privacy either.
-/

import Agora.EventRegistry.Catalog

namespace Agora.EventRegistry

open Soroban TicketPayment

/-! ### Public events on sale -/

def Event.isPubliclyActive (event : Event) : Bool :=
  event.isActive && !event.isPrivate

/-- A private event on sale becomes public and goes off sale. -/
structure Unveils (existing : Option Event) (updated : Event) : Prop where
  before : ∃ previous ∈ existing, previous.isPrivate = true ∧ previous.isActive = true
  isPrivate : updated.isPrivate = false
  isActive : updated.isActive = false

/-- Any other write corrects the count by what the event counts now and counted before. -/
theorem syncActiveEventCount_eq (existing : Option Event) (updated : Event) (count : Nat)
    (veiled : ¬Unveils existing updated)
    (counted : (existing.any Event.isPubliclyActive).toNat ≤ count) :
    syncActiveEventCount existing updated count + (existing.any Event.isPubliclyActive).toNat =
      count + updated.isPubliclyActive.toNat := by
  cases existing with
  | none =>
    unfold syncActiveEventCount Event.isPubliclyActive
    cases updated.isPrivate <;> cases updated.isActive <;> rfl
  | some previous =>
    have closed (wasPrivate : previous.isPrivate = true) (wasActive : previous.isActive = true)
        (isPublic : updated.isPrivate = false) : updated.isActive = true := by
      by_contra inactive
      exact veiled ⟨⟨previous, rfl, wasPrivate, wasActive⟩, isPublic,
        Bool.eq_false_of_not_eq_true inactive⟩
    cases wasPrivate : previous.isPrivate <;> cases wasActive : previous.isActive <;>
      cases isPrivate : updated.isPrivate <;> cases isActive : updated.isActive <;>
      simp_all [Event.isPubliclyActive, syncActiveEventCount]

/-- The stored count is the number of public events on sale. -/
def Catalog.ActiveCountExact (catalog : Catalog) : Prop :=
  catalog.globalActiveEventCount = catalog.events.tally Event.isPubliclyActive

theorem activeCountExact_vacant : Registry.vacant.catalog.ActiveCountExact :=
  (Store.tally_empty _).symm

section Exact

variable {registry : Registry} (exact : registry.catalog.ActiveCountExact) {eventId : EventId}

include exact

variable {record : Event}

theorem Catalog.ActiveCountExact.updateEvent
    (veiled : ¬Unveils (registry.events.get eventId) record) :
    (registry.updateEvent eventId record).catalog.ActiveCountExact := by
  have exact : registry.globalActiveEventCount = registry.events.tally Event.isPubliclyActive :=
    exact
  have removed := registry.events.tally_remove Event.isPubliclyActive eventId
  have written := registry.events.tally_set Event.isPubliclyActive eventId record
  have synced := syncActiveEventCount_eq (registry.events.get eventId) record
    registry.globalActiveEventCount veiled (by omega)
  show syncActiveEventCount (registry.events.get eventId) record registry.globalActiveEventCount =
    (registry.events.set eventId record).tally Event.isPubliclyActive
  omega

variable {event : Event}

/-- An event that is as public as before is not unveiled. -/
theorem Catalog.ActiveCountExact.rewrite (stored : registry.events.get eventId = some event)
    (isPrivate : record.isPrivate = event.isPrivate) :
    (registry.updateEvent eventId record).catalog.ActiveCountExact := by
  refine exact.updateEvent ?_
  rintro ⟨⟨previous, found, wasPrivate, _⟩, isPublic, _⟩
  cases found.symm.trans stored
  rw [isPrivate, wasPrivate] at isPublic
  cases isPublic

theorem Catalog.ActiveCountExact.removeEvent (stored : registry.events.get eventId = some event)
    (inactive : event.isActive = false) :
    (registry.removeEvent eventId).catalog.ActiveCountExact := by
  have removed := registry.events.tally_remove Event.isPubliclyActive eventId
  have uncounted : event.isPubliclyActive = false := by
    rw [Event.isPubliclyActive, inactive, Bool.false_and]
  rw [stored, Option.any_some, uncounted] at removed
  unfold Catalog.ActiveCountExact Registry.removeEvent
  simp only [stored, inactive, Bool.false_and]
  exact exact.trans removed.symm

theorem Catalog.ActiveCountExact.suspendOrganizerEvents {organizer : Address} :
    (registry.suspendOrganizerEvents organizer).catalog.ActiveCountExact := by
  refine Registry.suspendOrganizerEvents_induction (·.catalog.ActiveCountExact) ?_ exact organizer
  intro reached eventId event stored exact
  exact exact.rewrite stored rfl

end Exact

/-! ### Private events -/

/-- What the registry tells the public about itself. -/
def Registry.statistics (registry : Registry) : Nat × Nat × Int :=
  (registry.globalEventCount, registry.globalActiveEventCount, registry.globalTicketsSold)

/-- The event is private where it is stored, before and after a call. -/
def PrivateThroughout (registry next : Registry) (eventId : EventId) : Prop :=
  ∀ event, registry.events.get eventId = some event ∨ next.events.get eventId = some event →
    event.isPrivate = true

variable {first second : Registry}

theorem statistics_of_catalog (same : first.catalog = second.catalog) :
    first.statistics = second.statistics :=
  congrArg (fun catalog : Catalog =>
    (catalog.globalEventCount, catalog.globalActiveEventCount, catalog.globalTicketsSold)) same

theorem events_of_catalog (same : first.catalog = second.catalog) : first.events = second.events :=
  congrArg Catalog.events same

variable {registry : Registry} {eventId : EventId} {record : Event}

section

variable (before : ∀ event, registry.events.get eventId = some event → event.isPrivate = true)

include before

/-- Writing a private event over a private one, or where there was none, leaves the statistics
alone. -/
theorem statistics_updateEvent (isPrivate : record.isPrivate = true) :
    (registry.updateEvent eventId record).statistics = registry.statistics := by
  have unsynced : syncActiveEventCount (registry.events.get eventId) record
      registry.globalActiveEventCount = registry.globalActiveEventCount := by
    unfold syncActiveEventCount
    rw [isPrivate]
    cases found : registry.events.get eventId with
    | none => rfl
    | some previous => simp [before previous found]
  simp only [Registry.statistics, Registry.updateEvent, unsynced]

theorem statistics_storeEvent (isPrivate : record.isPrivate = true) :
    (registry.storeEvent eventId record).statistics = registry.statistics := by
  have updated := statistics_updateEvent before isPrivate
  rw [← updated]
  simp [Registry.statistics, Registry.storeEvent, isPrivate, Registry.updateEvent]

end

/-! ### The runs -/

/-- The calls that sell tickets. -/
def CatalogCall.IsSale : CatalogCall → Prop
  | .call (.incrementInventory _ _ _ _ _) => True
  | .call (.mintCrossChainTicket _ _ _ _ _) => True
  | _ => False

/-- The condition on a call: it does not unveil an event, and it sells no ticket of a private
one. -/
structure KeepsStatistics (registry : Registry) (call : CatalogCall) : Prop where
  veiled : ∀ eventId event, call = .storeEvent eventId event →
    ¬Unveils (registry.events.get eventId) event
  unsold : call.IsSale → ∀ eventId event, call.target = some eventId →
    registry.events.get eventId = some event → event.isPrivate = false

section Turns

variable {next : Registry} {call : CatalogCall}

theorem CatalogTurn.activeCountExact (turn : CatalogTurn registry call next)
    (keeps : KeepsStatistics registry call) (exact : registry.catalog.ActiveCountExact) :
    next.catalog.ActiveCountExact := by
  cases turn with
  | kept same | reprieved called same => exact same ▸ exact
  | registered called welcome free same =>
    rw [same]
    refine exact.updateEvent ?_
    rintro ⟨⟨previous, found, _⟩, _, _⟩
    cases found.symm.trans free
  | rewritten same rewrites =>
    rw [same]
    exact exact.rewrite rewrites.stored rewrites.isPrivate
  | @sold eventId tierId user _ quantity _ tier called stocked same =>
    obtain ⟨counts, counted⟩ := countTickets_eq
    rw [same, counted]
    exact Catalog.ActiveCountExact.rewrite exact stocked.eventEq rfl
  | minted called stocked same =>
    rw [same]
    exact Catalog.ActiveCountExact.rewrite exact stocked.eventEq rfl
  | stored called _ _ same =>
    rw [same]
    exact exact.updateEvent (keeps.veiled _ _ called)
  | archived called stored inactive same =>
    rw [same]
    exact exact.removeEvent stored inactive
  | @blacklisted organizer called same =>
    rw [same]
    have listed : (registry.addToBlacklist organizer).catalog.ActiveCountExact := exact
    exact listed.suspendOrganizerEvents

theorem CatalogTurn.statistics_eq (turn : CatalogTurn registry call next)
    (keeps : KeepsStatistics registry call) {eventId : EventId}
    (target : call.target = some eventId)
    (throughout : PrivateThroughout registry next eventId) :
    next.statistics = registry.statistics := by
  have before := fun event stored => throughout event (.inl stored)
  cases turn with
  | kept same => exact statistics_of_catalog same
  | registered called welcome free same =>
    subst called
    cases target
    refine (statistics_of_catalog same).trans (statistics_storeEvent before ?_)
    refine throughout _ (.inr ?_)
    rw [events_of_catalog same, Registry.events_storeEvent, Store.get_set_self]
  | rewritten same rewrites =>
    cases target.symm.trans rewrites.target
    refine (statistics_of_catalog same).trans (statistics_updateEvent before ?_)
    rw [rewrites.isPrivate, before _ rewrites.stored]
  | sold called stocked same =>
    subst called
    cases target
    have isPublic := keeps.unsold trivial _ _ rfl stocked.eventEq
    rw [before _ stocked.eventEq] at isPublic
    cases isPublic
  | minted called stocked same =>
    subst called
    cases target
    have isPublic := keeps.unsold trivial _ _ rfl stocked.eventEq
    rw [before _ stocked.eventEq] at isPublic
    cases isPublic
  | stored called _ _ same =>
    subst called
    cases target
    refine (statistics_of_catalog same).trans (statistics_storeEvent before ?_)
    refine throughout _ (.inr ?_)
    rw [events_of_catalog same, Registry.events_storeEvent, Store.get_set_self]
  | archived called stored inactive same =>
    refine (statistics_of_catalog same).trans ?_
    simp only [Registry.statistics, Registry.removeEvent, stored, inactive, Bool.false_and]
    rfl
  | blacklisted called same =>
    subst called
    cases target
  | reprieved called same =>
    subst called
    cases target

end Turns

/-- In every run of such calls the count of active events is the number of public events on sale,
and a call about an event that is private before and after it leaves the statistics alone. -/
theorem statistics_exact (actions : List (Invocation × CatalogCall))
    (keeps : Respects catalogStep (fun registry action => KeepsStatistics registry action.2)
      .vacant actions) :
    let registry := runActions catalogStep .vacant actions
    registry.globalActiveEventCount = {eventId | ∃ event, registry.events.get eventId = some event ∧
        event.isActive = true ∧ event.isPrivate = false}.ncard ∧
      ∀ state action, StepOf catalogStep .vacant actions state action →
        ∀ eventId, action.2.target = some eventId →
          PrivateThroughout state (catalogStep state action) eventId →
          (catalogStep state action).statistics = state.statistics := by
  have exact : (runActions catalogStep .vacant actions).catalog.ActiveCountExact := by
    refine respects_invariant (fun registry : Registry => registry.catalog.ActiveCountExact) ?_
      .vacant actions keeps activeCountExact_vacant
    intro registry action keeps exact
    exact (catalogStep_turn registry action).activeCountExact keeps exact
  refine ⟨exact.trans (congrArg Set.ncard ?_), ?_⟩
  · ext eventId
    simp [Registry.catalog, Event.isPubliclyActive, Option.any_eq_true]
  · intro state action taken eventId target throughout
    exact (catalogStep_turn state action).statistics_eq (keeps.stepOf taken) target throughout

/-- One of the two events is counted, and the registration of the private one changed nothing. -/
theorem private_festival_uncounted :
    1 = {eventId | ∃ event, (runActions catalogStep .vacant twoRegistered).events.get eventId =
        some event ∧ event.isActive = true ∧ event.isPrivate = false}.ncard ∧
      (runActions catalogStep .vacant twoRegistered).statistics =
        (runActions catalogStep .vacant (twoRegistered.take 2)).statistics := by
  have other {registry : Registry} {call : RegistryCall}
      (unsold : ¬(CatalogCall.call call).IsSale) : KeepsStatistics registry (.call call) :=
    ⟨fun _ _ absurdity => (by cases absurdity), fun sale => absurd sale unsold⟩
  obtain ⟨counted, unchanged⟩ := statistics_exact twoRegistered
    ⟨other id, other id, other id, trivial⟩
  refine ⟨counted, ?_⟩
  have registered : StepOf catalogStep .vacant twoRegistered
      (runActions catalogStep .vacant (twoRegistered.take 2))
      (everybodySigns, .call (.registerEvent privateFestival)) :=
    ⟨twoRegistered.take 2, [], rfl, rfl⟩
  refine unchanged _ _ registered "festival" rfl ?_
  rintro event (before | after)
  · cases before
  · cases after
    rfl

/-- The private event is made public and closed in one write, and the count forgets the concert,
which is public and on sale. And a ticket of the private event is counted as sold. -/
theorem unveiled_festival_miscounted :
    let unveiled := runActions catalogStep .vacant (twoRegistered ++
      [(everybodySigns, .storeEvent "festival"
        { privateFestival.event 500 with isPrivate := false, isActive := false })])
    let registered := runActions catalogStep .vacant twoRegistered
    let sale : Invocation × CatalogCall :=
      (everybodySigns, .call (.incrementInventory "festival" "general" aliceAddress 1 usdcAddress))
    (unveiled.globalActiveEventCount = 0 ∧
        (unveiled.events.get "concert").map (fun event => (event.isActive, event.isPrivate)) =
          some (true, false)) ∧
      (registered.events.get "festival").map (·.isPrivate) = some true ∧
      ((catalogStep registered sale).events.get "festival").map (·.isPrivate) = some true ∧
      registered.globalTicketsSold = 0 ∧
      (catalogStep registered sale).globalTicketsSold = 1 := by
  decide

end Agora.EventRegistry

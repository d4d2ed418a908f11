/-
This file asks whether a cancellation is final.

Every entry point that edits a cancelled event keeps it cancelled and off sale. Two ways lead
around them: the organizer replaces the record as a whole, or archives the event and the id is
registered again, by anybody. In every run that takes neither of them the event stays
cancelled, and no ticket of it is sold or minted.
-/

import Agora.EventRegistry.Records

namespace Agora.EventRegistry

open Soroban TicketPayment

/-- Cancelled, and off sale. -/
def Event.IsCancelled (event : Event) : Prop :=
  event.status = .cancelled ∧ event.isActive = false

instance (event : Event) : Decidable event.IsCancelled :=
  inferInstanceAs (Decidable (_ ∧ _))

/-- The event is cancelled, if it is still stored. -/
def Registry.Cancelled (registry : Registry) (eventId : EventId) : Prop :=
  ∀ event ∈ registry.events.get eventId, event.IsCancelled

/-- The condition on a call: it does not register the id while it is free, and does not replace
the record by one that is not cancelled. -/
def KeepsCancelled (eventId : EventId) (registry : Registry) :
    Invocation × CatalogCall → Prop
  | (_, .call (.registerEvent args)) =>
    args.eventId = eventId → (registry.events.get eventId).isSome = true
  | (_, .storeEvent target record) => target = eventId → record.IsCancelled
  | _ => True

section Steps

variable {registry : Registry} {eventId : EventId} {call : CatalogCall}

/-- No other write brings a cancelled event back. -/
theorem RecordWrite.isCancelled {event record : Event}
    (writes : RecordWrite eventId call event record) (before : event.IsCancelled)
    (replaced : call = .storeEvent eventId record → record.IsCancelled) :
    record.IsCancelled := by
  cases writes with
  | status _ uncancelled => exact absurd before.1 uncancelled
  | sold _ onSale _ | minted _ onSale _ => exact absurd before.1 onSale.2
  | cancelled _ => exact ⟨rfl, rfl⟩
  | suspended _ => exact ⟨before.1, rfl⟩
  | replaced called _ => exact replaced called
  | described | capped | charged | tierAdded | tierClosed | returned => exact before

theorem catalogStep_cancelled {action : Invocation × CatalogCall}
    (keeps : KeepsCancelled eventId registry action) (before : registry.Cancelled eventId) :
    (catalogStep registry action).Cancelled eventId := by
  obtain ⟨invocation, call⟩ := action
  have turn := catalogStep_record registry invocation call eventId
  generalize after : (catalogStep registry (invocation, call)).events.get eventId = next at turn
  intro record found
  rw [after] at found
  cases turn with
  | kept => exact before record found
  | registered called named free _ =>
    subst called
    rw [KeepsCancelled, free] at keeps
    exact absurd (keeps named) Bool.false_ne_true
  | written stored writes =>
    cases found
    refine writes.isCancelled (before _ stored) fun called => ?_
    subst called
    exact keeps rfl
  | archived => cases found

/-- A cancellation that succeeds leaves the event cancelled. -/
theorem cancelEvent_cancelled {invocation : Invocation}
    (done : accepted (cancelEvent invocation.signed eventId) registry = true) :
    (catalogStep registry (invocation, .call (.cancelEvent eventId))).Cancelled eventId := by
  have cancels : Ensures (cancelEvent invocation.signed eventId) registry fun _ next =>
      next.Cancelled eventId := by
    refine cancelEvent_ensures.mono ?_
    rintro _ _ ⟨event, _, rfl⟩ record found
    rw [Registry.events_updateEvent, Store.get_set_self] at found
    cases found
    exact ⟨rfl, rfl⟩
  exact commit_of_accepted done cancels

/-- A cancelled event sells no tickets. -/
theorem Registry.Cancelled.not_sold (cancelled : registry.Cancelled eventId) (caller : Address)
    (tierId : TierId) (user : Address) (quantity : Nat) (token : Address) :
    accepted (incrementInventory caller eventId tierId user quantity token) registry = false := by
  refine refused_of_ensures (incrementInventory_ensures.mono ?_)
  rintro _ _ ⟨event, _, stocked, _, _, _, onSale, _⟩
  exact onSale.2 (cancelled event stocked.eventEq).1

theorem Registry.Cancelled.not_minted (cancelled : registry.Cancelled eventId)
    (originTxHash : Bytes) (tierId : TierId) (signatures : List Bytes) (quantity : Nat) :
    accepted (mintCrossChainTicket originTxHash tierId signatures eventId quantity) registry =
      false := by
  refine refused_of_ensures (mintCrossChainTicket_ensures.mono ?_)
  rintro _ _ ⟨event, _, stored, _, _, _, onSale, _⟩
  exact onSale.2 (cancelled event stored).1

end Steps

/-- A cancellation is final in every run that does not register the id again and does not
replace the record by one that is not cancelled. -/
theorem cancellation_final (earlier later : List (Invocation × CatalogCall)) (eventId : EventId)
    (invocation : Invocation)
    (done : accepted (cancelEvent invocation.signed eventId)
      (runActions catalogStep .vacant earlier) = true)
    (keeps : Respects catalogStep (KeepsCancelled eventId)
      (runActions catalogStep .vacant
        (earlier ++ [(invocation, .call (.cancelEvent eventId))])) later) :
    let registry := runActions catalogStep .vacant
      (earlier ++ [(invocation, .call (.cancelEvent eventId))] ++ later)
    (∀ event ∈ registry.events.get eventId, event.status = .cancelled ∧ event.isActive = false) ∧
      (∀ caller tierId user quantity token,
        accepted (incrementInventory caller eventId tierId user quantity token) registry = false) ∧
      ∀ originTxHash tierId signatures quantity,
        accepted (mintCrossChainTicket originTxHash tierId signatures eventId quantity)
          registry = false := by
  intro registry
  have start : (runActions catalogStep .vacant
      (earlier ++ [(invocation, .call (.cancelEvent eventId))])).Cancelled eventId := by
    rw [runActions_append]
    exact cancelEvent_cancelled done
  have cancelled : registry.Cancelled eventId := by
    have cut : registry = runActions catalogStep (runActions catalogStep .vacant
        (earlier ++ [(invocation, .call (.cancelEvent eventId))])) later :=
      runActions_append
    rw [cut]
    refine respects_invariant (Registry.Cancelled · eventId) ?_ _ later keeps start
    intro state action kept before
    exact catalogStep_cancelled kept before
  exact ⟨cancelled, cancelled.not_sold, cancelled.not_minted⟩

/-- The event is archived after it was cancelled. -/
theorem archived_concert_stays_cancelled :
    accepted (cancelEvent everybodySigns.signed "concert")
        (runActions catalogStep .vacant twoRegistered) = true ∧
      ∀ quantity, accepted (incrementInventory stage.contract "concert" "general" aliceAddress
        quantity usdcAddress) (runActions catalogStep .vacant
          (twoRegistered ++ [(everybodySigns, .call (.cancelEvent "concert"))] ++
            [(everybodySigns, .call (.archiveEvent "concert"))])) = false := by
  have done : accepted (cancelEvent everybodySigns.signed "concert")
      (runActions catalogStep .vacant twoRegistered) = true := by decide
  refine ⟨done, fun quantity => ?_⟩
  exact (cancellation_final twoRegistered [(everybodySigns, .call (.archiveEvent "concert"))]
    "concert" everybodySigns done ⟨trivial, trivial⟩).2.1 _ _ _ quantity _

/-- The organizer replaces the cancelled event by one on sale, or archives it and registers the
id again, and a ticket is sold. -/
theorem cancelled_concert_revived :
    let cancelled := twoRegistered ++ [(everybodySigns, .call (.cancelEvent "concert"))]
    accepted (cancelEvent everybodySigns.signed "concert")
        (runActions catalogStep .vacant twoRegistered) = true ∧
      ∀ later ∈ [[(everybodySigns, CatalogCall.storeEvent "concert" (smallConcert.event 500))],
          [(everybodySigns, .call (.archiveEvent "concert")),
            (everybodySigns, .call (.registerEvent smallConcert))]],
        ((runActions catalogStep .vacant (cancelled ++ later)).events.get "concert").any
            (fun event => event.status = .active ∧ event.isActive = true) = true ∧
          accepted (incrementInventory stage.contract "concert" "general" aliceAddress 1
            usdcAddress) (runActions catalogStep .vacant (cancelled ++ later)) = true := by
  decide

end Agora.EventRegistry

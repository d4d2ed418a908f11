/-
This file asks whether the cancellation of an event locks its money for refunds.

The organizer cancels an event in this contract, which sets a flag that nothing takes
back. The flag keeps out sales. Bids, closings and the payouts of the organizer look at
the registry instead, which is not told of the cancellation, and the settlement of the
platform fees looks at neither. Where the registry or the books keep these out, only
refunds take anything from the event.
-/

import Agora.EventRegistry.System
import Agora.TicketPayment.Reachable

namespace Agora.TicketPayment

open Soroban EventRegistry

variable {Registry : Type} [RegistryApi Registry] {host : Host} {eventId : EventId}

/-! ### Locked events -/

/-- The calls that refund tickets. -/
def Action.IsRefund : Action host Registry → Prop
  | .call _ (.refund _ _)
  | .call _ (.requestRefund _)
  | .call _ (.claimCancellationRefund _)
  | .call _ (.triggerBulkRefund _ _)
  | .call _ (.issuePartialRefund _ _ _)
  | .call _ (.triggerDisputeRefundCascade _) => True
  | _ => False

/-- A sale, a bid or a closing for the event does not succeed. -/
def RefusesSale (eventId : EventId) (world : World Registry) : Action host Registry → Prop
  | .call env (.processPayment purchase) => purchase.eventId = eventId →
      Ensures (processPayment env purchase) world fun _ _ => False
  | .call env (.placeBid bidOn tierId bid) => bidOn = eventId →
      Ensures (placeBid env bidOn tierId bid) world fun _ _ => False
  | .call env (.closeAuction paymentId closed tierId) => closed = eventId →
      Ensures (closeAuction env paymentId closed tierId) world fun _ _ => False
  | _ => True

/-- The step sells nothing of the event, and takes nothing from it unless it is a refund. -/
structure Locked (eventId : EventId) (world : World Registry) (action : Action host Registry) :
    Prop where
  unsold : RefusesSale eventId world action
  organizer : ¬action.IsRefund → (world.books.getEventBalance eventId).organizerAmount ≤
    ((step world action).books.getEventBalance eventId).organizerAmount
  platform : ¬action.IsRefund → (world.books.getEventBalance eventId).platformFee ≤
    ((step world action).books.getEventBalance eventId).platformFee

/-- The condition on a step: for the cancelled event, bids and closings are tried only while the
registry does not have it on sale, a withdrawal only when the registry has it as cancelled too or
nothing is left for the organizer, a claim only when the registry does not have it as completed
or nothing is left at all, and a settlement only when no fee is left. -/
def HonoursCancellation (eventId : EventId) (world : World Registry) :
    Action host Registry → Prop
  | .call _ (.placeBid event _ _) | .call _ (.closeAuction _ event _) => event = eventId →
      ∀ info ∈ RegistryApi.getEvent world.registry eventId,
        info.isActive = false ∨ info.status = .cancelled
  | .call _ (.withdrawOrganizerFunds event _) => event = eventId →
      (∀ info ∈ RegistryApi.getEvent world.registry eventId, info.status = .cancelled) ∨
        (world.books.getEventBalance eventId).organizerAmount ≤ 0
  | .call _ (.claimRevenue event _) => event = eventId →
      (∀ info ∈ RegistryApi.getEvent world.registry eventId,
        info.isActive = true ∨ info.status ≠ .inactive) ∨
      (world.books.getEventBalance eventId).organizerAmount ≤ 0 ∧
        (world.books.getEventBalance eventId).platformFee ≤ 0
  | .call _ (.settlePlatformFees event) => event = eventId →
      (world.books.getEventBalance eventId).platformFee ≤ 0
  | _ => True

/-! ### The steps -/

variable {world : World Registry} {action : Action host Registry}

section

variable (cancelled : isEventCancelledForRefund world eventId = true)
  (honours : HonoursCancellation eventId world action)

include cancelled honours

theorem refusesSale_of_cancelled : RefusesSale eventId world action := by
  unfold RefusesSale
  split
  · rename_i env purchase
    rintro rfl
    refine processPayment_ensures.mono ?_
    rintro _ next ⟨sale, of, _⟩
    rw [of.uncancelled] at cancelled
    cases cancelled
  · rename_i env bidOn tierId bid
    rintro rfl
    refine placeBid_ensures.mono ?_
    rintro _ next ⟨_, _, ⟨event, config, of⟩, _⟩
    exact (honours rfl event of.eventEq).elim (by simp [of.onSale.1]) of.onSale.2
  · rename_i env paymentId closed tierId
    rintro rfl
    refine closeAuction_ensures.mono ?_
    rintro _ next ⟨event, bid, fee, of, ⟨config, ended⟩, _⟩
    exact (honours rfl event of.eventEq).elim (by simp [ended.onSale.1]) ended.onSale.2
  · trivial

/-- A step that honours the cancellation posts nothing negative to the event, unless it is a
refund. -/
theorem Effect.keeps_balance {change : Change} (effect : Effect world action change)
    (unrefunded : ¬action.IsRefund) :
    0 ≤ posted change.lines (.organizer eventId) ∧
      0 ≤ posted change.lines (.platform eventId) := by
  cases effect with
  | nothing | registry | configured | confirm | checkIn | poap | listing => exact ⟨le_rfl, le_rfl⟩
  | refund | cancellationRefund | bulkRefund | partialRefund | cascade =>
    exact absurd trivial unrefunded
  | inflow | feeWithdrawal | resale => simp
  | bid env bidOn tierId bid =>
    cases world.auctions.highestBid.get (bidOn, tierId) <;> simp
  | sale env purchase sale of =>
    have other : purchase.eventId ≠ eventId := by
      rintro rfl
      rw [of.uncancelled] at cancelled
      cases cancelled
    simp [other]
  | transfer env paymentId target salePrice payment fee of =>
    by_cases same : payment.eventId = eventId <;> simp [same]
  | withdrawal env withdrawn token amount nonneg bounded event may =>
    by_cases same : withdrawn = eventId
    · subst same
      have empty : (world.books.getEventBalance withdrawn).organizerAmount ≤ 0 :=
        (honours rfl).resolve_left fun locked => may.uncancelled (locked event may.found)
      have nothing : amount = 0 := by omega
      simp [nothing]
    · simp [same]
  | claim env claimed token event found completed undisputed =>
    by_cases same : claimed = eventId
    · subst same
      have empty := (honours rfl).resolve_left fun ongoing =>
        (ongoing event found).elim (by simp [completed.1]) (· completed.2)
      simpa using empty
    · simp [same]
  | settlement env settled =>
    by_cases same : settled = eventId
    · subst same
      simpa using honours rfl
    · simp [same]
  | closing env paymentId closed tierId event bid fee of config ended =>
    have other : closed ≠ eventId := by
      rintro rfl
      exact (honours rfl event of.eventEq).elim (by simp [ended.onSale.1]) ended.onSale.2
    simp [other]

end

/-! ### The runs -/

/-- A well-formed state in which the event is cancelled. -/
structure Cancelled (host : Host) (eventId : EventId) (world : World Registry) : Prop where
  wellformed : Wellformed host world
  flag : isEventCancelledForRefund world eventId = true

theorem step_cancelled {action : Action host Registry} (state : Cancelled host eventId world) :
    Cancelled host eventId (step world action) := by
  obtain ⟨_, _, does⟩ := step_takes state.wellformed.escrowState action
  exact ⟨step_wellformed world action state.wellformed, does.cancelled eventId state.flag⟩

theorem Cancelled.locked (state : Cancelled host eventId world)
    (honours : HonoursCancellation eventId world action) : Locked eventId world action := by
  obtain ⟨change, effect, does⟩ := step_takes state.wellformed.escrowState action
  have organizer : _ = _ + _ := congrFun does.ledger (.organizer eventId)
  have platform : _ = _ + _ := congrFun does.ledger (.platform eventId)
  simp only [World.ledger] at organizer platform
  refine ⟨refusesSale_of_cancelled state.flag honours, fun unrefunded => ?_, fun unrefunded => ?_⟩
  · have kept := (effect.keeps_balance state.flag honours unrefunded).1
    omega
  · have kept := (effect.keeps_balance state.flag honours unrefunded).2
    omega

theorem cancelEvent_sets_flag {env : Env host} {eventId : EventId} :
    Ensures (cancelEvent env eventId) world fun _ next =>
      isEventCancelledForRefund next eventId = true := by
  simp only [cancelEvent, organizerSets, ensures_rules, ensures_checks, ensures_getEvent]
  intro _ _ event _ _
  simp [isEventCancelledForRefund, World.withSettings]

/-- After an event was cancelled in this contract, every step of a run that honours the
cancellation leaves it locked. -/
theorem cancelled_event_locked (registry : Registry) (earlier : List (Action host Registry))
    (env : Env host) (eventId : EventId) (cancelled : World Registry)
    (succeeded : (cancelEvent env eventId).run (reached registry earlier) = .ok ((), cancelled))
    (later : List (Action host Registry))
    (honours : Respects step (HonoursCancellation eventId) cancelled later) :
    Respects step (Locked eventId) cancelled later := by
  have start : Cancelled host eventId cancelled := by
    refine ⟨?_, cancelEvent_sets_flag () cancelled succeeded⟩
    have taken := step_wellformed (reached registry earlier)
      (.call env (.configure (.cancelEvent eventId))) (reached_wellformed registry earlier)
    have next : step (reached registry earlier) (.call env (.configure (.cancelEvent eventId))) =
        cancelled := by
      show commit (cancelEvent env eventId) _ = _
      rw [commit, succeeded]
    exact next ▸ taken
  exact Respects.of_invariant (Cancelled host eventId)
    (fun _ _ honours state => state.locked honours)
    (fun world action _ => step_cancelled) cancelled later honours start

/-- A ticket is sold and the concert is cancelled in this contract. -/
def soldAndCancelled : List (Action EventRegistry.stage EventRegistry.Registry) :=
  ticketSold ++ [.call (allSign 2) (.configure (.cancelEvent "concert"))]

/-- The concert is cancelled in the registry as well, the organizer tries to withdraw, and the
buyer takes the price back. -/
theorem concert_locked_for_refund :
    let cancelled := reached (registryWith concert) soldAndCancelled
    Respects step (Locked "concert") cancelled
      [.registry (cancelConcert cancelled.registry),
        .call (allSign 3) (.withdrawOrganizerFunds "concert" usdcAddress),
        .call (allSign 4) (.claimCancellationRefund "ticket")] := by
  refine cancelled_event_locked (registryWith concert) ticketSold (allSign 2) "concert" _ rfl _
    ⟨trivial, fun _ => .inl fun info found => ?_, trivial, trivial⟩
  cases found
  rfl

/-- A bid for the cancelled concert is taken, and its organizer withdraws. -/
theorem cancelled_concert_pays :
    let cancelled := reached (registryWith concert) soldAndCancelled
    let bidden := step cancelled
      (.call (allSign 3) (.placeBid "concert" "general" ⟨bobAddress, usdcAddress, 100⟩))
    let withdrawn := step bidden
      (.call (allSign 4) (.withdrawOrganizerFunds "concert" usdcAddress))
    isEventCancelledForRefund cancelled "concert" = true ∧
      bidden.auctions.highestBid.get ("concert", "general") =
        some ⟨bobAddress, usdcAddress, 100⟩ ∧
      (bidden.books.getEventBalance "concert").organizerAmount = 950 ∧
      (withdrawn.books.getEventBalance "concert").organizerAmount = 0 := by
  decide

end Agora.TicketPayment

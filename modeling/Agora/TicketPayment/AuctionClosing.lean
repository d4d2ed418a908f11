/-
This file proves when a closed auction stays closed. A closing books the highest bid as
revenue and leaves it stored, and a bid asks only for the end time in the registry. So a
closed auction stays closed as long as no bid finds an end time that is still to come.

The organizer decides that time in the registry. A tier put in the place of the one that
was auctioned off opens the auction once more, and the next bid sends the booked one back
to its winner.
-/

import Agora.EventRegistry.Contract
import Agora.TicketPayment.AuctionEscrow

namespace Agora.TicketPayment

open Soroban EventRegistry

variable {Registry : Type} [RegistryApi Registry] {host : Host}

/-! ### Bids that come too late -/

/-- The condition on a step: a bid for the auction comes after the end time that the registry gives
for it then. -/
def BidsLate (eventId : EventId) (tierId : TierId) (world : World Registry) :
    Action host Registry → Prop
  | .call env (.placeBid otherEvent otherTier _) => (otherEvent, otherTier) = (eventId, tierId) →
    ∀ event config, RegistryApi.getEvent world.registry eventId = some event →
      event.auctionConfig tierId = some config → config.endTime < env.timestamp
  | _ => True

section Late

variable {world : World Registry} {eventId : EventId} {tierId : TierId}

section

variable {env : Env host} {bid : HighestBid}
  (late : BidsLate eventId tierId world (.call env (.placeBid eventId tierId bid)))

include late

theorem placeBid_fails :
    ¬Succeeds (placeBid env eventId tierId bid) world fun _ _ => True := by
  rintro ⟨value, next, run, -⟩
  obtain ⟨-, -, ⟨event, config, of⟩, -⟩ := placeBid_ensures value next run
  exact (late rfl event config of.eventEq of.configEq).not_ge of.inTime

theorem step_placeBid_eq :
    step world (.call env (.placeBid eventId tierId bid)) = world := by
  obtain ⟨fault, -, unchanged⟩ | ⟨value, run⟩ :=
    commit_cases (placeBid env eventId tierId bid) world
  · exact unchanged
  · exact absurd ⟨value, _, run, trivial⟩ (placeBid_fails late)

end

/-- A closing keeps the bid that it books. -/
theorem closeAuction_highestBid {env : Env host} {paymentId : PaymentId} {world : World Registry} :
    Ensures (closeAuction env paymentId eventId tierId) world fun _ next =>
      next.auctions.highestBid = world.auctions.highestBid := by
  refine closeAuction_ensures.mono ?_
  rintro _ next ⟨event, bid, fee, _, _, _, does, _⟩
  rw [does.auctions]
  rfl

/-- Only a bid replaces the highest one. -/
theorem step_highestBid (escrow : world.escrowState = .empty) {action : Action host Registry}
    (late : BidsLate eventId tierId world action) :
    (step world action).auctions.highestBid.get (eventId, tierId) =
      world.auctions.highestBid.get (eventId, tierId) := by
  by_cases concerns : action.auctionKey = some (eventId, tierId)
  · obtain ⟨env, bid, rfl⟩ | ⟨env, paymentId, rfl⟩ := auctionKey_cases concerns
    · rw [step_placeBid_eq late]
    · show (commit (closeAuction env paymentId eventId tierId) world).auctions.highestBid.get _ = _
      obtain ⟨fault, -, unchanged⟩ | ⟨value, run⟩ :=
        commit_cases (closeAuction env paymentId eventId tierId) world
      · rw [unchanged]
      · rw [closeAuction_highestBid value _ run]
  · exact (step_elsewhere escrow concerns).1

end Late

/-! ### Closed auctions -/

/-- After a closing, in every run in which the bids for the auction come after the end time of the
registry, no bid for it succeeds and none moves anything, and the winning bid stays where it is. -/
theorem closed_auction_stays_closed (registry : Registry) (before : List (Action host Registry))
    (env : Env host) (paymentId : PaymentId) (eventId : EventId) (tierId : TierId)
    (closed : World Registry)
    (closing : (closeAuction env paymentId eventId tierId).run (reached registry before) =
      .ok ((), closed))
    (later : List (Action host Registry))
    (late : Respects step (BidsLate eventId tierId) closed later) :
    ∃ winner, (reached registry before).auctions.highestBid.get (eventId, tierId) = some winner ∧
      (runActions step closed later).auctions.highestBid.get (eventId, tierId) = some winner ∧
      ∀ world env bid,
        StepOf step closed later world (.call env (.placeBid eventId tierId bid)) →
        ¬Succeeds (placeBid env eventId tierId bid) world (fun _ _ => True) ∧
          step world (.call env (.placeBid eventId tierId bid)) = world := by
  obtain ⟨event, winner, fee, of, -⟩ := closeAuction_ensures _ _ closing
  have booked : closed.auctions.highestBid.get (eventId, tierId) = some winner := by
    rw [closeAuction_highestBid _ _ closing, of.bidEq]
  have wellformed : Wellformed host closed := by
    have wellformed := step_wellformed (reached registry before)
      (.call env (.closeAuction paymentId eventId tierId)) (reached_wellformed registry before)
    rwa [step, callStep, commit, closing] at wellformed
  refine ⟨winner, of.bidEq, ?_, fun world env bid taken => ?_⟩
  · refine (respects_invariant (fun world => Wellformed host world ∧
      world.auctions.highestBid.get (eventId, tierId) = some winner) ?_ closed later late
      ⟨wellformed, booked⟩).2
    rintro world action late ⟨wellformed, highest⟩
    exact ⟨step_wellformed world action wellformed,
      (step_highestBid wellformed.escrowState late).trans highest⟩
  · have tooLate := late.stepOf taken
    exact ⟨placeBid_fails tooLate, step_placeBid_eq tooLate⟩

/-- Alice comes back when Bob has won. -/
def aliceOverbids (timestamp : Nat) : Action stage EventRegistry.Registry :=
  .call (allSign timestamp) (.placeBid "concert" "general" ⟨aliceAddress, usdcAddress, 120⟩)

/-- The auction as it is closed for Bob. -/
def wonByBob : World EventRegistry.Registry :=
  commit (closeAuction (allSign 1001) "ticket" "concert" "general")
    (reached (registryWith concert) (auctionHeld.take 7))

theorem alice_comes_too_late :
    wonByBob.auctions.highestBid.get ("concert", "general") =
        some ⟨bobAddress, usdcAddress, 110⟩ ∧
      step wonByBob (aliceOverbids 1002) = wonByBob := by
  have late : Respects step (BidsLate "concert" "general") wonByBob [aliceOverbids 1002] := by
    refine ⟨fun _ event config eventEq configEq => ?_, trivial⟩
    cases eventEq
    cases configEq
    decide
  obtain ⟨winner, _, -, fails⟩ := closed_auction_stays_closed (registryWith concert)
    (auctionHeld.take 7) (allSign 1001) "ticket" "concert" "general" wonByBob
    (run_eq_of_commit (by decide)) [aliceOverbids 1002] late
  exact ⟨by decide, (fails wonByBob (allSign 1002) ⟨aliceAddress, usdcAddress, 120⟩
    ⟨[], [], rfl, rfl⟩).2⟩

/-- The organizer puts a tier with a later end time in the place of the one that was auctioned
off. -/
def auctionReopened : List (Action stage EventRegistry.Registry) :=
  auctionHeld ++
    [.registry (commit (addTier (allSign 1002).signed "concert" "general"
      { generalTier with auctionConfig := [⟨100, 5000, 10⟩] })
      (reached (registryWith concert) auctionHeld).registry)]

/-- The auction is closed, and Alice's bid is taken and sends Bob's back. -/
theorem reopened_auction_returns_winning_bid :
    let world := reached (registryWith concert) auctionReopened
    let next := step world (aliceOverbids 1003)
    isAuctionClosed world.auctions "concert" "general" = true ∧
      accepted (placeBid (allSign 1003) "concert" "general" ⟨aliceAddress, usdcAddress, 120⟩)
        world = true ∧
      next.tokens.balance usdcAddress bobAddress =
        world.tokens.balance usdcAddress bobAddress + 110 := by
  decide

end Agora.TicketPayment

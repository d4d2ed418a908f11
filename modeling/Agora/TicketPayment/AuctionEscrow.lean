/-
This file proves the escrow of an auction whose configuration and token stay the same:
what its bids have moved into the contract is the highest bid, taken from its bidder,
and nobody else has paid anything.

The bids and closings of the auction may come in any order and between any other calls.
What one of them moves is read off the balances before and after it, and summed over the
run.
-/

import Agora.EventRegistry.System
import Agora.TicketPayment.Reachable

namespace Agora.TicketPayment

open Soroban EventRegistry

variable {Registry : Type} [RegistryApi Registry] {host : Host}

/-! ### Auctions -/

/-- An auction with the configuration and the token it keeps. -/
structure FixedAuction where
  eventId : EventId
  tierId : TierId
  config : AuctionConfig
  token : Address
  startPrice_pos : 0 < config.startPrice
  minIncrement_pos : 0 < config.minIncrement

/-- The auction that a call is a bid for or a closing of. -/
def Action.auctionKey : Action host Registry → Option (EventId × TierId)
  | .call _ (.placeBid eventId tierId _) => some (eventId, tierId)
  | .call _ (.closeAuction _ eventId tierId) => some (eventId, tierId)
  | _ => none

section Key

variable {action : Action host Registry}

/-- A step of something else leaves the highest bid and the closing of an auction alone. -/
theorem step_elsewhere {world : World Registry} (escrow : world.escrowState = .empty)
    {key : EventId × TierId} (elsewhere : action.auctionKey ≠ some key) :
    (step world action).auctions.highestBid.get key = world.auctions.highestBid.get key ∧
      (step world action).auctions.closed.get key = world.auctions.closed.get key := by
  obtain ⟨change, effect, does⟩ := step_takes escrow action
  rw [does.auctions]
  cases effect with
  | bid env eventId tierId bid =>
    have different : key ≠ (eventId, tierId) := fun same => elsewhere (congrArg some same.symm)
    exact ⟨(Store.get_set _).trans (if_neg different), rfl⟩
  | closing env paymentId eventId tierId =>
    have different : key ≠ (eventId, tierId) := fun same => elsewhere (congrArg some same.symm)
    exact ⟨rfl, (Store.get_set _).trans (if_neg different)⟩
  | _ => exact ⟨rfl, rfl⟩

omit [RegistryApi Registry] in
/-- A step of an auction is a bid or a closing. -/
theorem auctionKey_cases {eventId : EventId} {tierId : TierId}
    (concerns : action.auctionKey = some (eventId, tierId)) :
    (∃ env bid, action = .call env (.placeBid eventId tierId bid)) ∨
      ∃ env paymentId, action = .call env (.closeAuction paymentId eventId tierId) := by
  unfold Action.auctionKey at concerns
  split at concerns
  · cases concerns
    exact .inl ⟨_, _, rfl⟩
  · cases concerns
    exact .inr ⟨_, _, rfl⟩
  · cases concerns

end Key

namespace FixedAuction

abbrev key (auction : FixedAuction) : EventId × TierId := (auction.eventId, auction.tierId)

/-- The bids in the token of the auction. -/
def InToken (auction : FixedAuction) : Action host Registry → Prop
  | .call _ (.placeBid _ _ bid) => bid.tokenAddress = auction.token
  | _ => True

/-- The condition on a step: in a step of the auction the registry gives its configuration, and a
bid is in its token. -/
def Kept (auction : FixedAuction) (world : World Registry) (action : Action host Registry) :
    Prop :=
  action.auctionKey = some auction.key →
    (∀ event config, RegistryApi.getEvent world.registry auction.eventId = some event →
      event.auctionConfig auction.tierId = some config → config = auction.config) ∧
    auction.InToken action

/-- What a step of the auction adds to the balance of a holder. -/
def flow (auction : FixedAuction) (holder : Address) (world : World Registry)
    (action : Action host Registry) : Int :=
  if action.auctionKey = some auction.key then
    (step world action).tokens.balance auction.token holder -
      world.tokens.balance auction.token holder
  else 0

/-- What a holder has gained by the highest bid: the contract holds it, and its bidder paid it. -/
def stake (auction : FixedAuction) (host : Host) (holder : Address) (world : World Registry) :
    Int :=
  match world.auctions.highestBid.get auction.key with
  | none => 0
  | some bid =>
    (if holder = host.contract then bid.amount else 0) -
      (if holder = bid.bidder then bid.amount else 0)

/-- The closings of the auction that succeed. -/
def closings (auction : FixedAuction) (world : World Registry) : Action host Registry → Nat
  | .call env (.closeAuction paymentId eventId tierId) =>
    if (eventId, tierId) = auction.key then
      match (closeAuction env paymentId eventId tierId).run world with
      | .ok _ => 1
      | .error _ => 0
    else 0
  | _ => 0

/-! ### The rules of the auction -/

/-- What an accepted bid has met and done. -/
structure AcceptedBid (auction : FixedAuction) (timestamp : Nat) (bid : HighestBid)
    (world next : World Registry) : Prop where
  inTime : timestamp ≤ auction.config.endTime
  positive : 0 < bid.amount
  opens : world.auctions.highestBid.get auction.key = none →
    auction.config.startPrice ≤ bid.amount
  raises : ∀ previous, world.auctions.highestBid.get auction.key = some previous →
    previous.amount + auction.config.minIncrement ≤ bid.amount
  highest : next.auctions.highestBid.get auction.key = some bid
  repaid : ∀ previous, world.auctions.highestBid.get auction.key = some previous →
    previous.bidder ≠ bid.bidder →
      next.tokens.balance auction.token previous.bidder =
        world.tokens.balance auction.token previous.bidder + previous.amount

/-- What a successful closing has met and booked. -/
structure BookedClosing (auction : FixedAuction) (timestamp : Nat) (paymentId : PaymentId)
    (bid : HighestBid) (world next : World Registry) : Prop where
  late : auction.config.endTime < timestamp
  highest : world.auctions.highestBid.get auction.key = some bid
  booked : (next.books.getEventBalance auction.eventId).organizerAmount +
      (next.books.getEventBalance auction.eventId).platformFee =
    (world.books.getEventBalance auction.eventId).organizerAmount +
      (world.books.getEventBalance auction.eventId).platformFee + bid.amount
  recorded : ∃ payment, next.tickets.getPayment paymentId = some payment ∧
    payment.organizerAmount + payment.platformFee = bid.amount

/-- Every success of a step of the auction follows the rules. -/
def Rules (auction : FixedAuction) (world : World Registry) : Action host Registry → Prop
  | .call env (.placeBid eventId tierId bid) => (eventId, tierId) = auction.key →
    Ensures (placeBid env eventId tierId bid) world fun _ next =>
      auction.AcceptedBid env.timestamp bid world next
  | .call env (.closeAuction paymentId eventId tierId) => (eventId, tierId) = auction.key →
    Ensures (closeAuction env paymentId eventId tierId) world fun _ next =>
      ∃ bid, auction.BookedClosing env.timestamp paymentId bid world next
  | _ => True

/-- A well-formed state in which the highest bid of the auction is in its token. -/
structure State (auction : FixedAuction) (host : Host) (world : World Registry) : Prop where
  wellformed : Wellformed host world
  inToken : ∀ bid, world.auctions.highestBid.get auction.key = some bid →
    bid.tokenAddress = auction.token

variable {auction : FixedAuction} {world : World Registry}

theorem placeBid_rules (state : auction.State host world) (env : Env host) (bid : HighestBid)
    (kept : auction.Kept world (.call env (.placeBid auction.eventId auction.tierId bid))) :
    Ensures (placeBid env auction.eventId auction.tierId bid) world fun _ next =>
      auction.AcceptedBid env.timestamp bid world next := by
  obtain ⟨fixed, inToken⟩ := kept rfl
  refine placeBid_ensures.mono ?_
  rintro _ next ⟨outside, nonneg, ⟨event, config, of⟩, does, balances⟩
  obtain rfl := fixed event config of.eventEq of.configEq
  obtain ⟨least, leastEq, enough⟩ := of.enough
  have opens (first : world.auctions.highestBid.get auction.key = none) :
      auction.config.startPrice ≤ bid.amount := by
    rw [first, minRequired] at leastEq
    cases leastEq
    exact enough
  have raises (previous : HighestBid)
      (found : world.auctions.highestBid.get auction.key = some previous) :
      previous.amount + auction.config.minIncrement ≤ bid.amount := by
    rw [found, minRequired] at leastEq
    rwa [eq_of_checkedAdd leastEq] at enough
  refine ⟨of.inTime, ?_, opens, raises, ?_, fun previous found different => ?_⟩
  · cases before : world.auctions.highestBid.get auction.key with
    | none => exact auction.startPrice_pos.trans_le (opens before)
    | some previous =>
      have old := (state.wellformed.bids _ previous before).2
      have raised := raises previous before
      have increment := auction.minIncrement_pos
      omega
  · rw [does.auctions]
    exact Store.get_set_self _ _ _
  · have outsidePrevious := (state.wellformed.bids _ previous found).1
    rw [balances, found]
    simp [repayment, Tokens.moved, outsidePrevious, different, state.inToken previous found]

theorem closeAuction_rules (env : Env host) (paymentId : PaymentId)
    (kept : auction.Kept world
      (.call env (.closeAuction paymentId auction.eventId auction.tierId))) :
    Ensures (closeAuction env paymentId auction.eventId auction.tierId) world fun _ next =>
      ∃ bid, auction.BookedClosing env.timestamp paymentId bid world next := by
  obtain ⟨fixed, _⟩ := kept rfl
  refine closeAuction_ensures.mono ?_
  rintro _ next ⟨event, bid, fee, of, ⟨config, ended⟩, _, does, _⟩
  obtain rfl := fixed event config of.eventEq ended.configEq
  have accounts (account : Account) : next.ledger host account = world.ledger host account +
      posted (hammerLines paymentId auction.eventId bid fee) account := by
    rw [does.ledger]
    rfl
  have organizer : (next.books.getEventBalance auction.eventId).organizerAmount =
      (world.books.getEventBalance auction.eventId).organizerAmount + (bid.amount - fee) :=
    (accounts (.organizer auction.eventId)).trans (by simp [World.ledger])
  have platform : (next.books.getEventBalance auction.eventId).platformFee =
      (world.books.getEventBalance auction.eventId).platformFee + fee :=
    (accounts (.platform auction.eventId)).trans (by simp [World.ledger])
  refine ⟨bid, ended.ended, of.bidEq, ?_, auctionRecord paymentId auction.eventId auction.tierId
    bid fee (bid.amount - fee) env.timestamp, ?_, sub_add_cancel bid.amount fee⟩
  · rw [organizer, platform]
    ring
  · rw [does.tickets]
    exact (Tickets.getPayment_storePayment _ _ _).trans (if_pos rfl)

/-! ### The steps -/

/-- What a step does to the auction: nothing, a bid that replaces the highest one, or the
closing. -/
inductive Turn (auction : FixedAuction) (world : World Registry) (action : Action host Registry) :
    Prop
  | idle
      (highest : (step world action).auctions.highestBid.get auction.key =
        world.auctions.highestBid.get auction.key)
      (closed : (step world action).auctions.closed.get auction.key =
        world.auctions.closed.get auction.key)
      (flow : ∀ holder, auction.flow holder world action = 0)
      (closings : auction.closings world action = 0)
  | bid (bid : HighestBid) (inToken : bid.tokenAddress = auction.token)
      (highest : (step world action).auctions.highestBid.get auction.key = some bid)
      (closed : (step world action).auctions.closed.get auction.key =
        world.auctions.closed.get auction.key)
      (flow : ∀ holder, auction.flow holder world action =
        Tokens.moved auction.token bid.bidder host.contract bid.amount auction.token holder +
          repayment host (world.auctions.highestBid.get auction.key) auction.token holder)
      (closings : auction.closings world action = 0)
  | closing
      (highest : (step world action).auctions.highestBid.get auction.key =
        world.auctions.highestBid.get auction.key)
      (opened : world.auctions.closed.get auction.key = none)
      (closed : (step world action).auctions.closed.get auction.key = some ())
      (flow : ∀ holder, auction.flow holder world action = 0)
      (closings : auction.closings world action = 1)

variable {action : Action host Registry}

theorem Turn.failed (same : step world action = world)
    (closings : auction.closings world action = 0) : auction.Turn world action := by
  refine .idle (by rw [same]) (by rw [same]) (fun holder => ?_) closings
  rw [flow, same, sub_self, ite_self]

theorem Turn.elsewhere (escrow : world.escrowState = .empty)
    (elsewhere : action.auctionKey ≠ some auction.key) : auction.Turn world action := by
  obtain ⟨highest, closed⟩ := step_elsewhere escrow elsewhere
  refine .idle highest closed (fun holder => if_neg elsewhere) ?_
  unfold closings
  split
  · exact if_neg fun same => elsewhere (congrArg some same)
  · rfl

variable {env : Env host}

theorem Turn.placeBid {bid : HighestBid}
    (kept : auction.Kept world (.call env (.placeBid auction.eventId auction.tierId bid))) :
    auction.Turn world (.call env (.placeBid auction.eventId auction.tierId bid)) := by
  have stepped : step world (.call env (.placeBid auction.eventId auction.tierId bid)) =
      commit (TicketPayment.placeBid env auction.eventId auction.tierId bid) world := rfl
  rcases commit_cases (TicketPayment.placeBid env auction.eventId auction.tierId bid) world with
    ⟨fault, _, failed⟩ | ⟨value, accepted⟩
  · exact .failed (stepped.trans failed) rfl
  · rw [← stepped] at accepted
    obtain ⟨_, _, _, does, balances⟩ := placeBid_ensures _ _ accepted
    have inToken : bid.tokenAddress = auction.token := (kept rfl).2
    refine .bid bid inToken ?_ ?_ (fun holder => ?_) rfl
    · rw [does.auctions]
      exact Store.get_set_self _ _ _
    · rw [does.auctions]
      rfl
    · refine (if_pos rfl).trans ?_
      rw [balances, inToken]
      ring

theorem Turn.closeAuction {paymentId : PaymentId} :
    auction.Turn world
      (.call env (.closeAuction paymentId auction.eventId auction.tierId)) := by
  have stepped : step world
        (.call env (.closeAuction paymentId auction.eventId auction.tierId)) =
      commit (TicketPayment.closeAuction env paymentId auction.eventId auction.tierId) world := rfl
  rcases commit_cases (TicketPayment.closeAuction env paymentId auction.eventId auction.tierId)
    world with ⟨fault, run, failed⟩ | ⟨value, run⟩
  · exact .failed (stepped.trans failed) (by simp [closings, run])
  · rw [← stepped] at run
    obtain ⟨_, _, _, of, _, _, does, tokens⟩ := closeAuction_ensures _ _ run
    refine .closing ?_ ?_ ?_ (fun holder => ?_) ?_
    · rw [does.auctions]
      rfl
    · exact Option.isNone_iff_eq_none.mp (Option.isSome_eq_false_iff.mp of.opened)
    · rw [does.auctions]
      exact Store.get_set_self _ _ _
    · rw [flow, tokens, sub_self, ite_self]
    · simp [closings, run]

theorem step_turn (state : auction.State host world) {action : Action host Registry}
    (kept : auction.Kept world action) : auction.Turn world action := by
  by_cases concerns : action.auctionKey = some auction.key
  · rcases auctionKey_cases concerns with ⟨env, bid, rfl⟩ | ⟨env, paymentId, rfl⟩
    · exact .placeBid kept
    · exact .closeAuction
  · exact .elsewhere state.wellformed.escrowState concerns

section

variable (world action) (kept : auction.Kept world action) (state : auction.State host world)

include kept state

theorem step_state : auction.State host (step world action) := by
  refine ⟨step_wellformed world action state.wellformed, fun bid found => ?_⟩
  cases step_turn state kept with
  | idle highest | closing highest => exact state.inToken bid (highest ▸ found)
  | bid placed inToken highest =>
    cases highest.symm.trans found
    exact inToken

theorem step_rules : auction.Rules world action := by
  unfold Rules
  split
  · intro same
    cases same
    exact placeBid_rules state _ _ kept
  · intro same
    cases same
    exact closeAuction_rules _ _ kept
  · trivial

end

/-- The stake of every holder follows the flow. -/
theorem step_stake (holder : Address) (world : World Registry) (action : Action host Registry)
    (kept : auction.Kept world action) (state : auction.State host world) :
    auction.stake host holder (step world action) =
      auction.stake host holder world + auction.flow holder world action := by
  unfold stake
  cases step_turn state kept with
  | idle highest closed flow | closing highest opened closed flow =>
    rw [highest, flow, add_zero]
  | bid placed inToken highest closed flow =>
    rw [highest, flow]
    cases before : world.auctions.highestBid.get auction.key with
    | none => simp [repayment, Tokens.moved]
    | some previous =>
      simp only [repayment, Tokens.moved, state.inToken previous before, if_true]
      ring

def closedCount (auction : FixedAuction) (world : World Registry) : Nat :=
  if (world.auctions.closed.get auction.key).isSome then 1 else 0

theorem step_closedCount (world : World Registry) (action : Action host Registry)
    (kept : auction.Kept world action) (state : auction.State host world) :
    auction.closedCount (step world action) =
      auction.closedCount world + auction.closings world action := by
  unfold closedCount
  cases step_turn state kept with
  | idle highest closed flow closings | bid placed inToken highest closed flow closings =>
    rw [closed, closings, add_zero]
  | closing highest opened closed flow closings => rw [opened, closed, closings]; rfl

end FixedAuction

/-! ### The runs -/

/-- Over every run in which the auction keeps its configuration and its token, what its steps have
moved is the highest bid, at most one closing succeeds, every success follows the rules, and every
bid was accepted before the time of every closing. -/
theorem auction_escrow (registry : Registry) (actions : List (Action host Registry))
    (auction : FixedAuction) (kept : Respects step auction.Kept (.fresh registry) actions) :
    (∀ holder, runTotal step (auction.flow holder) (.fresh registry) actions =
      auction.stake host holder (reached registry actions)) ∧
    runTotal step auction.closings (.fresh registry) actions ≤ 1 ∧
    Respects step auction.Rules (.fresh registry) actions ∧
    ∀ bidden env bid closed env' paymentId,
      StepOf step (.fresh registry) actions bidden
        (.call env (.placeBid auction.eventId auction.tierId bid)) →
      Succeeds (placeBid env auction.eventId auction.tierId bid) bidden (fun _ _ => True) →
      StepOf step (.fresh registry) actions closed
        (.call env' (.closeAuction paymentId auction.eventId auction.tierId)) →
      Succeeds (closeAuction env' paymentId auction.eventId auction.tierId) closed
        (fun _ _ => True) →
      env.timestamp < env'.timestamp := by
  have start : auction.State host (.fresh registry) :=
    ⟨reached_wellformed registry [], fun bid found => nomatch found⟩
  have rules := kept.of_invariant (auction.State host) FixedAuction.step_rules
    FixedAuction.step_state _ _ start
  refine ⟨fun holder => ?_, ?_, rules, ?_⟩
  · have total := quantity_add_runTotal (auction.State host) (auction.stake host holder)
      (auction.flow holder) FixedAuction.step_state (FixedAuction.step_stake holder) _ actions kept
      start
    exact (total.trans (zero_add _)).symm
  · have total := quantity_add_runTotal (auction.State host) auction.closedCount auction.closings
      FixedAuction.step_state FixedAuction.step_closedCount _ actions kept start
    have once : auction.closedCount (reached registry actions) ≤ 1 := by
      unfold FixedAuction.closedCount
      split <;> omega
    exact (total.trans (zero_add _)).symm.trans_le once
  · intro bidden env bid closed env' paymentId bidStep accepted closeStep closes
    obtain ⟨_, _, accepted, _⟩ := accepted
    obtain ⟨_, _, closes, _⟩ := closes
    have bidRule := rules.stepOf bidStep rfl _ _ accepted
    obtain ⟨_, closeRule⟩ := rules.stepOf closeStep rfl _ _ closes
    exact bidRule.inTime.trans_lt closeRule.late

def concertAuction : FixedAuction where
  eventId := "concert"
  tierId := "general"
  config := ⟨100, 1000, 10⟩
  token := usdcAddress
  startPrice_pos := by decide
  minIncrement_pos := by decide

/-- Bob outbids Alice and wins. -/
def auctionHeld : List (Action stage EventRegistry.Registry) :=
  setUp ++
    [.call (allSign 1) (.placeBid "concert" "general" ⟨aliceAddress, usdcAddress, 100⟩),
      .call (allSign 2) (.placeBid "concert" "general" ⟨bobAddress, usdcAddress, 110⟩),
      .call (allSign 1001) (.closeAuction "ticket" "concert" "general")]

/-- The contract holds Bob's bid, and the bid of Alice is repaid. -/
theorem bob_wins_auction :
    runTotal step (concertAuction.flow stage.contract) (.fresh (registryWith concert))
        auctionHeld = 110 ∧
      runTotal step (concertAuction.flow aliceAddress) (.fresh (registryWith concert))
        auctionHeld = 0 ∧
      runTotal step concertAuction.closings (.fresh (registryWith concert)) auctionHeld = 1 ∧
      Respects step concertAuction.Rules (.fresh (registryWith concert)) auctionHeld := by
  have kept : Respects step concertAuction.Kept (.fresh (registryWith concert)) auctionHeld := by
    refine ⟨nofun, nofun, nofun, nofun, nofun, fun _ => ⟨fun event config eventEq configEq => ?_,
      rfl⟩, fun _ => ⟨fun event config eventEq configEq => ?_, rfl⟩,
      fun _ => ⟨fun event config eventEq configEq => ?_, trivial⟩, trivial⟩
    all_goals
      cases eventEq
      cases configEq
      rfl
  obtain ⟨flows, _, rules, _⟩ := auction_escrow (registryWith concert) auctionHeld concertAuction
    kept
  exact ⟨(flows stage.contract).trans (by decide), (flows aliceAddress).trans (by decide),
    by decide, rules⟩

end Agora.TicketPayment

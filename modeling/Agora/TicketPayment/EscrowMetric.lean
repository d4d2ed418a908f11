/-
This file is about the counters of the active escrow: one for all tokens together and
one for each token.

They agree with each other in every state, since every entry point changes both by
the same amounts. With the tokens that the contract really holds they agree only
while every sale is paid in full and without a reward for a referrer, and no ticket is
transferred at a fee: a sale counts the price before discounts, and neither the reward
nor the transfer fee is counted at all.
-/

import Agora.EventRegistry.System
import Agora.TicketPayment.Reachable

namespace Agora.TicketPayment

open Soroban EventRegistry

variable {Registry : Type} [RegistryApi Registry] {host : Host}

/-! ### The counters of the tokens together -/

/-- What a list of postings adds to the counters of all tokens. -/
noncomputable def escrowPosted (lines : List (Posting Account)) : Int :=
  postedTotal Account.escrow lines

theorem escrow_injective : Function.Injective Account.escrow := by
  intro first second equal
  injection equal

section Posted

@[simp]
theorem escrowPosted_nil : escrowPosted [] = 0 := postedTotal_nil

@[simp]
theorem escrowPosted_escrow (token : Address) (amount : Int) (rest : List (Posting Account)) :
    escrowPosted ((.escrow token, amount) :: rest) = amount + escrowPosted rest :=
  postedTotal_cons_member escrow_injective

@[simp]
theorem escrowPosted_other {account : Account} (other : ∀ token, account ≠ .escrow token)
    (amount : Int) (rest : List (Posting Account)) :
    escrowPosted ((account, amount) :: rest) = escrowPosted rest :=
  postedTotal_cons_other escrow_injective other

@[simp]
theorem escrowPosted_append (first second : List (Posting Account)) :
    escrowPosted (first ++ second) = escrowPosted first + escrowPosted second :=
  postedTotal_append escrow_injective

@[simp]
theorem escrowPosted_noted (headings : List Trail) (amount : Int) :
    escrowPosted (World.noted headings amount) = 0 := by
  induction headings with
  | nil => exact escrowPosted_nil
  | cons heading rest inductionHypothesis =>
    rw [World.noted, List.map_cons, escrowPosted_other (by simp)]
    exact inductionHypothesis

theorem escrowPosted_items {lines : BatchItem → List (Posting Account)} {items : List BatchItem}
    (each : ∀ item, escrowPosted (lines item) = -item.refund) :
    escrowPosted (items.flatMap lines) = -refundTotal items := by
  have total := postedTotal_flatMap escrow_injective items lines
  have mapped : (items.map fun item => escrowPosted (lines item)) =
      (items.map (·.refund)).map (- ·) := by
    rw [List.map_map]
    exact List.map_congr_left fun item _ => each item
  rw [escrowPosted, total, refundTotal, List.sum_neg]
  exact congrArg List.sum mapped

/-- The turns of a window count each token, and the booking after them all together. -/
theorem windowChange_escrowTotal (eventId : EventId) (items : List BatchItem) :
    posted (windowChange host eventId items).lines .escrowTotal =
      escrowPosted (windowChange host eventId items).lines := by
  have turns : escrowPosted (items.flatMap (itemLines host)) = -refundTotal items :=
    escrowPosted_items (by simp)
  rw [posted_windowChange_escrowTotal]
  simp [windowChange, turns]

end Posted

variable {world : World Registry} {action : Action host Registry} {change : Change}

/-- Every step changes the counter of all tokens by what it adds to the counters of the tokens. -/
theorem Effect.escrowTotal_posted (effect : Effect world action change) :
    posted change.lines .escrowTotal = escrowPosted change.lines := by
  cases effect with
  | nothing | registry | configured | confirm | checkIn | poap | listing =>
    exact escrowPosted_nil.symm
  | bulkRefund | partialRefund => exact windowChange_escrowTotal _ _
  | cascade =>
    rw [cascadeChange, escrowPosted_items (fun item => by simp)]
    exact posted_items_neg fun item _ => by simp
  | bid env eventId tierId bid outside nonneg =>
    cases found : world.auctions.highestBid.get (eventId, tierId) <;> simp
  | _ => simp

omit [RegistryApi Registry] in
/-- The counters of the tokens together, after a step. -/
theorem escrow_sum_of_does {next : World Registry} (does : Does host change world next) :
    ∑ᶠ token, next.books.getActiveEscrowByToken token =
      ∑ᶠ token, world.books.getActiveEscrowByToken token + escrowPosted change.lines := by
  have after (token : Address) : next.books.getActiveEscrowByToken token =
      world.books.getActiveEscrowByToken token + posted change.lines (.escrow token) :=
    congrFun does.ledger (.escrow token)
  simp only [after]
  refine finsum_add_distrib ?_ (posted_hasFiniteSupport escrow_injective)
  exact world.books.activeEscrowByToken.hasFiniteSupport (fun _ amount => amount.getD 0)
    fun _ => rfl

/-- The two kinds of counters agree. -/
structure Agreed (host : Host) (world : World Registry) : Prop where
  wellformed : Wellformed host world
  agree : world.books.activeEscrowTotal = ∑ᶠ token, world.books.getActiveEscrowByToken token

theorem step_agreed (world : World Registry) (action : Action host Registry)
    (agreed : Agreed host world) : Agreed host (step world action) := by
  obtain ⟨change, effect, does⟩ := step_takes agreed.wellformed.escrowState action
  refine ⟨step_wellformed world action agreed.wellformed, ?_⟩
  have total : (step world action).books.activeEscrowTotal =
      world.books.activeEscrowTotal + posted change.lines .escrowTotal :=
    congrFun does.ledger .escrowTotal
  rw [total, effect.escrowTotal_posted, escrow_sum_of_does does, agreed.agree]

/-- In every reachable state the counter of all tokens is the sum of the counters of the
tokens. -/
theorem activeEscrowTotal_eq_sum (registry : Registry) (actions : List (Action host Registry)) :
    (reached registry actions).books.activeEscrowTotal =
      ∑ᶠ token, (reached registry actions).books.getActiveEscrowByToken token := by
  have start : Agreed host (World.fresh registry) := by
    refine ⟨wellformed_fresh registry, ?_⟩
    simp [World.fresh, Books.fresh, Books.getActiveEscrowByToken]
  exact (run_invariant (Agreed host) step_agreed _ actions start).agree

/-! ### The tokens that are really held -/

/-- The condition on a step: sales are paid in full and reward nobody, tickets change hands
without a fee, payouts and royalties go to somebody else than the contract, and nobody sends the
contract tokens on their own. -/
def Counted (world : World Registry) : Action host Registry → Prop
  | .call env (.processPayment purchase) => Undiscounted env world purchase ∧
      RegistryApi.getLoyaltyDiscountBps world.registry purchase.buyerAddress = 0 ∧
      purchase.options.referrer = none
  | .call _ (.transferTicket paymentId _ _) => ∀ payment ∈ world.tickets.getPayment paymentId,
      ∀ fee ∈ transferFeeOf world.settings payment, fee ≤ 0
  | .call _ (.claimRevenue eventId _) => ∀ event ∈ RegistryApi.getEvent world.registry eventId,
      event.paymentAddress ≠ host.contract
  | .call _ (.purchaseResaleTicket paymentId _ _) => ∀ listing ∈ world.resale.get paymentId,
      royaltyPayee world listing ≠ host.contract
  | .tokens move => ¬move.ReachesContract host
  | _ => True

/-- The restocking fee is at most the price. -/
theorem effectiveRestockingFee_le (env : Env host) (event : EventInfo) {amount : Int}
    (nonneg : 0 ≤ amount) : effectiveRestockingFee env event amount ≤ amount := by
  unfold effectiveRestockingFee
  split
  · exact nonneg
  · split
    · exact le_rfl
    · split <;> omega

variable {items : List BatchItem} {token : Address}

omit [RegistryApi Registry] in
theorem posted_items_escrow {lines : BatchItem → List (Posting Account)}
    (each : ∀ item ∈ items,
      posted (lines item) (.escrow token) = posted (lines item) (.held token)) :
    posted (items.flatMap lines) (.escrow token) = posted (items.flatMap lines) (.held token) := by
  rw [posted_flatMap, posted_flatMap]
  exact congrArg List.sum (List.map_congr_left each)

theorem windowChange_escrow {eventId : EventId}
    (outside : ∀ item ∈ items, item.payment.buyerAddress ≠ host.contract) :
    posted (windowChange host eventId items).lines (.escrow token) =
      posted (windowChange host eventId items).lines (.held token) := by
  have turns : posted (items.flatMap (itemLines host)) (.escrow token) =
      posted (items.flatMap (itemLines host)) (.held token) :=
    posted_items_escrow fun item member => by simp [outside item member]
  simp [windowChange, turns]

variable {env : Env host}

/-- A step of this kind counts what it moves. -/
theorem Effect.escrow_posted (wellformed : Wellformed host world) (counted : Counted world action)
    (effect : Effect world action change) (token : Address) :
    posted change.lines (.escrow token) = posted change.lines (.held token) := by
  cases effect with
  | nothing | registry | configured | confirm | checkIn | poap | listing => rfl
  | inflow move used amount nonneg unreached => simp [unreached counted]
  | settlement => simp
  | sale env purchase sale of =>
    -- what a sale of this kind takes in is what it counts
    obtain ⟨undiscounted, disloyal, unreferred⟩ := counted
    have paid := of.effectiveTotal_eq undiscounted disloyal
    simp [rewardPaid, unreferred, paid]
  | refund env path paymentId payment event refundable found =>
    have amountNonneg := (wellformed.records paymentId payment refundable.stored).amount_nonneg
    have refundNonneg := effectiveRestockingFee_le env event amountNonneg
    simp [refundNonneg]
  | cancellationRefund env paymentId payment refundable nonneg =>
    simp [nonneg]
  | bulkRefund =>
    exact windowChange_escrow
      (wellformed.buyers_outside.members outside_stable (bulkItem_refunding _) _)
  | partialRefund =>
    exact windowChange_escrow
      (wellformed.buyers_outside.members outside_stable (partialItem_refunding _) _)
  | cascade =>
    refine posted_items_escrow fun item member => ?_
    have outside := wellformed.buyers_outside.members outside_stable (bulkItem_refunding _) _
      item member
    simp [outside]
  | transfer env paymentId target salePrice payment fee of =>
    have free : fee ≤ 0 := counted payment of.stored fee of.feeEq
    simp [free]
  | resale env paymentId buyer maxPrice listing payment used royalty of =>
    -- what the buyer pays goes on to the seller and the organizer
    obtain ⟨royaltyNonneg, royaltyLe⟩ :=
      royalty_bounds wellformed.settings of.askPrice_nonneg of.royaltyEq
    have seller := wellformed.sellers paymentId listing of.listed
    simp only [resaleChange, resaleLines, posted_cons, posted_nil, reduceCtorEq, if_false,
      if_neg seller, if_neg (counted listing of.listed), Account.held.injEq]
    split <;> omega
  | withdrawal env eventId used amount nonneg bounded =>
    simp [nonneg]
  | claim env eventId used event found =>
    have outside : event.paymentAddress ≠ host.contract := counted event found
    simp [outside]
  | feeWithdrawal env amount used wallet positive walletEq =>
    have outside : wallet ≠ host.contract := fun own =>
      wellformed.settings.wallet (own ▸ walletEq)
    simp [outside]
  | bid env eventId tierId bid outside nonneg =>
    cases found : world.auctions.highestBid.get (eventId, tierId) with
    | none => simp
    | some previous =>
      have previousOutside := (wellformed.bids _ previous found).1
      simp [previousOutside]
  | closing => simp

/-- The counter of each token is what the contract holds of it. -/
structure CountedState (host : Host) (world : World Registry) : Prop where
  wellformed : Wellformed host world
  real : ∀ token, world.books.getActiveEscrowByToken token =
    world.tokens.balance token host.contract

theorem step_countedState (world : World Registry) (action : Action host Registry)
    (counted : Counted world action) (state : CountedState host world) :
    CountedState host (step world action) := by
  obtain ⟨change, effect, does⟩ := step_takes state.wellformed.escrowState action
  refine ⟨step_wellformed world action state.wellformed, fun token => ?_⟩
  have escrow : (step world action).books.getActiveEscrowByToken token =
      world.books.getActiveEscrowByToken token + posted change.lines (.escrow token) :=
    congrFun does.ledger (.escrow token)
  have held : (step world action).tokens.balance token host.contract =
      world.tokens.balance token host.contract + posted change.lines (.held token) :=
    congrFun does.ledger (.held token)
  rw [escrow, held, state.real token, effect.escrow_posted state.wellformed counted token]

/-- In a run of counted steps the counter of every token is what the contract holds of it. -/
theorem activeEscrow_eq_held_of_counted (registry : Registry)
    (actions : List (Action host Registry))
    (counted : Respects step Counted (.fresh registry) actions) (token : Address) :
    (reached registry actions).books.getActiveEscrowByToken token =
      (reached registry actions).tokens.balance token host.contract :=
  (respects_invariant (CountedState host) step_countedState _ actions counted
    ⟨wellformed_fresh registry, fun _ => rfl⟩).real token

/-- A sale and its refund. -/
theorem activeEscrow_eq_held_sale_and_refund :
    (reached (registryWith concert) (setUp ++ saleAndRefund)).books.getActiveEscrowByToken
        usdcAddress =
      (reached (registryWith concert) (setUp ++ saleAndRefund)).tokens.balance usdcAddress
        stage.contract :=
  activeEscrow_eq_held_of_counted (registryWith concert) (setUp ++ saleAndRefund)
    ⟨trivial, (by decide : ¬TokenMove.ReachesContract stage _),
      (by decide : ¬TokenMove.ReachesContract stage _),
      (by decide : ¬TokenMove.ReachesContract stage _),
      (by decide : ¬TokenMove.ReachesContract stage _),
      ⟨(by decide : Undiscounted _ _ _), rfl, rfl⟩, trivial, trivial⟩ usdcAddress

/-- Nobody sends the contract tokens on their own, yet after a transfer it holds the fee beside
the price that is counted. -/
theorem activeEscrow_lt_held_handed_over :
    (∀ action ∈ handedOver, ∀ move, action = .tokens move → ¬move.ReachesContract stage) ∧
      (reached (registryWith concert) handedOver).books.getActiveEscrowByToken usdcAddress =
        1000 ∧
      (reached (registryWith concert) handedOver).tokens.balance usdcAddress stage.contract =
        1010 := by
  refine ⟨?_, by decide, by decide⟩
  intro action member move equal
  simp only [handedOver, setUp, List.mem_append, List.mem_cons, List.not_mem_nil, or_false]
    at member
  subst equal
  simp only [reduceCtorEq, false_or, or_false, Action.tokens.injEq] at member
  rcases member with rfl | rfl | rfl | rfl <;> decide

end Agora.TicketPayment

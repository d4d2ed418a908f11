/-
This file asks whether the contract can pay what it owes: to the organizers, to the
platform, and to the highest bidders of open auctions.

It cannot in general. A refund returns the whole price and takes only the
organizer's share off the books, while the collected fees stay as they are; and a
claim of a small balance sweeps up what belongs to others. In a run whose steps are
covered, in the sense of `Covered`, what is owed is always held.
-/

import Agora.EventRegistry.System
import Agora.TicketPayment.Reachable

namespace Agora.TicketPayment

open Soroban EventRegistry

variable {Registry : Type} {host : Host}

/-! ### What is owed -/

/-- The highest bid of an auction that is not closed. -/
def openBid (auctions : Auctions) (key : EventId × TierId) : Int :=
  if isAuctionClosed auctions key.1 key.2 then 0
  else ((auctions.highestBid.get key).map (·.amount)).getD 0

noncomputable def openBids (auctions : Auctions) : Int :=
  ∑ᶠ key, openBid auctions key

noncomputable def owedToOrganizers (books : Books) : Int :=
  ∑ᶠ eventId, max 0 (books.getEventBalance eventId).organizerAmount

/-- What the contract owes when it deals in one token only. -/
noncomputable def owed (world : World Registry) (token : Address) : Int :=
  owedToOrganizers world.books + world.books.getTotalFeesCollectedByToken token +
    openBids world.auctions

/-! ### Covered steps -/

/-- A refund takes no more tokens than it takes off the organizer's amount. -/
def Backed (organizerAmount paid organizerBack : Int) : Prop :=
  paid + max 0 (organizerAmount - organizerBack) ≤ max 0 organizerAmount

instance (organizerAmount paid organizerBack : Int) :
    Decidable (Backed organizerAmount paid organizerBack) :=
  inferInstanceAs (Decidable (_ ≤ _))

/-- The refunds of a batch are backed together. -/
def BatchBacked (world : World Registry) (eventId : EventId) (items : List BatchItem) : Prop :=
  Backed (world.books.getEventBalance eventId).organizerAmount (refundTotal items)
    (organizerTotal items)

/-- The refund of a stored payment is backed, whatever restocking fee is withheld. -/
def RefundBacked [RegistryApi Registry] (env : Env host) (world : World Registry)
    (paymentId : PaymentId) : Prop :=
  ∀ payment ∈ world.tickets.getPayment paymentId,
    ∀ event ∈ RegistryApi.getEvent world.registry payment.eventId,
      Backed (world.books.getEventBalance payment.eventId).organizerAmount
        (max (payment.amount - effectiveRestockingFee env event payment.amount) 0)
        (payment.organizerAmount - effectiveRestockingFee env event payment.amount)

instance [RegistryApi Registry] (env : Env host) (world : World Registry) (paymentId : PaymentId) :
    Decidable (RefundBacked env world paymentId) :=
  inferInstanceAs (Decidable (∀ payment ∈ world.tickets.getPayment paymentId,
    ∀ event ∈ RegistryApi.getEvent world.registry payment.eventId, Backed _ _ _))

/-- The condition on a step: one token, fees of at most the whole price, refunds that are backed,
no sweeping claim, and no lower bid on an auction that is closed already. -/
def Covered [RegistryApi Registry] (token : Address)
    (world : World Registry) : Action host Registry → Prop
  | .call env (.processPayment purchase) => purchase.tokenAddress = token ∧
      ∀ event ∈ RegistryApi.getEvent world.registry purchase.eventId,
        feeBps env world.settings event ≤ maxBps
  | .call env (.refund _ paymentId) => RefundBacked env world paymentId
  | .call _ (.claimCancellationRefund paymentId) =>
      ∀ payment ∈ world.tickets.getPayment paymentId,
        Backed (world.books.getEventBalance payment.eventId).organizerAmount payment.amount
          payment.organizerAmount
  | .call env (.triggerBulkRefund eventId batchSize) =>
      BatchBacked world eventId (bulkItems env world eventId batchSize)
  | .call _ (.issuePartialRefund eventId percentageBps batchSize) =>
      BatchBacked world eventId (partialItems world eventId percentageBps batchSize)
  | .call env (.triggerDisputeRefundCascade eventId) =>
      BatchBacked world eventId (cascadeItems env world eventId)
  | .call _ (.claimRevenue eventId claimed) =>
      ¬Sweeps (world.tokens.balance claimed host.contract) (world.books.getEventBalance eventId)
  | .call _ (.placeBid eventId tierId bid) => bid.tokenAddress = token ∧
      (isAuctionClosed world.auctions eventId tierId = true →
        ∀ previous ∈ world.auctions.highestBid.get (eventId, tierId),
          previous.amount ≤ bid.amount)
  | .call _ (.closeAuction _ eventId _) =>
      ∀ event ∈ RegistryApi.getEvent world.registry eventId, hammerFeeBps event ≤ maxBps
  | _ => True

/-! ### How the sums change -/

variable {world next : World Registry} {change : Change} {eventId : EventId}

/-- A step that touches the organizer's amount of one event only. -/
theorem owedToOrganizers_of_does (does : Does host change world next)
    (only : ∀ other, other ≠ eventId → posted change.lines (.organizer other) = 0) :
    owedToOrganizers next.books = owedToOrganizers world.books +
      (max 0 ((world.books.getEventBalance eventId).organizerAmount +
          posted change.lines (.organizer eventId)) -
        max 0 (world.books.getEventBalance eventId).organizerAmount) := by
  have after (other : EventId) : (next.books.getEventBalance other).organizerAmount =
      (world.books.getEventBalance other).organizerAmount +
        posted change.lines (.organizer other) :=
    congrFun does.ledger (.organizer other)
  unfold owedToOrganizers
  rw [finsum_change (fun other => max 0 (world.books.getEventBalance other).organizerAmount) _
    eventId (world.books.balances.hasFiniteSupport
      (fun _ balance => max 0 (balance.getD ⟨0, 0, 0⟩).organizerAmount) fun _ => rfl)]
  · rw [after eventId]
  · intro other different
    show max 0 (next.books.getEventBalance other).organizerAmount = _
    rw [after other, only other different, add_zero]

/-- The open bids after a change of one auction. -/
theorem openBids_change (before after : Auctions) (key : EventId × TierId)
    (same : ∀ other, other ≠ key → openBid after other = openBid before other) :
    openBids after = openBids before + (openBid after key - openBid before key) := by
  refine finsum_change _ _ key ?_ same
  refine before.highestBid.finite.subset fun other member unbound => member ?_
  show openBid before other = 0
  simp [openBid, unbound]

theorem openBid_setHighestBid (auctions : Auctions) (eventId : EventId) (tierId : TierId)
    (bid : HighestBid) (key : EventId × TierId) :
    openBid (setHighestBid eventId tierId bid auctions) key =
      if key = (eventId, tierId) then
        if isAuctionClosed auctions eventId tierId then 0 else bid.amount
      else openBid auctions key := by
  by_cases same : key = (eventId, tierId)
  · subst same
    simp only [openBid, setHighestBid, Store.get_set_self, Option.map_some, Option.getD_some,
      if_true]
    rfl
  · simp only [openBid, setHighestBid, Store.get_set, same, if_false]
    rfl

theorem openBid_setAuctionClosed (auctions : Auctions) (eventId : EventId) (tierId : TierId)
    (key : EventId × TierId) :
    openBid (setAuctionClosed eventId tierId auctions) key =
      if key = (eventId, tierId) then 0 else openBid auctions key := by
  by_cases same : key = (eventId, tierId)
  · subst same
    simp [openBid, setAuctionClosed, isAuctionClosed]
  · rw [if_neg same]
    simp [openBid, setAuctionClosed, isAuctionClosed, Store.get_set, same]

/-- What a change moves in one token, when it touches the organizer's amount of one event only. -/
structure Flow (token : Address) (eventId : EventId) (change : Change)
    (organizer fees held : Int) : Prop where
  only : ∀ other, other ≠ eventId → posted change.lines (.organizer other) = 0
  organizer : posted change.lines (.organizer eventId) = organizer
  fees : posted change.lines (.fees token) = fees
  held : posted change.lines (.held token) = held

variable {token : Address} {organizer : Int}

section

variable {fees held : Int} (does : Does host change world next)
  (flow : Flow token eventId change organizer fees held)
  (solvent : owed world token ≤ world.tokens.balance token host.contract)

include does flow solvent

/-- A step keeps the contract solvent when what it owes more is no more than what it takes in. -/
theorem owed_of_flow
    (enough : max 0 ((world.books.getEventBalance eventId).organizerAmount + organizer) -
        max 0 (world.books.getEventBalance eventId).organizerAmount + fees +
        (openBids (change.auctions world.auctions) - openBids world.auctions) ≤ held) :
    owed next token ≤ next.tokens.balance token host.contract := by
  have feesAfter : next.books.getTotalFeesCollectedByToken token =
      world.books.getTotalFeesCollectedByToken token + posted change.lines (.fees token) :=
    congrFun does.ledger (.fees token)
  have heldAfter : next.tokens.balance token host.contract =
      world.tokens.balance token host.contract + posted change.lines (.held token) :=
    congrFun does.ledger (.held token)
  rw [owed, owedToOrganizers_of_does does flow.only, flow.organizer, feesAfter, flow.fees,
    does.auctions, heldAfter, flow.held]
  rw [owed] at solvent
  omega

/-- The same where the auctions stay as they are. -/
theorem owed_of_money (same : change.auctions = id)
    (enough : max 0 ((world.books.getEventBalance eventId).organizerAmount + organizer) -
        max 0 (world.books.getEventBalance eventId).organizerAmount + fees ≤ held) :
    owed next token ≤ next.tokens.balance token host.contract := by
  refine owed_of_flow does flow solvent ?_
  rwa [same, id, sub_self, add_zero]

end

/-! ### The invariant -/

/-- What holds along a covered run: the contract deals in one token and can pay what it owes. -/
structure Solvent (host : Host) (token : Address) (world : World Registry) : Prop where
  wellformed : Wellformed host world
  records : world.tickets.Every fun _ payment => payment.tokenAddress = token
  bids : ∀ key bid, world.auctions.highestBid.get key = some bid → bid.tokenAddress = token
  enough : owed world token ≤ world.tokens.balance token host.contract

theorem solvent_fresh {registry : Registry} :
    Solvent host token (.fresh registry) where
  wellformed := wellformed_fresh registry
  records := Tickets.every_empty _
  bids := nofun
  enough := by
    simp [owed, owedToOrganizers, openBids, openBid, World.fresh, Books.fresh,
      Books.getEventBalance, Books.getTotalFeesCollectedByToken, Tokens.none, isAuctionClosed]

variable {action : Action host Registry}

section

variable [RegistryApi Registry] (solvent : Solvent host token world)
  (covered : Covered token world action)
  (effect : Effect world action change)

include solvent covered effect

theorem Effect.records_token :
    (change.tickets world.tickets).Every fun _ payment => payment.tokenAddress = token := by
  refine effect.every_of_issued solvent.wellformed.keyed solvent.records ?_ ?_ ?_
  · intro paymentId payment record same holds
    rw [same.terms.tokenAddress, holds]
  · rintro env purchase sale index rfl of
    exact covered.1
  · rintro env paymentId eventId tierId event bid fee rfl of
    exact solvent.bids _ bid of.bidEq

theorem Effect.bids_token (key : EventId × TierId) (bid : HighestBid)
    (found : (change.auctions world.auctions).highestBid.get key = some bid) :
    bid.tokenAddress = token := by
  cases effect with
  | bid env eventId tierId placed outside nonneg =>
    exact Store.forall_set solvent.bids covered.1 key bid found
  | _ => exact solvent.bids key bid found

end

/-! ### The batches -/

/-- What is known of the payments that a batch refunds. -/
def OutsideIn (host : Host) (token : Address) (payment : Payment) : Prop :=
  payment.tokenAddress = token ∧ payment.buyerAddress ≠ host.contract

theorem outsideIn_stable {host : Host} :
    StableUnderRefund (OutsideIn host token) := by
  intro payment record same sameBuyer holds
  rw [OutsideIn, same.tokenAddress, sameBuyer]
  exact holds

theorem Solvent.outsideIn (solvent : Solvent host token world) :
    world.tickets.Every fun _ => OutsideIn host token :=
  fun paymentId payment stored => ⟨solvent.records paymentId payment stored,
    (solvent.wellformed.records paymentId payment stored).buyer⟩

variable {items : List BatchItem}

theorem windowChange_flow (known : ∀ item ∈ items, OutsideIn host token item.payment) :
    Flow token eventId (windowChange host eventId items) (-organizerTotal items) 0
      (-refundTotal items) := by
  have held : posted (items.flatMap (itemLines host)) (.held token) = -refundTotal items := by
    refine posted_items_neg fun item member => ?_
    obtain ⟨sameToken, outside⟩ := known item member
    simp [sameToken, outside]
  refine ⟨fun other different => ?_, ?_, posted_windowChange_fees items eventId, ?_⟩
  · rw [posted_windowChange_organizer, if_neg different.symm]
  · rw [posted_windowChange_organizer, if_pos rfl]
  · simp [windowChange, held]

theorem cascadeChange_flow (known : ∀ item ∈ items, OutsideIn host token item.payment) :
    Flow token eventId (cascadeChange host eventId items) (-organizerTotal items) 0
      (-refundTotal items) where
  only other different := by rw [posted_cascadeChange_organizer, if_neg different.symm]
  organizer := by rw [posted_cascadeChange_organizer, if_pos rfl]
  fees := posted_items_zero (by simp)
  held := by
    refine posted_items_neg fun item member => ?_
    obtain ⟨sameToken, outside⟩ := known item member
    simp [sameToken, outside]

/-! ### The steps -/

section Flows

variable {env : Env host}

theorem Sale.change_flow {purchase : Purchase} (sale : Sale)
    (sameToken : purchase.tokenAddress = token) :
    Flow token purchase.eventId (sale.change env purchase) sale.split.organizerAmount
      sale.split.platformFee
      (sale.split.effectiveTotal + (rewardLine host purchase sale.split).2) := by
  subst sameToken
  refine ⟨fun other different => ?_, ?_, ?_, ?_⟩
  · simp [Ne.symm different]
  · simp
  · simp
  · simp

theorem flow_of_no_lines {change : Change} (none : change.lines = []) :
    Flow token "" change 0 0 0 := by
  refine ⟨fun other different => ?_, ?_, ?_, ?_⟩ <;> rw [none, posted_nil]

variable {paymentId : PaymentId} {payment : Payment}

theorem refundLines_flow {tickets : Tickets → Tickets} {refund organizerBack : Int}
    (sameToken : payment.tokenAddress = token) :
    Flow token payment.eventId
      { lines := refundLines paymentId payment refund organizerBack, tickets,
        callsRegistry := true }
      (-organizerBack) 0 (-max refund 0) := by
  subst sameToken
  refine ⟨fun other different => ?_, ?_, ?_, ?_⟩
  · simp [Ne.symm different]
  · simp
  · simp
  · simp

variable {fee : Int}

theorem transferChange_flow {target : Address} (sameToken : payment.tokenAddress = token) :
    Flow token payment.eventId (transferChange paymentId payment target fee) (max fee 0) 0
      (max fee 0) := by
  subst sameToken
  refine ⟨fun other different => ?_, ?_, ?_, ?_⟩
  · simp [Ne.symm different]
  · simp
  · simp
  · simp

theorem payoutLines_flow {used : Address} {sent payout organizer platform : Int} :
    Flow token eventId (.posting (payoutLines eventId used sent payout organizer platform))
      (-organizer) 0 (if used = token then -sent else 0) := by
  refine ⟨fun other different => ?_, ?_, ?_, ?_⟩
  · simp [Ne.symm different]
  · simp
  · simp
  · simp

variable {tierId : TierId} {bid : HighestBid}

theorem closingChange_flow (sameToken : bid.tokenAddress = token) :
    Flow token eventId (closingChange env paymentId eventId tierId bid fee) (bid.amount - fee) fee
      0 := by
  subst sameToken
  refine ⟨fun other different => ?_, ?_, ?_, ?_⟩
  · simp [Ne.symm different]
  · simp
  · simp
  · simp

theorem resale_enough {buyer payee used : Address} {listing : ResaleListing} {royalty : Int}
    (does : Does host (resaleChange host payee paymentId buyer listing payment used royalty) world
      next) (of : ResaleOf env world paymentId buyer listing payment used royalty)
    (sound : world.settings.Sound host)
    (solvent : owed world token ≤ world.tokens.balance token host.contract) :
    owed next token ≤ next.tokens.balance token host.contract := by
  obtain ⟨royaltyNonneg, royaltyLe⟩ := royalty_bounds sound of.askPrice_nonneg of.royaltyEq
  have flow : Flow token "" (resaleChange host payee paymentId buyer listing payment used royalty)
      0 0 (if used = token then listing.askPrice +
        (-(if listing.seller = host.contract then 0 else max (listing.askPrice - royalty) 0) +
          -(if payee = host.contract then 0 else max royalty 0)) else 0) := by
    refine ⟨fun other different => ?_, ?_, ?_, ?_⟩
    · simp
    · simp
    · simp
    · by_cases same : used = token <;> simp [same]
  refine owed_of_money does flow solvent rfl ?_
  have seller : (if listing.seller = host.contract then 0 else
      max (listing.askPrice - royalty) 0) ≤ listing.askPrice - royalty := by
    split <;> omega
  have organizer : (if payee = host.contract then 0 else max royalty 0) ≤ royalty := by
    split <;> omega
  split <;> omega

theorem bid_enough
    (does : Does host (bidChange host eventId tierId bid
      (world.auctions.highestBid.get (eventId, tierId))) world next)
    (solvent : Solvent host token world) (sameToken : bid.tokenAddress = token)
    (higher : isAuctionClosed world.auctions eventId tierId = true →
      ∀ previous ∈ world.auctions.highestBid.get (eventId, tierId),
        previous.amount ≤ bid.amount) (nonneg : 0 ≤ bid.amount) :
    owed next token ≤ next.tokens.balance token host.contract := by
  have opened := openBids_change world.auctions
    (setHighestBid eventId tierId bid world.auctions) (eventId, tierId)
    (fun other different => by rw [openBid_setHighestBid, if_neg different])
  rw [openBid_setHighestBid, if_pos rfl] at opened
  have flow : Flow token "" (bidChange host eventId tierId bid
      (world.auctions.highestBid.get (eventId, tierId))) 0 0
      (bid.amount -
        ((world.auctions.highestBid.get (eventId, tierId)).map (·.amount)).getD 0) := by
    cases found : world.auctions.highestBid.get (eventId, tierId) with
    | none =>
      refine ⟨fun other different => ?_, ?_, ?_, ?_⟩ <;> simp [sameToken]
    | some previous =>
      have outside := (solvent.wellformed.bids _ previous found).1
      have previousToken := solvent.bids _ previous found
      refine ⟨fun other different => ?_, ?_, ?_, ?_⟩ <;>
        simp [sameToken, previousToken, outside, sub_eq_add_neg]
  refine owed_of_flow does flow solvent.enough ?_
  have before : openBid world.auctions (eventId, tierId) =
      if isAuctionClosed world.auctions eventId tierId then 0
      else ((world.auctions.highestBid.get (eventId, tierId)).map (·.amount)).getD 0 := rfl
  simp only [bidChange]
  cases closed : isAuctionClosed world.auctions eventId tierId with
  | false =>
    simp only [closed, Bool.false_eq_true, if_false] at opened before
    omega
  | true =>
    simp only [closed, if_true] at opened before
    have covered : ((world.auctions.highestBid.get (eventId, tierId)).map (·.amount)).getD 0 ≤
        bid.amount := by
      cases found : world.auctions.highestBid.get (eventId, tierId) with
      | none => exact nonneg
      | some previous => exact higher closed previous found
    omega

theorem closing_enough [RegistryApi Registry] {event : EventInfo}
    (does : Does host (closingChange env paymentId eventId tierId bid fee) world next)
    (of : ClosingOf world eventId tierId event bid fee) (solvent : Solvent host token world)
    (bounded : hammerFeeBps event ≤ maxBps) :
    owed next token ≤ next.tokens.balance token host.contract := by
  have opened := openBids_change world.auctions (setAuctionClosed eventId tierId world.auctions)
    (eventId, tierId) (fun other different => by rw [openBid_setAuctionClosed, if_neg different])
  have before : openBid world.auctions (eventId, tierId) = bid.amount := by
    simp [openBid, of.opened, of.bidEq]
  rw [openBid_setAuctionClosed, if_pos rfl, before] at opened
  have feeLe : fee ≤ bid.amount := by
    rw [of.feeEq]
    exact (tdiv_share_bounds (solvent.wellformed.bids _ bid of.bidEq).2 (Int.natCast_nonneg _)
      (Int.ofNat_le.mpr bounded)).2
  refine owed_of_flow does (closingChange_flow (solvent.bids _ bid of.bidEq)) solvent.enough ?_
  simp only [closingChange]
  omega

end Flows

variable [RegistryApi Registry]

theorem step_enough (solvent : Solvent host token world) (covered : Covered token world action)
    (effect : Effect world action change) (does : Does host change world next) :
    owed next token ≤ next.tokens.balance token host.contract := by
  have enough := solvent.enough
  have known {select : Selection} (refunding : Selection.Refunding select) :=
    solvent.outsideIn.members outsideIn_stable refunding
  cases effect with
  | nothing | registry | configured | confirm | checkIn | poap | listing =>
    exact owed_of_money does (flow_of_no_lines rfl) enough rfl (by omega)
  | inflow move used amount nonneg unreached =>
    have flow : Flow token "" (.posting [(.held used, amount)]) 0 0
        (if used = token then amount else 0) := by
      refine ⟨fun other different => ?_, ?_, ?_, ?_⟩ <;> simp
    exact owed_of_money does flow enough rfl (by split <;> omega)
  | sale env purchase sale of =>
    obtain ⟨sameToken, bounded⟩ := covered
    obtain ⟨gross, rebate, reward, terms⟩ := splitPayment_terms of.split
    obtain ⟨organizerNonneg, rewardNonneg, parts⟩ :=
      terms.covered of.price_nonneg (bounded sale.event of.event)
    have paid : -sale.split.referralReward ≤ (rewardLine host purchase sale.split).2 := by
      have := rewardPaid_bounds purchase sale.split
      simp only [rewardLine]
      split <;> omega
    exact owed_of_money does (sale.change_flow sameToken) enough rfl (by omega)
  | refund env path paymentId payment event refundable found =>
    have backed := covered payment refundable.stored event found
    simp only [Backed] at backed
    have inToken := solvent.records paymentId payment refundable.stored
    exact owed_of_money does (refundLines_flow inToken) enough rfl (by omega)
  | cancellationRefund env paymentId payment refundable nonneg =>
    have backed := covered payment refundable.stored
    simp only [Backed] at backed
    have inToken := solvent.records paymentId payment refundable.stored
    exact owed_of_money does (refundLines_flow inToken) enough rfl (by omega)
  | bulkRefund env eventId batchSize nonneg =>
    have backed : Backed _ _ _ := covered
    simp only [Backed] at backed
    exact owed_of_money does (windowChange_flow (known (bulkItem_refunding _) _))
      enough rfl (by omega)
  | partialRefund env eventId percentageBps batchSize nonneg =>
    have backed : Backed _ _ _ := covered
    simp only [Backed] at backed
    exact owed_of_money does (windowChange_flow (known (partialItem_refunding _) _))
      enough rfl (by omega)
  | cascade env eventId nonneg =>
    have backed : Backed _ _ _ := covered
    simp only [Backed] at backed
    exact owed_of_money does (cascadeChange_flow (known (bulkItem_refunding _) _))
      enough rfl (by omega)
  | transfer env paymentId target salePrice payment fee of =>
    exact owed_of_money does (transferChange_flow (solvent.records paymentId payment of.stored))
      enough rfl (by omega)
  | resale env paymentId buyer maxPrice listing payment used royalty of =>
    exact resale_enough does of solvent.wellformed.settings enough
  | withdrawal env eventId used amount nonneg bounded =>
    exact owed_of_money does payoutLines_flow enough rfl (by split <;> omega)
  | claim env eventId used event found =>
    rw [claimPayout_eq_iff.mpr covered] at does
    refine owed_of_money does payoutLines_flow enough rfl ?_
    have sent : (if event.paymentAddress = host.contract then 0 else
        max (world.books.getEventBalance eventId).organizerAmount 0) ≤
        max (world.books.getEventBalance eventId).organizerAmount 0 := by
      split <;> omega
    split <;> omega
  | settlement env eventId =>
    have flow : Flow token "" (.posting [(.platform eventId,
        -(world.books.getEventBalance eventId).platformFee)]) 0 0 0 := by
      refine ⟨fun other different => ?_, ?_, ?_, ?_⟩ <;> simp
    exact owed_of_money does flow enough rfl (by omega)
  | feeWithdrawal env amount used wallet positive walletEq =>
    have outside : wallet ≠ host.contract := fun own =>
      solvent.wellformed.settings.wallet (own ▸ walletEq)
    have flow : Flow token "" (feeChange host used wallet amount) 0
        (if used = token then -amount else 0) (if used = token then -amount else 0) := by
      refine ⟨fun other different => ?_, ?_, ?_, ?_⟩ <;> simp [outside]
    exact owed_of_money does flow enough rfl (by omega)
  | bid env eventId tierId bid outside nonneg =>
    exact bid_enough does solvent covered.1 covered.2 nonneg
  | closing env paymentId eventId tierId event bid fee of =>
    exact closing_enough does of solvent (covered event of.eventEq)

theorem step_solvent (token : Address) (world : World Registry) (action : Action host Registry)
    (covered : Covered token world action) (solvent : Solvent host token world) :
    Solvent host token (step world action) := by
  obtain ⟨change, effect, does⟩ := step_takes solvent.wellformed.escrowState action
  refine ⟨step_wellformed world action solvent.wellformed, ?_, ?_,
    step_enough solvent covered effect does⟩
  · rw [does.tickets]
    exact effect.records_token solvent covered
  · rw [does.auctions]
    exact effect.bids_token solvent covered

omit [RegistryApi Registry] in
/-- The collected fees are owed at least. -/
theorem fees_le_owed (wellformed : Wellformed host world) :
    world.books.getTotalFeesCollectedByToken token ≤ owed world token := by
  have organizers : 0 ≤ owedToOrganizers world.books :=
    finsum_nonneg fun eventId => le_max_left _ _
  have bids : 0 ≤ openBids world.auctions := by
    refine finsum_nonneg fun key => ?_
    unfold openBid
    split
    · exact le_rfl
    · cases found : world.auctions.highestBid.get key with
      | none => exact le_rfl
      | some bid => exact (wellformed.bids key bid found).2
  rw [owed]
  omega

/-- In every state of a covered run the contract holds what it owes. -/
theorem owed_le_held_of_covered (registry : Registry) (token : Address)
    (actions : List (Action host Registry))
    (covered : Respects step (Covered token) (.fresh registry) actions) :
    owed (reached registry actions) token ≤
      (reached registry actions).tokens.balance token host.contract :=
  (respects_invariant (Solvent host token) (step_solvent token) _ actions covered
    solvent_fresh).enough

/-- A sale and a refund without any fee. -/
theorem owed_le_held_free_concert :
    owed (reached (registryWith freeConcert) (setUp ++ saleAndRefund)) usdcAddress ≤
      (reached (registryWith freeConcert) (setUp ++ saleAndRefund)).tokens.balance usdcAddress
        stage.contract := by
  refine owed_le_held_of_covered _ _ _ ⟨trivial, trivial, trivial, trivial, trivial, ⟨rfl, ?_⟩,
    (by decide : RefundBacked _ _ _), trivial⟩
  decide

/-- A sale with a fee and its refund: the fee stays on the books, and nothing is left to pay it
from. -/
theorem owed_gt_held_refunded_concert :
    (reached (registryWith concert) (setUp ++ saleAndRefund)).tokens.balance usdcAddress
        stage.contract <
      owed (reached (registryWith concert) (setUp ++ saleAndRefund)) usdcAddress := by
  refine lt_of_lt_of_le ?_ (fees_le_owed (reached_wellformed _ _))
  decide

/-! ### What leaves the contract -/

/-- The calls that can pay tokens out of the contract. -/
def Action.PaysOut : Action host Registry → Prop
  | .call _ (.processPayment _) | .call _ (.refund _ _) | .call _ (.claimCancellationRefund _)
  | .call _ (.triggerBulkRefund _ _) | .call _ (.issuePartialRefund _ _ _)
  | .call _ (.triggerDisputeRefundCascade _) | .call _ (.purchaseResaleTicket _ _ _)
  | .call _ (.withdrawOrganizerFunds _ _) | .call _ (.claimRevenue _ _)
  | .call _ (.withdrawPlatformFees _ _) | .call _ (.placeBid _ _ _) => True
  | _ => False

theorem balance_le_step {action : Action host Registry} (wellformed : Wellformed host world)
    (keeps : ¬action.PaysOut) (token : Address) :
    world.tokens.balance token host.contract ≤
      (step world action).tokens.balance token host.contract := by
  obtain ⟨change, effect, does⟩ := step_takes wellformed.escrowState action
  have after : (step world action).tokens.balance token host.contract =
      world.tokens.balance token host.contract + posted change.lines (.held token) :=
    congrFun does.ledger (.held token)
  suffices nonneg : 0 ≤ posted change.lines (.held token) by omega
  cases effect with
  | sale | refund | cancellationRefund | bulkRefund | partialRefund | cascade | resale | withdrawal
  | claim | feeWithdrawal | bid => exact absurd trivial keeps
  | inflow move used amount nonneg =>
    have line : posted [(Account.held used, amount)] (.held token) =
        if used = token then amount else 0 := by simp
    refine line.symm ▸ ?_
    split <;> omega
  | transfer env paymentId target salePrice payment fee =>
    have line : posted (transferLines payment fee) (.held token) =
        if payment.tokenAddress = token then max fee 0 else 0 := by simp
    refine line.symm ▸ ?_
    split <;> omega
  | settlement | closing => simp
  | _ => exact le_rfl

/-- Whatever has happened before, what the contract holds of a token does not fall in a run
without these calls. -/
theorem held_kept_without_payouts (registry : Registry)
    (earlier later : List (Action host Registry)) (kept : ∀ action ∈ later, ¬action.PaysOut)
    (token : Address) :
    (reached registry earlier).tokens.balance token host.contract ≤
      (runActions step (reached registry earlier) later).tokens.balance token host.contract :=
  (respects_invariant (fun world => Wellformed host world ∧
      (reached registry earlier).tokens.balance token host.contract ≤
        world.tokens.balance token host.contract)
    (fun world action keeps both => ⟨step_wellformed world action both.1,
      both.2.trans (balance_le_step both.1 keeps token)⟩) _ later (respects_of_forall kept _)
    ⟨reached_wellformed registry earlier, le_rfl⟩).2

/-- The ticket is handed over at a fee, and the fee of the platform is settled. -/
theorem held_kept_after_sale :
    let sold := reached (registryWith concert) ticketConfirmed
    let kept := runActions step sold
      [.call (allSign 3) (.transferTicket "ticket" bobAddress none),
        .call (allSign 4) (.settlePlatformFees "concert")]
    let held world := World.tokens world |>.balance usdcAddress stage.contract
    let fee world := World.books world |>.getEventBalance "concert" |>.platformFee
    (held sold, held kept, fee sold, fee kept) = (1000, 1010, 50, 0) ∧ held sold ≤ held kept :=
  ⟨by decide, held_kept_without_payouts _ _ _ (by simp [Action.PaysOut]) _⟩

end Agora.TicketPayment

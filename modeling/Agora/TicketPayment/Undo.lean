/-
This file asks whether a full refund undoes a purchase: a single ticket is sold, the
event is cancelled, in this contract or in the registry, and the buyer claims the
price back.

The balance of the event, the escrow counters, the supply and the tier always come
back to where they were. Three things need not. The fees collected keep the platform
fee of the sale, the registry keeps counting the ticket for its owner, and the refund
pays the price of the ticket although a discount or a rebate may have lowered what was
taken in. The main result says exactly when none of this matters.
-/

import Agora.EventRegistry.System

namespace Agora.TicketPayment

open Soroban EventRegistry

variable {host : Host}

/-! ### When the platform keeps nothing -/

/-- The platform fee on a price, before rebate and reward. -/
def grossFee (price : Int) (feeBps : Nat) : Int :=
  (price * feeBps).tdiv maxBps

section Terms

variable {price gross rebate reward : Int} {feeBps loyaltyBps : Nat} {rate : Option Nat}
  {split : Split}

/-- A share rounds down to nothing when the product stays under the denominator. -/
theorem tdiv_maxBps_eq_zero_iff {product : Int} (nonneg : 0 ≤ product) :
    product.tdiv maxBps = 0 ↔ product < maxBps := by
  rw [Int.tdiv_eq_ediv_of_nonneg nonneg]
  show product / 10000 = 0 ↔ product < 10000
  omega

/-- A share reaches the whole when the part does. -/
theorem le_tdiv_maxBps_iff {whole : Int} {part : Nat} (positive : 0 < whole) :
    whole ≤ (whole * part).tdiv maxBps ↔ maxBps ≤ part := by
  have nonneg : 0 ≤ whole * part := Int.mul_nonneg positive.le (Int.natCast_nonneg _)
  rw [Int.tdiv_eq_ediv_of_nonneg nonneg, Int.le_ediv_iff_mul_le (by decide),
    Int.mul_le_mul_left positive, Int.ofNat_le]

variable (terms : SplitTerms price feeBps loyaltyBps rate split gross rebate reward)

include terms

theorem SplitTerms.rebate_eq_zero_iff (nonneg : 0 ≤ price) (bounded : loyaltyBps < maxBps) :
    rebate = 0 ↔ gross * loyaltyBps < maxBps := by
  have grossNonneg := terms.gross_nonneg nonneg
  have productNonneg : 0 ≤ gross * loyaltyBps :=
    Int.mul_nonneg grossNonneg (Int.natCast_nonneg _)
  rw [terms.rebateEq, ← tdiv_maxBps_eq_zero_iff productNonneg]
  split
  · rw [min_eq_left]
    exact (tdiv_share_bounds grossNonneg (Int.natCast_nonneg _)
      (Int.ofNat_le.mpr bounded.le)).2
  · rename_i none
    obtain rfl : loyaltyBps = 0 := by omega
    simp

/-- The rebate is only a part of the fee. -/
theorem SplitTerms.rebate_lt (bounded : loyaltyBps < maxBps) (positive : 0 < gross) :
    rebate < gross := by
  rw [terms.rebateEq]
  split
  · refine lt_of_le_of_lt (min_le_left _ _) (lt_of_not_ge fun whole => ?_)
    have := (le_tdiv_maxBps_iff positive).mp whole
    omega
  · exact positive

/-- The platform keeps nothing of a sale when there is no fee or the referrer takes it all. -/
theorem SplitTerms.platformFee_eq_zero_iff (nonneg : 0 ≤ price) (bounded : loyaltyBps < maxBps) :
    split.platformFee = 0 ↔ gross = 0 ∨ maxBps ≤ rate.getD 0 := by
  obtain ⟨rewardNonneg, rewardLe⟩ := terms.reward_bounds nonneg
  obtain ⟨rebateNonneg, rebateLe⟩ := terms.rebate_bounds nonneg
  rw [terms.platformFeeEq]
  rcases (terms.gross_nonneg nonneg).eq_or_lt with none | positive
  · exact iff_of_true (by omega) (.inl none.symm)
  · have fee : 0 < gross - rebate := by
      have := terms.rebate_lt bounded positive
      omega
    have kept : gross - rebate - reward = 0 ↔ gross - rebate ≤ reward := by omega
    rw [kept, terms.rewardEq, or_iff_right positive.ne']
    cases rate with
    | none =>
      refine iff_of_false ?_ (by decide)
      show ¬gross - rebate ≤ 0
      omega
    | some bps =>
      show gross - rebate ≤ min _ _ ↔ maxBps ≤ bps
      rw [le_min_iff, and_iff_left le_rfl]
      exact le_tdiv_maxBps_iff fee

/-- A referrer who takes the whole fee is paid when there is a fee and the organizer has enough
left to pay it. -/
theorem SplitTerms.referralReward_pos_iff (nonneg : 0 ≤ price) (bounded : loyaltyBps < maxBps)
    (all : split.platformFee = 0) : 0 < split.referralReward ↔ 0 < gross ∧ gross < price := by
  obtain ⟨rebateNonneg, rebateLe⟩ := terms.rebate_bounds nonneg
  have kept := terms.platformFeeEq
  have referral := terms.referralRewardEq
  have rewardEq := terms.rewardEq
  rcases (terms.gross_nonneg nonneg).eq_or_lt with none | positive
  · refine iff_of_false ?_ (by omega)
    cases rate with
    | none =>
      simp only at referral
      omega
    | some bps =>
      simp only at referral
      omega
  · have fee := terms.rebate_lt bounded positive
    cases rate with
    | none =>
      simp only at rewardEq
      omega
    | some bps =>
      simp only at referral
      omega

end Terms

/-! ### The inventory -/

/-- A cancellation keeps what the registry counts. -/
structure KeepsStock (before after : EventRegistry.Registry) : Prop where
  userTicketCount : after.userTicketCount = before.userTicketCount
  stock : ∀ eventId event, before.events.get eventId = some event →
    ∃ record, after.events.get eventId = some record ∧ record.tiers = event.tiers ∧
      record.currentSupply = event.currentSupply

theorem KeepsStock.of_same {before after : EventRegistry.Registry}
    (userTicketCount : after.userTicketCount = before.userTicketCount)
    (events : after.events = before.events) : KeepsStock before after where
  userTicketCount := userTicketCount
  stock _ event found := ⟨event, events ▸ found, rfl, rfl⟩

theorem KeepsStock.trans {first second third : EventRegistry.Registry}
    (head : KeepsStock first second) (tail : KeepsStock second third) :
    KeepsStock first third where
  userTicketCount := tail.userTicketCount.trans head.userTicketCount
  stock eventId event found := by
    obtain ⟨middle, foundMiddle, tiers, supply⟩ := head.stock eventId event found
    obtain ⟨last, foundLast, lastTiers, lastSupply⟩ := tail.stock eventId middle foundMiddle
    exact ⟨last, foundLast, lastTiers.trans tiers, lastSupply.trans supply⟩

variable {registry : EventRegistry.Registry} {eventId : EventId}

theorem cancelEvent_keepsStock {signed : Address → Bool} :
    Ensures (EventRegistry.cancelEvent signed eventId) registry fun _ next =>
      KeepsStock registry next := by
  refine EventRegistry.cancelEvent_ensures.mono ?_
  rintro _ _ ⟨cancelled, foundCancelled, rfl⟩
  refine ⟨rfl, fun other event found => ?_⟩
  by_cases same : other = eventId
  · subst same
    obtain rfl : cancelled = event := Option.some.inj (foundCancelled.symm.trans found)
    exact ⟨cancelled.cancelled, by simp, rfl, rfl⟩
  · exact ⟨event, by simp [Store.get_set, same, found], rfl, rfl⟩

theorem updateLoyaltyScore_keepsStock {caller guest : Address} {tickets : Nat} {amount : Int}
    {multiplier timestamp : Nat} :
    KeepsStock registry (RegistryApi.updateLoyaltyScore registry caller guest tickets amount
      multiplier timestamp) := by
  obtain ⟨profiles, same⟩ := EventRegistry.updateLoyaltyScore_eq
  rw [same]
  exact .of_same rfl rfl

section Inventory

variable {sold stocked returned : EventRegistry.Registry} {caller : Address} {tierId : TierId}
  {user token : Address}

/-- A ticket that is sold and given back is still counted for its owner if the tier has a limit,
and leaves no other trace in the inventory. -/
theorem inventory_eq_iff
    (increment : RegistryApi.incrementInventory registry caller eventId tierId user 1 token =
      some sold)
    (keeps : KeepsStock sold stocked) {other : Address}
    (decrement : RegistryApi.decrementInventory stocked caller eventId tierId other =
      some returned) :
    ∃ event tier, Stocked registry eventId tierId event tier ∧
      (returned.inventory eventId tierId user = registry.inventory eventId tierId user ↔
        tier.maxPerUser = 0) := by
  obtain ⟨event, tier, stock, _, small, _, _, rfl⟩ := EventRegistry.ensures_of_after increment
    EventRegistry.incrementInventory_ensures
  obtain ⟨record, found, recordTiers, recordSupply⟩ := keeps.stock eventId
    (event.sold tierId tier 1) (by rw [EventRegistry.events_sold, Store.get_set_self])
  obtain ⟨lastEvent, lastTier, lastStock, _, _, rfl⟩ := EventRegistry.ensures_of_after decrement
    EventRegistry.decrementInventory_ensures
  obtain rfl : record = lastEvent := Option.some.inj (found.symm.trans lastStock.eventEq)
  have tierEq := lastStock.tierEq
  rw [recordTiers, EventRegistry.Event.sold, Table.get_set, if_pos rfl] at tierEq
  cases tierEq
  refine ⟨event, tier, stock, ?_⟩
  have count : stocked.userTicketCount.get (eventId, tierId, user) =
      (EventRegistry.countTickets eventId tierId tier user 1 registry).userTicketCount.get
        (eventId, tierId, user) := by
    rw [keeps.userTicketCount]
    rfl
  by_cases limited : 0 < tier.maxPerUser
  · refine iff_of_false (fun same => ?_) limited.ne'
    have counted := congrArg Inventory.userTicketCount same
    simp only [EventRegistry.Registry.inventory, EventRegistry.Registry.getUserTicketCount,
      EventRegistry.Registry.userTicketCount_updateEvent, count, EventRegistry.countTickets,
      if_pos limited, Store.get_set, if_true, Option.getD_some] at counted small
    omega
  · refine iff_of_true ?_ (by omega)
    simp [EventRegistry.Registry.inventory, EventRegistry.Registry.getUserTicketCount, count,
      EventRegistry.countTickets, if_neg limited, EventRegistry.Event.returned, recordSupply,
      EventRegistry.Event.sold, stock.eventEq, stock.tierEq]

end Inventory

/-! ### A sale, a cancellation and a refund -/

/-- The two places in which an event is cancelled. -/
inductive Cancellation where
  | here
  | inRegistry

def Cancellation.run (env : Env host) (eventId : EventId) :
    Cancellation → Entry EventRegistry.Registry Unit
  | .here => cancelEvent env eventId
  | .inRegistry => do
    let world ← get
    let cancelled ← orFault
      (EventRegistry.after (EventRegistry.cancelEvent env.signed eventId) world.registry) .trap
    modify (·.withRegistry cancelled)

/-- The purchase is made, the event cancelled and the price claimed back. -/
def purchaseAndRefund (sold cancelled claimed : Env host) (purchase : Purchase)
    (cancellation : Cancellation) : Entry EventRegistry.Registry Unit := do
  let _ ← processPayment sold purchase
  cancellation.run cancelled purchase.eventId
  claimCancellationRefund claimed purchase.paymentId

/-- No reward went out for the payment. -/
def Unrewarded (tickets : Tickets) (paymentId : PaymentId) : Prop :=
  ∀ payment ∈ tickets.getPayment paymentId, payment.referrer = none ∨ payment.referralAmount ≤ 0

/-- The books, the holdings and the inventory are where they were before the purchase. -/
structure Undone (host : Host) (purchase : Purchase)
    (world next : World EventRegistry.Registry) : Prop where
  eventBalance : next.books.getEventBalance purchase.eventId =
    world.books.getEventBalance purchase.eventId
  fees : next.books.getTotalFeesCollectedByToken purchase.tokenAddress =
    world.books.getTotalFeesCollectedByToken purchase.tokenAddress
  escrowTotal : next.books.activeEscrowTotal = world.books.activeEscrowTotal
  escrow : next.books.getActiveEscrowByToken purchase.tokenAddress =
    world.books.getActiveEscrowByToken purchase.tokenAddress
  held : Unrewarded next.tickets purchase.paymentId →
    next.tokens.balance purchase.tokenAddress host.contract =
      world.tokens.balance purchase.tokenAddress host.contract
  inventory : next.registry.inventory purchase.eventId purchase.ticketTierId
      purchase.ownerAddress =
    world.registry.inventory purchase.eventId purchase.ticketTierId purchase.ownerAddress

/-- The condition on a purchase in the state before it: the tier does not limit its users, the
platform keeps nothing, for want of a fee or because the referrer gets all of it, and either the
referrer is really paid or the buyer pays the price of the ticket in full. -/
def Reversible (env : Env host) (world : World EventRegistry.Registry) (purchase : Purchase) :
    Prop :=
  ∀ event ∈ world.registry.events.get purchase.eventId,
    let price := discountedPrice env world purchase
    let gross := grossFee price (feeBps env world.settings event.info)
    (∀ tier ∈ event.tiers.get purchase.ticketTierId, tier.maxPerUser = 0) ∧
      (gross = 0 ∨
        maxBps ≤ (referralRate world.settings purchase.eventId purchase.options.referrer).getD 0) ∧
      (0 < gross ∧ gross < price ∨ price = purchase.amount ∧
        gross * world.registry.getLoyaltyDiscountBps purchase.buyerAddress < maxBps)

theorem getLoyaltyDiscountBps_lt (registry : EventRegistry.Registry) (guest : Address) :
    registry.getLoyaltyDiscountBps guest < maxBps := by
  have small : maxBps = 10000 := rfl
  simp only [EventRegistry.Registry.getLoyaltyDiscountBps]
  split
  · omega
  · split
    · omega
    · split <;> omega

theorem Cancellation.run_ensures (cancellation : Cancellation) {env : Env host}
    {world : World EventRegistry.Registry} :
    Ensures (cancellation.run env eventId) world fun _ next =>
      Does host { callsRegistry := true } world next ∧
        KeepsStock world.registry next.registry := by
  cases cancellation with
  | here =>
    refine (cancelEvent_ensures.mono fun _ _ does =>
      { does with registry := fun absurdity => nomatch absurdity }).and ?_
    simp only [cancelEvent, organizerSets, ensures_rules, ensures_checks, ensures_getEvent]
    intro _ _ _ _ _
    exact .of_same rfl rfl
  | inRegistry =>
    simp only [Cancellation.run, ensures_rules]
    intro cancelled called
    exact ⟨.withRegistry cancelled, EventRegistry.ensures_of_after called cancelEvent_keepsStock⟩

/-! ### When the refund undoes the purchase -/

section Net

variable {Registry : Type} [RegistryApi Registry] {env : Env host} {world : World Registry}
  {purchase : Purchase} {sale : Sale}

/-- What a sale of a single ticket and its refund post together. -/
def netLines (env claimed : Env host) (purchase : Purchase) (sale : Sale) :
    List (Posting Account) :=
  (sale.change env purchase).lines ++ (cancellationRefundChange claimed purchase.paymentId
    (purchase.ticket sale.share env.timestamp purchase.paymentId)).lines

variable {claimed : Env host}

theorem posted_netLines_books (of : sale.Of env world purchase) (single : purchase.quantity = 1) :
    posted (netLines env claimed purchase sale) (.organizer purchase.eventId) = 0 ∧
      posted (netLines env claimed purchase sale) (.withdrawn purchase.eventId) = 0 ∧
      posted (netLines env claimed purchase sale) (.platform purchase.eventId) = 0 ∧
      posted (netLines env claimed purchase sale) .escrowTotal = 0 ∧
      posted (netLines env claimed purchase sale) (.escrow purchase.tokenAddress) = 0 := by
  have total := of.single_total single
  simp [netLines, Purchase.ticket, Purchase.record, of.single_share single, total]

theorem posted_netLines_fees (claimed : Env host) :
    posted (netLines env claimed purchase sale) (.fees purchase.tokenAddress) =
      sale.split.platformFee := by
  simp [netLines]

/-- Without a reward the contract gains what the buyer pays and loses the price of the ticket. -/
theorem posted_netLines_held (of : sale.Of env world purchase)
    (unpaid : rewardPaid purchase sale.split = 0) :
    posted (netLines env claimed purchase sale) (.held purchase.tokenAddress) =
      sale.split.effectiveTotal - purchase.amount := by
  simp [netLines, Purchase.ticket, Purchase.record, unpaid, of.amount_nonneg, sub_eq_add_neg]

/-- Without a referrer there is no reward to pay. -/
theorem rewardPaid_eq_max (of : sale.Of env world purchase) :
    rewardPaid purchase sale.split = max sale.split.referralReward 0 := by
  obtain ⟨_, _, _, terms⟩ := splitPayment_terms of.split
  unfold rewardPaid
  cases referrer : purchase.options.referrer with
  | none =>
    rw [referrer, referralRate, Option.map_none] at terms
    have none : sale.split.referralReward = 0 := terms.referralRewardEq
    simp [none]
  | some address =>
    simp only [Option.isSome_some, true_and]
    split <;> omega

end Net

section Reversible

variable {env : Env host} {world : World EventRegistry.Registry} {purchase : Purchase} {sale : Sale}

/-- The buyer pays the price of a single ticket in full when neither a discount nor a rebate
lowers it. -/
theorem effectiveTotal_eq_amount_iff (of : sale.Of env world purchase)
    (single : purchase.quantity = 1) {gross rebate reward : Int}
    (terms : SplitTerms sale.price (feeBps env world.settings sale.event)
      (world.registry.getLoyaltyDiscountBps purchase.buyerAddress)
      (referralRate world.settings purchase.eventId purchase.options.referrer) sale.split gross
      rebate reward) :
    sale.split.effectiveTotal = purchase.amount ↔ sale.price = purchase.amount ∧
      gross * world.registry.getLoyaltyDiscountBps purchase.buyerAddress < maxBps := by
  have total := of.single_total single
  obtain ⟨_, lower⟩ := of.lowers (total ▸ of.amount_nonneg)
  obtain ⟨rebateNonneg, _⟩ := terms.rebate_bounds of.price_nonneg
  rw [← terms.rebate_eq_zero_iff of.price_nonneg (getLoyaltyDiscountBps_lt _ _),
    terms.effectiveTotalEq]
  omega

theorem reversible_iff (of : sale.Of env world purchase) (single : purchase.quantity = 1)
    {event : EventRegistry.Event} {tier : Tier}
    (stock : Stocked world.registry purchase.eventId purchase.ticketTierId event tier) :
    Reversible env world purchase ↔ tier.maxPerUser = 0 ∧ sale.split.platformFee = 0 ∧
      (rewardPaid purchase sale.split = 0 → sale.split.effectiveTotal = purchase.amount) := by
  have eventEq : event.info = sale.event := by
    have found : (world.registry.events.get purchase.eventId).map EventRegistry.Event.info =
        some sale.event := of.event
    rw [stock.eventEq] at found
    exact Option.some.inj found
  obtain ⟨gross, rebate, reward, terms⟩ := splitPayment_terms of.split
  have loyal := getLoyaltyDiscountBps_lt world.registry purchase.buyerAddress
  have grossEq : grossFee sale.price (feeBps env world.settings sale.event) = gross :=
    terms.grossEq.symm
  simp only [Reversible, stock.eventEq, stock.tierEq, Option.mem_some_iff, forall_eq', eventEq,
    ← of.priceEq, grossEq]
  refine and_congr_right fun _ => ?_
  rw [← terms.platformFee_eq_zero_iff of.price_nonneg loyal]
  refine and_congr_right fun all => ?_
  have unpaid : rewardPaid purchase sale.split = 0 ↔ ¬0 < sale.split.referralReward := by
    rw [rewardPaid_eq_max of]
    omega
  rw [unpaid, terms.referralReward_pos_iff of.price_nonneg loyal all,
    effectiveTotal_eq_amount_iff of single terms, or_iff_not_imp_left]

end Reversible

section Undone

variable {sold claimed : Env host} {purchase : Purchase} {sale : Sale}
  {world next : World EventRegistry.Registry}

/-- The record that the refund leaves tells whether a reward was paid. -/
theorem unrewarded_iff (of : sale.Of sold world purchase) (single : purchase.quantity = 1)
    (stored : next.tickets.getPayment purchase.paymentId =
      some ((purchase.ticket sale.share sold.timestamp purchase.paymentId).fullyRefunded
        claimed.timestamp)) :
    Unrewarded next.tickets purchase.paymentId ↔ rewardPaid purchase sale.split = 0 := by
  rw [Unrewarded, stored]
  simp only [Option.mem_some_iff, forall_eq', Payment.fullyRefunded, Payment.refunded,
    Purchase.ticket, Purchase.record, of.single_share single]
  unfold rewardPaid
  cases purchase.options.referrer with
  | none => simp
  | some referrer =>
    simp only [reduceCtorEq, false_or, Option.isSome_some, true_and]
    split <;> omega

/-- What remains of the purchase after the refund: the fee, the count of the owner, and the
difference between the price and what the buyer paid. -/
theorem undone_iff (of : sale.Of sold world purchase) (single : purchase.quantity = 1)
    (ledger : next.ledger host =
      post (world.ledger host) (netLines sold claimed purchase sale))
    (stored : next.tickets.getPayment purchase.paymentId =
      some ((purchase.ticket sale.share sold.timestamp purchase.paymentId).fullyRefunded
        claimed.timestamp)) :
    Undone host purchase world next ↔
      next.registry.inventory purchase.eventId purchase.ticketTierId purchase.ownerAddress =
          world.registry.inventory purchase.eventId purchase.ticketTierId
            purchase.ownerAddress ∧
        sale.split.platformFee = 0 ∧
        (rewardPaid purchase sale.split = 0 → sale.split.effectiveTotal = purchase.amount) := by
  have read (account : Account) : next.ledger host account =
      world.ledger host account + posted (netLines sold claimed purchase sale) account := by
    rw [ledger, post_apply]
  obtain ⟨organizer, withdrawn, platform, escrowTotal, escrow⟩ := posted_netLines_books of single
  have unmoved {account : Account}
      (zero : posted (netLines sold claimed purchase sale) account = 0) :
      next.ledger host account = world.ledger host account := by
    rw [read, zero, add_zero]
  have fees : next.books.getTotalFeesCollectedByToken purchase.tokenAddress =
      world.books.getTotalFeesCollectedByToken purchase.tokenAddress + sale.split.platformFee :=
    (read (.fees purchase.tokenAddress)).trans (by rw [posted_netLines_fees]; rfl)
  have held (unpaid : rewardPaid purchase sale.split = 0) :
      next.tokens.balance purchase.tokenAddress host.contract =
        world.tokens.balance purchase.tokenAddress host.contract +
          (sale.split.effectiveTotal - purchase.amount) :=
    (read (.held purchase.tokenAddress)).trans (by rw [posted_netLines_held of unpaid]; rfl)
  have reward := unrewarded_iff of single stored
  constructor
  · intro undone
    refine ⟨undone.inventory, ?_, fun unpaid => ?_⟩
    · have same := undone.fees
      omega
    · have same := undone.held (reward.mpr unpaid)
      have moved := held unpaid
      omega
  · rintro ⟨inventory, nothing, full⟩
    refine ⟨World.getEventBalance_eq_of_ledger (unmoved organizer) (unmoved withdrawn)
      (unmoved platform), by omega, unmoved escrowTotal, unmoved escrow, fun unrewarded => ?_,
      inventory⟩
    have unpaid := reward.mp unrewarded
    have moved := held unpaid
    have paid := full unpaid
    omega

end Undone

/-- A full refund undoes the purchase of a single ticket exactly when the purchase was
reversible. -/
theorem refund_undoes_purchase_iff (sold cancelled claimed : Env host) (purchase : Purchase)
    (cancellation : Cancellation) (single : purchase.quantity = 1)
    (world : World EventRegistry.Registry) :
    Ensures (purchaseAndRefund sold cancelled claimed purchase cancellation) world fun _ next =>
      Undone host purchase world next ↔ Reversible sold world purchase := by
  refine processPayment_ensures.bind ?_
  rintro _ first ⟨sale, of, soldDoes, registry, increment, multiplier, loyalty⟩
  refine cancellation.run_ensures.bind ?_
  rintro _ second ⟨cancelledDoes, keeps⟩
  refine claimCancellationRefund_ensures.mono ?_
  rintro _ next ⟨payment, refundable, _, refundDoes, decrement⟩
  -- the refunded payment is the one just sold
  have ticket : purchase.ticket sale.share sold.timestamp purchase.paymentId = payment := by
    have stored := refundable.stored
    rw [cancelledDoes.tickets, soldDoes.tickets] at stored
    have read := getPayment_issueTickets purchase sale.share sold.timestamp world.tickets
      purchase.paymentId
    rw [if_pos ((Purchase.issues_single single).mpr rfl)] at read
    exact Option.some.inj (read.symm.trans stored)
  subst ticket
  have ledger := ((soldDoes.trans cancelledDoes).trans refundDoes).ledger
  simp only [Change.andThen, List.append_nil] at ledger
  have stored : next.tickets.getPayment purchase.paymentId =
      some ((purchase.ticket sale.share sold.timestamp purchase.paymentId).fullyRefunded
        claimed.timestamp) := by
    rw [refundDoes.tickets]
    exact (getPayment_writeRefunded _).trans (if_pos rfl)
  have stock : KeepsStock registry second.registry :=
    updateLoyaltyScore_keepsStock.trans (loyalty ▸ keeps)
  rw [single] at increment
  obtain ⟨event, tier, found, inventory⟩ := inventory_eq_iff increment stock decrement
  rw [undone_iff of single ledger stored, reversible_iff of single found]
  exact and_congr_left fun _ => inventory

/-- A ticket without a fee. -/
theorem refund_undoes_free_purchase :
    ∃ next, (purchaseAndRefund (allSign 1) (allSign 2) (allSign 3)
        (ticketFor aliceAddress "ticket" 1) .inRegistry).run
          (reached (registryWith freeConcert) setUp) = .ok ((), next) ∧
      Undone stage (ticketFor aliceAddress "ticket" 1)
        (reached (registryWith freeConcert) setUp) next := by
  obtain ⟨next, run⟩ : ∃ next, (purchaseAndRefund (allSign 1) (allSign 2) (allSign 3)
      (ticketFor aliceAddress "ticket" 1) .inRegistry).run
        (reached (registryWith freeConcert) setUp) = .ok ((), next) := ⟨_, rfl⟩
  refine ⟨next, run, (refund_undoes_purchase_iff (allSign 1) (allSign 2) (allSign 3)
    (ticketFor aliceAddress "ticket" 1) .inRegistry rfl
    (reached (registryWith freeConcert) setUp) () next run).mpr ?_⟩
  rintro event ⟨⟩
  refine ⟨?_, .inl (by decide), .inr (by decide)⟩
  rintro tier ⟨⟩
  rfl

/-- After the refund of a ticket with a fee and of a tier with a limit, the fee is still counted
as collected and the ticket as the owner's. -/
theorem refund_keeps_fee_and_count :
    ∃ next, (purchaseAndRefund (allSign 1) (allSign 2) (allSign 3)
        (ticketFor aliceAddress "ticket" 1) .inRegistry).run
          (reached (registryWith limitedConcert) setUp) = .ok ((), next) ∧
      next.books.getTotalFeesCollectedByToken usdcAddress = 50 ∧
      (reached (registryWith limitedConcert) setUp).books.getTotalFeesCollectedByToken
        usdcAddress = 0 ∧
      next.registry.getUserTicketCount "concert" "general" aliceAddress = 1 ∧
      (reached (registryWith limitedConcert) setUp).registry.getUserTicketCount "concert" "general"
        aliceAddress = 0 :=
  ⟨_, rfl, by decide, by decide, by decide, by decide⟩

end Agora.TicketPayment

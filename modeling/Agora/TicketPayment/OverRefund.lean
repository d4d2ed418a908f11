/-
This file asks whether a payment is ever refunded more than was paid for it.

It is: the amount of a record is the price before discounts, the full refunds do not
look at what a partial refund returned already, and a refunded payment can be
confirmed or checked in and is then refunded again. The file follows one payment id
through a run and shows that nothing else goes wrong.
-/

import Agora.EventRegistry.System
import Agora.TicketPayment.Reachable

namespace Agora.TicketPayment

open Soroban EventRegistry

variable {Registry : Type} [RegistryApi Registry] {host : Host}

/-! ### Frugal steps -/

/-- What was paid in for a payment id. -/
def World.charged (world : World Registry) (paymentId : PaymentId) : Int :=
  posted world.trail (.charged paymentId)

/-- What the refund paths have sent out for a payment id. -/
def World.refunded (world : World Registry) (paymentId : PaymentId) : Int :=
  posted world.trail (.refunded paymentId)

/-- Nothing is taken off the price of the purchase. -/
def FullPrice (env : Env host) (world : World Registry) (purchase : Purchase) : Prop :=
  Undiscounted env world purchase ∧
    RegistryApi.getLoyaltyDiscountBps world.registry purchase.buyerAddress = 0

instance (env : Env host) (world : World Registry) (purchase : Purchase) :
    Decidable (FullPrice env world purchase) :=
  inferInstanceAs (Decidable (_ ∧ _))

/-- A refund leaves room for what was refunded before. -/
def Fits (payment : Payment) (refund : Int) : Prop :=
  payment.refundedAmount + refund ≤ payment.amount

instance (payment : Payment) (refund : Int) : Decidable (Fits payment refund) :=
  inferInstanceAs (Decidable (_ ≤ _))

/-- The condition on the steps that concern one payment id: it is sold at full price and by no
batch, a full refund leaves room for the refunds before it, and once refunded it is neither
confirmed nor checked in. -/
def Frugal (paymentId : PaymentId) (world : World Registry) : Action host Registry → Prop
  | .call env (.processPayment purchase) => purchase.Issues paymentId →
      purchase.quantity = 1 ∧ FullPrice env world purchase
  | .call _ (.confirmPayment confirmed _) => confirmed = paymentId → NotRefunded world paymentId
  | .call _ (.checkIn used _ _) => used = paymentId → NotRefunded world paymentId
  | .call env (.refund _ refunded) => refunded = paymentId →
      ∀ payment ∈ world.tickets.getPayment paymentId,
        ∀ event ∈ RegistryApi.getEvent world.registry payment.eventId,
          Fits payment (max (payment.amount - effectiveRestockingFee env event payment.amount) 0)
  | .call _ (.claimCancellationRefund refunded) => refunded = paymentId →
      ∀ payment ∈ world.tickets.getPayment paymentId, Fits payment payment.amount
  | .call env (.triggerBulkRefund eventId batchSize) =>
      ∀ item ∈ bulkItems env world eventId batchSize,
        item.paymentId = paymentId → Fits item.payment item.refund
  | .call env (.triggerDisputeRefundCascade eventId) =>
      ∀ item ∈ cascadeItems env world eventId,
        item.paymentId = paymentId → Fits item.payment item.refund
  | _ => True

/-! ### The invariant -/

/-- No more was refunded than charged, and as long as the payment is not refunded there is room
for the organizer's share, which partial refunds take from, and for the rest of the amount. -/
structure Within (paymentId : PaymentId) (tickets : Tickets) (refunded charged : Int) :
    Prop where
  spent : refunded ≤ charged
  share : ∀ payment ∈ tickets.getPayment paymentId, payment.status ≠ .refunded →
    refunded + payment.organizerAmount ≤ charged
  rest : ∀ payment ∈ tickets.getPayment paymentId, payment.status ≠ .refunded →
    refunded - payment.refundedAmount + payment.amount ≤ charged

section Within

variable {paymentId : PaymentId} {tickets next : Tickets} {refunded charged : Int}

section

variable (within : Within paymentId tickets refunded charged)

include within

theorem Within.of_read (same : next.getPayment paymentId = tickets.getPayment paymentId) :
    Within paymentId next refunded charged := by
  refine ⟨within.spent, ?_, ?_⟩
  · rw [same]
    exact within.share
  · rw [same]
    exact within.rest

variable {payment record : Payment}

/-- Writing a record that keeps the amounts and revives nothing. -/
theorem Within.rewrite (stored : tickets.getPayment paymentId = some payment)
    (written : next.getPayment paymentId = some record)
    (sameShare : record.organizerAmount = payment.organizerAmount)
    (sameRefunded : record.refundedAmount = payment.refundedAmount)
    (sameAmount : record.amount = payment.amount)
    (open_ : payment.status ≠ .refunded ∨ record.status = .refunded) :
    Within paymentId next refunded charged := by
  refine ⟨within.spent, ?_, ?_⟩ <;> rw [written] <;> rintro _ ⟨⟩ unrefunded
  · rw [sameShare]
    exact within.share payment stored (open_.resolve_right unrefunded)
  · rw [sameRefunded, sameAmount]
    exact within.rest payment stored (open_.resolve_right unrefunded)

/-- A full refund that fits. -/
theorem Within.refund {paid : Int} (stored : tickets.getPayment paymentId = some payment)
    (unrefunded : payment.status ≠ .refunded) (written : next.getPayment paymentId = some record)
    (closed : record.status = .refunded) (fits : Fits payment paid) :
    Within paymentId next (refunded + paid) charged := by
  have room := within.rest payment stored unrefunded
  refine ⟨?_, ?_, ?_⟩
  · rw [Fits] at fits
    omega
  · rw [written]
    rintro _ ⟨⟩ open_
    exact absurd closed open_
  · rw [written]
    rintro _ ⟨⟩ open_
    exact absurd closed open_

/-- A partial refund takes no more than the organizer's share. -/
theorem Within.partial_turn {refund : Int} (stored : tickets.getPayment paymentId = some payment)
    (unrefunded : payment.status ≠ .refunded) (bounded : refund ≤ payment.organizerAmount)
    (written : next.getPayment paymentId = some (payment.partlyRefunded refund)) :
    Within paymentId next (refunded + refund) charged := by
  have share := within.share payment stored unrefunded
  have rest := within.rest payment stored unrefunded
  refine ⟨by omega, ?_, ?_⟩
  · rw [written]
    rintro _ ⟨⟩ _
    simp only [Payment.partlyRefunded]
    omega
  · rw [written]
    rintro _ ⟨⟩ _
    simp only [Payment.partlyRefunded]
    omega

end

/-- What a batch refunds under one id. -/
def refundedAmong (paymentId : PaymentId) (items : List BatchItem) : Int :=
  (items.map fun item => if item.paymentId = paymentId then item.refund else 0).sum

/-- A loop over a batch stays within the charge when each of its turns for the id does. -/
theorem Within.walk {select : Selection} {allowed : BatchItem → Prop}
    (refunding : Selection.Refunding select)
    (turn : ∀ tickets refunded payment item, Within paymentId tickets refunded charged →
      tickets.getPayment paymentId = some payment → select paymentId payment = some item →
      item.record.paymentId = paymentId → allowed item →
      Within paymentId (tickets.storePayment item.record) (refunded + item.refund) charged)
    (keyed : tickets.Keyed) {ids : List PaymentId}
    (permitted : ∀ item ∈ selectedAmong select tickets ids,
      item.paymentId = paymentId → allowed item)
    (within : Within paymentId tickets refunded charged) :
    Within paymentId (storeRecords (selectedAmong select tickets ids) tickets)
      (refunded + refundedAmong paymentId (selectedAmong select tickets ids)) charged := by
  induction ids generalizing tickets refunded with
  | nil => simpa [selectedAmong, storeRecords, refundedAmong] using within
  | cons other rest inductionHypothesis =>
    rw [selectedAmong] at permitted ⊢
    cases chosen : (tickets.getPayment other).bind (select other) with
    | none =>
      rw [chosen] at permitted
      exact inductionHypothesis keyed permitted within
    | some item =>
      rw [chosen] at permitted
      obtain ⟨payment, stored, selected⟩ := Option.bind_eq_some_iff.mp chosen
      have itemId := (refunding other payment item selected).named
      have recordId := (refunding other payment item selected).sameId
      rw [keyed other payment stored] at recordId
      have withinNext : Within paymentId (tickets.storePayment item.record)
          (refunded + if item.paymentId = paymentId then item.refund else 0) charged := by
        by_cases same : item.paymentId = paymentId
        · have here : other = paymentId := itemId.symm.trans same
          subst here
          rw [if_pos same]
          exact turn tickets refunded payment item within stored selected recordId
            (permitted item List.mem_cons_self same)
        · rw [if_neg same, add_zero]
          refine within.of_read ?_
          rw [Tickets.getPayment_storePayment, if_neg]
          exact fun equal => same (itemId.trans (recordId.symm.trans equal.symm))
      have final := inductionHypothesis keyed.storePayment
        (fun later member => permitted later (List.mem_cons_of_mem _ member)) withinNext
      simpa [refundedAmong, storeRecords, add_assoc] using final

end Within

/-! ### The steps -/

section Steps

variable {paymentId : PaymentId} {world next : World Registry} {change : Change}

/-- The notes on one payment id in a state. -/
def WithinWorld (paymentId : PaymentId) (world : World Registry) : Prop :=
  Within paymentId world.tickets (world.refunded paymentId) (world.charged paymentId)

omit [RegistryApi Registry] in
theorem within_of_does (refund charge : Int) (does : Does host change world next)
    (refunded : posted change.lines (.trail (.refunded paymentId)) = refund)
    (charged : posted change.lines (.trail (.charged paymentId)) = charge)
    (within : Within paymentId (change.tickets world.tickets)
      (world.refunded paymentId + refund) (world.charged paymentId + charge)) :
    WithinWorld paymentId next := by
  have refundedAfter : next.refunded paymentId = world.refunded paymentId +
      posted change.lines (.trail (.refunded paymentId)) :=
    congrFun does.ledger (.trail (.refunded paymentId))
  have chargedAfter : next.charged paymentId = world.charged paymentId +
      posted change.lines (.trail (.charged paymentId)) :=
    congrFun does.ledger (.trail (.charged paymentId))
  rw [WithinWorld, does.tickets, refundedAfter, refunded, chargedAfter, charged]
  exact within

omit [RegistryApi Registry] in
/-- A step that notes nothing under the id. -/
theorem within_of_unnoted (does : Does host change world next)
    (refunded : posted change.lines (.trail (.refunded paymentId)) = 0)
    (charged : posted change.lines (.trail (.charged paymentId)) = 0)
    (within : Within paymentId (change.tickets world.tickets) (world.refunded paymentId)
      (world.charged paymentId)) : WithinWorld paymentId next := by
  refine within_of_does 0 0 does refunded charged ?_
  rwa [add_zero, add_zero]

variable {payment : Payment}

omit [RegistryApi Registry] in
/-- The full refund of one payment. -/
theorem within_refund {refunded : PaymentId} {record : Payment} {refund organizerBack : Int}
    (does : Does host { lines := refundLines refunded payment refund organizerBack,
                        tickets := writeRefunded refunded payment record,
                        callsRegistry := true } world next)
    (stored : world.tickets.getPayment refunded = some payment)
    (unrefunded : payment.status ≠ .refunded) (closed : record.status = .refunded)
    (fits : refunded = paymentId → Fits payment (max refund 0))
    (within : WithinWorld paymentId world) : WithinWorld paymentId next := by
  by_cases same : refunded = paymentId
  · subst same
    refine within_of_does (max refund 0) 0 does ?_ ?_ ?_
    · simp
    · simp
    · rw [add_zero]
      exact within.refund stored unrefunded
        (by rw [getPayment_writeRefunded, if_pos rfl]) closed (fits rfl)
  · refine within_of_unnoted does ?_ ?_ (within.of_read ?_)
    · simp [same]
    · simp
    · rw [getPayment_writeRefunded, if_neg (Ne.symm same)]

omit [RegistryApi Registry] in
/-- A batch of refunds, whatever it books. -/
theorem within_batch {select : Selection} {lines : List (Posting Account)} {ids : List PaymentId}
    {allowed : BatchItem → Prop}
    (does : Does host { lines, tickets := storeRecords (selectedAmong select world.tickets ids) }
      world next)
    (refunded : posted lines (.trail (.refunded paymentId)) =
      refundedAmong paymentId (selectedAmong select world.tickets ids))
    (charged : posted lines (.trail (.charged paymentId)) = 0)
    (wellformed : Wellformed host world)
    (refunding : Selection.Refunding select)
    (turn : ∀ tickets refunded payment item,
      Within paymentId tickets refunded (world.charged paymentId) →
      tickets.getPayment paymentId = some payment → select paymentId payment = some item →
      item.record.paymentId = paymentId → allowed item →
      Within paymentId (tickets.storePayment item.record) (refunded + item.refund)
        (world.charged paymentId))
    (permitted : ∀ item ∈ selectedAmong select world.tickets ids,
      item.paymentId = paymentId → allowed item)
    (within : WithinWorld paymentId world) : WithinWorld paymentId next := by
  refine within_of_does _ 0 does refunded charged ?_
  rw [add_zero]
  exact Within.walk refunding turn wellformed.keyed permitted within

variable {timestamp : Nat} {tickets : Tickets} {refunded charged : Int} {item : BatchItem}

/-- The turns of a bulk refund or a cascade that fit. -/
theorem within_bulk_turn (within : Within paymentId tickets refunded charged)
    (stored : tickets.getPayment paymentId = some payment)
    (selected : bulkItem timestamp paymentId payment = some item)
    (recordId : item.record.paymentId = paymentId) (fits : Fits item.payment item.refund) :
    Within paymentId (tickets.storePayment item.record) (refunded + item.refund) charged := by
  obtain ⟨confirmed, rfl⟩ := bulkItem_eq_some selected
  have written : (tickets.storePayment (payment.refunded timestamp)).getPayment paymentId =
      some (payment.refunded timestamp) := by
    rw [Tickets.getPayment_storePayment, if_pos recordId.symm]
  exact within.refund stored (by rw [confirmed]; decide) written rfl fits

variable {percentage : Nat} {eventId : EventId}

theorem posted_windowChange_refunded {items : List BatchItem} :
    posted (windowChange host eventId items).lines (.trail (.refunded paymentId)) =
        refundedAmong paymentId items ∧
      posted (windowChange host eventId items).lines (.trail (.charged paymentId)) = 0 := by
  have refunds : posted (items.flatMap (itemLines host)) (.trail (.refunded paymentId)) =
      refundedAmong paymentId items :=
    posted_items fun item _ => by simp
  have charges : posted (items.flatMap (itemLines host)) (.trail (.charged paymentId)) = 0 :=
    posted_items_zero (by simp)
  constructor
  · simp [windowChange, refunds]
  · simp [windowChange, charges]

variable {env : Env host}

/-- A sale at full price charges what its ticket can be refunded. -/
theorem within_sale {purchase : Purchase} {sale : Sale}
    (does : Does host (sale.change env purchase) world next) (of : sale.Of env world purchase)
    (frugal : purchase.Issues paymentId → purchase.quantity = 1 ∧ FullPrice env world purchase)
    (within : WithinWorld paymentId world) : WithinWorld paymentId next := by
  have read := getPayment_issueTickets purchase sale.share env.timestamp world.tickets paymentId
  have refunded : posted (sale.change env purchase).lines (.trail (.refunded paymentId)) = 0 := by
    by_cases single : purchase.quantity = 1 <;> simp [Purchase.headings, single]
  by_cases issues : purchase.Issues paymentId
  · obtain ⟨single, undiscounted, disloyal⟩ := frugal issues
    have own := (Purchase.issues_single single).mp issues
    rw [if_pos issues] at read
    have charged : posted (sale.change env purchase).lines (.trail (.charged paymentId)) =
        sale.split.effectiveTotal := by
      simp [Purchase.headings, single, own]
    have share := of.organizerAmount_le
    have whole : sale.share.organizerAmount = sale.split.organizerAmount := by
      rw [of.single_share single]
    have total : sale.split.effectiveTotal = purchase.amount := by
      rw [of.effectiveTotal_eq undiscounted disloyal, of.single_total single]
    have spent := within.spent
    refine within_of_does 0 _ does refunded charged ⟨?_, ?_, ?_⟩
    · have paid := of.paid
      omega
    · show ∀ payment ∈ (issueTickets _ _ _ _).getPayment paymentId, _
      rw [read]
      rintro _ ⟨⟩ _
      show _ + sale.share.organizerAmount ≤ _
      omega
    · show ∀ payment ∈ (issueTickets _ _ _ _).getPayment paymentId, _
      rw [read]
      rintro _ ⟨⟩ _
      show _ - 0 + purchase.amount ≤ _
      omega
  · rw [if_neg issues] at read
    refine within_of_unnoted does refunded ?_ (within.of_read read)
    by_cases single : purchase.quantity = 1
    · have other : purchase.paymentId ≠ paymentId := fun equal =>
        issues ((Purchase.issues_single single).mpr equal.symm)
      simp [Purchase.headings, single, other]
    · simp [Purchase.headings, single]

omit [RegistryApi Registry] in
/-- A ticket that changes hands keeps its amounts and its status. -/
theorem within_handOver {handed : PaymentId} {seller buyer : Address}
    (within : WithinWorld paymentId world)
    (stored : world.tickets.getPayment handed = some payment) :
    Within paymentId (handOver handed payment seller buyer world.tickets)
      (world.refunded paymentId) (world.charged paymentId) := by
  have read := getPayment_handOver handed paymentId payment seller buyer world.tickets
  by_cases same : paymentId = handed
  · subst same
    rw [if_pos rfl] at read
    refine within.rewrite stored read rfl rfl rfl ?_
    by_cases closed : payment.status = .refunded
    · exact .inr closed
    · exact .inl closed
  · exact within.of_read (by rw [read, if_neg same])

/-- The winning bid is charged under the id of the ticket. -/
theorem within_closing {won : PaymentId} {tierId : TierId} {event : EventInfo} {bid : HighestBid}
    {fee : Int} (does : Does host (closingChange env won eventId tierId bid fee) world next)
    (of : ClosingOf world eventId tierId event bid fee) (nonneg : 0 ≤ bid.amount)
    (within : WithinWorld paymentId world) : WithinWorld paymentId next := by
  have refunded : posted (closingChange env won eventId tierId bid fee).lines
      (.trail (.refunded paymentId)) = 0 := by
    simp
  have read : ((closingChange env won eventId tierId bid fee).tickets world.tickets).getPayment
      paymentId = if paymentId = won then
        some (auctionRecord won eventId tierId bid fee (bid.amount - fee) env.timestamp)
      else world.tickets.getPayment paymentId :=
    Tickets.getPayment_storePayment world.tickets paymentId _
  by_cases same : paymentId = won
  · subst same
    rw [if_pos rfl] at read
    have charged : posted (closingChange env paymentId eventId tierId bid fee).lines
        (.trail (.charged paymentId)) = bid.amount := by
      simp
    have feeNonneg := of.fee_nonneg nonneg
    have spent := within.spent
    refine within_of_does 0 _ does refunded charged ⟨?_, ?_, ?_⟩
    · omega
    · rw [read]
      rintro _ ⟨⟩ _
      show _ + (bid.amount - fee) ≤ _
      omega
    · rw [read]
      rintro _ ⟨⟩ _
      show _ - 0 + bid.amount ≤ _
      omega
  · rw [if_neg same] at read
    refine within_of_unnoted does refunded ?_ (within.of_read read)
    simp [Ne.symm same]

end Steps

/-- A well-formed state in which the id is within its charge. -/
structure FrugalState (host : Host) (paymentId : PaymentId) (world : World Registry) : Prop where
  wellformed : Wellformed host world
  within : WithinWorld paymentId world

variable {paymentId : PaymentId}

omit [RegistryApi Registry] in
theorem frugalState_fresh {registry : Registry} :
    FrugalState host paymentId (.fresh registry) where
  wellformed := wellformed_fresh registry
  within := by
    refine ⟨le_rfl, ?_, ?_⟩ <;> intro payment stored <;> cases stored

theorem step_within {world next : World Registry} {action : Action host Registry} {change : Change}
    (state : FrugalState host paymentId world) (frugal : Frugal paymentId world action)
    (effect : Effect world action change) (does : Does host change world next) :
    WithinWorld paymentId next := by
  have within := state.within
  cases effect with
  | nothing | registry | configured | listing => exact within_of_unnoted does rfl rfl within
  | inflow | settlement | withdrawal | claim | feeWithdrawal =>
    exact within_of_unnoted does (by simp) (by simp) within
  | sale env purchase sale of => exact within_sale does of frugal within
  | confirm env confirmed transactionHash =>
    refine within_of_unnoted does rfl rfl ?_
    have read := getPayment_confirmTickets env.timestamp confirmed paymentId transactionHash
      world.tickets
    by_cases same : paymentId = confirmed
    · subst same
      rw [if_pos rfl] at read
      cases stored : world.tickets.getPayment paymentId with
      | none =>
        rw [stored] at read
        exact within.of_read (read.trans stored.symm)
      | some payment =>
        rw [stored] at read
        exact within.rewrite stored read rfl rfl rfl (.inl (frugal rfl payment stored))
    · exact within.of_read (read.trans (if_neg same))
  | refund env path refunded payment event refundable found =>
    refine within_refund does refundable.stored refundable.status.1 rfl ?_ within
    rintro rfl
    exact frugal rfl payment refundable.stored event found
  | cancellationRefund env refunded payment refundable nonneg =>
    refine within_refund does refundable.stored refundable.status.1 rfl ?_ within
    rintro rfl
    rw [max_eq_left nonneg]
    exact frugal rfl payment refundable.stored
  | bulkRefund env eventId batchSize nonneg =>
    obtain ⟨refunded, charged⟩ := posted_windowChange_refunded
    exact within_batch does refunded charged
      state.wellformed (bulkItem_refunding _) (fun _ _ _ _ => within_bulk_turn) frugal within
  | partialRefund env eventId percentageBps batchSize nonneg =>
    obtain ⟨refunded, charged⟩ := posted_windowChange_refunded
    refine within_batch does refunded charged state.wellformed
      (partialItem_refunding _) (fun tickets _ _ _ held stored selected recordId _ => ?_)
      (fun _ _ _ => trivial) within
    obtain ⟨confirmed, _, bounded, rfl⟩ := partialItem_eq_some selected
    refine held.partial_turn stored (by rw [confirmed]; decide) bounded ?_
    rw [Tickets.getPayment_storePayment, if_pos recordId.symm]
  | cascade env eventId nonneg =>
    refine within_batch does ?_ ?_ state.wellformed
      (bulkItem_refunding _) (fun _ _ _ _ => within_bulk_turn) frugal within
    · exact posted_items fun item _ => by simp
    · exact posted_items_zero (by simp)
  | checkIn env used scanner rawSecret payment stored unused =>
    refine within_of_unnoted does rfl rfl ?_
    have keyed := (state.wellformed.records used payment stored).keyed
    have read := getPayment_checkInTickets env.timestamp used paymentId payment world.tickets
    rw [keyed] at read
    by_cases same : paymentId = used
    · rw [if_pos same] at read
      subst same
      exact within.rewrite stored read rfl rfl rfl (.inl (frugal rfl payment stored))
    · exact within.of_read (by rw [read, if_neg same])
  | poap => exact within_of_unnoted does rfl rfl (within.of_read rfl)
  | transfer _ _ _ _ _ _ of | resale _ _ _ _ _ _ _ _ of =>
    exact within_of_unnoted does (by simp) (by simp) (within_handOver within of.stored)
  | bid env eventId tierId bid outside nonneg =>
    have unnoted (heading : Trail) : posted (bidChange host eventId tierId bid
        (world.auctions.highestBid.get (eventId, tierId))).lines (.trail heading) = 0 := by
      cases found : world.auctions.highestBid.get (eventId, tierId) <;> simp
    exact within_of_unnoted does (unnoted _) (unnoted _) within
  | closing env won eventId tierId event bid fee of =>
    exact within_closing does of (state.wellformed.bids _ bid of.bidEq).2 within

theorem step_frugalState (world : World Registry) (action : Action host Registry)
    (frugal : Frugal paymentId world action) (state : FrugalState host paymentId world) :
    FrugalState host paymentId (step world action) := by
  obtain ⟨change, effect, does⟩ := step_takes state.wellformed.escrowState action
  exact ⟨step_wellformed world action state.wellformed, step_within state frugal effect does⟩

/-- In a run that is frugal with a payment id, no more is refunded for it than was paid. -/
theorem refunded_le_charged_of_frugal (registry : Registry) (paymentId : PaymentId)
    (actions : List (Action host Registry))
    (frugal : Respects step (Frugal paymentId) (.fresh registry) actions) :
    (reached registry actions).refunded paymentId ≤
      (reached registry actions).charged paymentId :=
  (respects_invariant (FrugalState host paymentId) step_frugalState _ actions frugal
    frugalState_fresh).within.spent

/-- A ticket sold at full price of which half is returned. -/
theorem refunded_le_charged_half_returned :
    (reached (registryWith concert) (setUp ++ halfReturned)).refunded "ticket" = 500 ∧
      (reached (registryWith concert) (setUp ++ halfReturned)).refunded "ticket" ≤
        (reached (registryWith concert) (setUp ++ halfReturned)).charged "ticket" := by
  refine ⟨by decide, refunded_le_charged_of_frugal _ _ _ ⟨trivial, trivial, trivial, trivial,
    trivial, fun _ => (by decide : _ ∧ FullPrice _ _ _), fun issues => ?_,
    fun _ => (by decide : NotRefunded _ _), trivial, trivial⟩⟩
  exact absurd issues (by decide)

/-- After half of the price was returned, the refund of the ticket still returns all of it. -/
theorem refunded_gt_charged_half_returned :
    (reached (registryWith concert) (setUp ++ halfReturned ++
        [.call (allSign 4) (.refund .guest "ticket")])).charged "ticket" = 1000 ∧
      (reached (registryWith concert) (setUp ++ halfReturned ++
        [.call (allSign 4) (.refund .guest "ticket")])).refunded "ticket" = 1500 := by
  decide

end Agora.TicketPayment

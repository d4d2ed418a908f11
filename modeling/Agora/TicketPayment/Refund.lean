/-
This file models the refunds of a single payment: the common `internal_refund` with
the four entry points in front of it, and `claim_cancellation_refund`.

Both pay back the recorded amount and take the recorded shares out of the event's
balance. Neither touches the collected fees.
-/

import Agora.TicketPayment.Change

namespace Agora.TicketPayment

open Soroban

variable {Registry : Type} [RegistryApi Registry] {host : Host}

/-! ### The common refund -/

/-- The event has a sales target, missed it, and the deadline has passed. -/
def goalFailed (env : Env host) (event : EventInfo) : Bool :=
  !event.goalMet && 0 < event.minSalesTarget && event.targetDeadline < env.timestamp

/-- The fee withheld from a refund, waived for a cancelled or failed event. -/
def effectiveRestockingFee (env : Env host) (event : EventInfo) (amount : Int) : Int :=
  if event.status = .cancelled ∨ goalFailed env event = true then 0
  else if amount < event.restockingFee then amount
  else if 0 < event.restockingFee then event.restockingFee
  else 0

/-- The record of a refunded payment. -/
def Payment.refunded (payment : Payment) (timestamp : Nat) : Payment :=
  { payment with status := .refunded, confirmedAt := some timestamp }

/-- The record of a payment refunded for a cancelled event. -/
def Payment.fullyRefunded (payment : Payment) (timestamp : Nat) : Payment :=
  { payment.refunded timestamp with refundedAmount := payment.amount }

/-- Write a refunded record and move it in the status index. -/
def writeRefunded (paymentId : PaymentId) (payment record : Payment) (tickets : Tickets) :
    Tickets :=
  (tickets.setPayment paymentId record).reindexStatus payment.eventId payment.status .refunded
    paymentId

/-- The last step of the common refund rewrites a balance that has come to zero. -/
def cleanBalance (eventId : EventId) : Entry Registry Unit := do
  let world ← get
  let balance := world.books.getEventBalance eventId
  if balance.organizerAmount = 0 ∧ balance.platformFee = 0 then updateEventBalance eventId 0 0
  else pure ()

/-- Take a payment's shares out of an event's balance and its refund out of the escrow
counters. -/
def unbook (eventId : EventId) (payment : Payment) (refund organizerBack : Int) :
    Entry Registry Unit := do
  let organizerDelta ← trapping (checkedSub 0 organizerBack)
  let platformDelta ← trapping (checkedSub 0 payment.platformFee)
  updateEventBalance eventId organizerDelta platformDelta
  subtractFromActiveEscrowTotal refund
  subtractFromActiveEscrowByToken payment.tokenAddress refund

theorem getPayment_writeRefunded {paymentId : PaymentId} (other : PaymentId)
    {payment record : Payment} {tickets : Tickets} :
    (writeRefunded paymentId payment record tickets).getPayment other =
      if other = paymentId then some record else tickets.getPayment other := by
  rw [writeRefunded, Tickets.getPayment_reindexStatus, Tickets.getPayment_setPayment]

def internalRefund (env : Env host) (paymentId : PaymentId) : Entry Registry Unit := do
  let payment ← getPayment paymentId
  requireAuth env payment.buyerAddress
  require (payment.status ≠ .refunded ∧ payment.status ≠ .failed) (.error .invalidPaymentStatus)
  let event ← getEvent payment.eventId
  requireUndisputed payment.eventId
  let tier ← orFault (event.tiers payment.ticketTierId) (.error .tierNotFound)
  require (tier.isRefundable = true ∨ event.status = .cancelled ∨ goalFailed env event = true ∨
    event.isActive = false) (.error .ticketNotRefundable)
  require (event.status = .cancelled ∨ event.isActive = false ∨ event.refundDeadline = 0 ∨
    env.timestamp ≤ event.refundDeadline) (.error .refundDeadlinePassed)
  let fee := effectiveRestockingFee env event payment.amount
  let refundAmount ← checked (checkedSub payment.amount fee)
  decrementInventory host payment.eventId payment.ticketTierId payment.buyerAddress
  modify (·.withTickets
    (writeRefunded paymentId payment (payment.refunded env.timestamp)))
  payIfPositive host payment.tokenAddress payment.buyerAddress refundAmount
    [.refunded paymentId]
  let adjustment ← checked (checkedSub payment.organizerAmount fee)
  unbook payment.eventId payment refundAmount adjustment
  cleanBalance payment.eventId

def requestGuestRefund (env : Env host) (paymentId : PaymentId) : Entry Registry Unit := do
  requireInitialized
  requireNotPaused
  internalRefund env paymentId

/-- No ticket number is ever linked to a payment. -/
def getTicketPaymentId (_ticketId : Nat) : Option PaymentId := none

def requestRefund (env : Env host) (ticketId : Nat) : Entry Registry Unit := do
  requireInitialized
  requireNotPaused
  let paymentId ← orFault (getTicketPaymentId ticketId) (.error .paymentNotFound)
  let payment ← getPayment paymentId
  require (payment.status ≠ .checkedIn) (.error .ticketAlreadyUsed)
  require (payment.status ≠ .refunded) (.error .invalidPaymentStatus)
  let event ← getEvent payment.eventId
  require (event.status = .cancelled ∨ event.refundDeadline = 0 ∨
    env.timestamp ≤ event.refundDeadline) (.error .refundDeadlinePassed)
  internalRefund env paymentId

def adminRefund (env : Env host) (paymentId : PaymentId) : Entry Registry Unit := do
  let _ ← requireAdmin env
  internalRefund env paymentId

def claimAutomaticRefund (env : Env host) (paymentId : PaymentId) : Entry Registry Unit := do
  requireInitialized
  requireNotPaused
  let payment ← getPayment paymentId
  let event ← getEvent payment.eventId
  require (event.status = .cancelled ∨ goalFailed env event = true)
    (.error .invalidPaymentStatus)
  internalRefund env paymentId

/-! ### The refund of a cancelled event -/

def requireCancelled (eventId : EventId) : Entry Registry Unit := do
  let world ← get
  if isEventCancelledForRefund world eventId = true then pure ()
  else do
    let event ← getEvent eventId
    require (event.status = .cancelled) (.error .eventNotCompleted)

def claimCancellationRefund (env : Env host) (paymentId : PaymentId) : Entry Registry Unit := do
  requireInitialized
  requireNotPaused
  let payment ← getPayment paymentId
  requireAuth env payment.buyerAddress
  requireCancelled payment.eventId
  require (payment.status ≠ .refunded ∧ payment.status ≠ .failed) (.error .invalidPaymentStatus)
  modify (·.withTickets
    (writeRefunded paymentId payment (payment.fullyRefunded env.timestamp)))
  requireRegistry
  decrementInventory host payment.eventId payment.ticketTierId payment.buyerAddress
  payOut host payment.tokenAddress payment.buyerAddress payment.amount [.refunded paymentId]
  unbook payment.eventId payment payment.amount payment.organizerAmount

/-! ### What a refund does -/

/-- The postings of the movement of tokens. A refund that is not positive moves none. -/
@[simp]
def sentLines (paymentId : PaymentId) (payment : Payment) (refund : Int) :
    List (Posting Account) :=
  (.held payment.tokenAddress, -max refund 0) ::
    World.noted [.refunded paymentId] (max refund 0)

/-- The postings to the books. -/
@[simp]
def unbookLines (eventId : EventId) (payment : Payment) (refund organizerBack : Int) :
    List (Posting Account) :=
  [(.organizer eventId, -organizerBack), (.withdrawn eventId, 0),
    (.platform eventId, -payment.platformFee), (.escrowTotal, -refund),
    (.escrow payment.tokenAddress, -refund)]

/-- The postings of a refund. -/
@[simp]
def refundLines (paymentId : PaymentId) (payment : Payment) (refund organizerBack : Int) :
    List (Posting Account) :=
  sentLines paymentId payment refund ++ unbookLines payment.eventId payment refund organizerBack

variable {env : Env host} {eventId : EventId} {paymentId : PaymentId} {world : World Registry}

omit [RegistryApi Registry] in
theorem unbook_ensures (host : Host) {payment : Payment} {refund organizerBack : Int} :
    Ensures (unbook eventId payment refund organizerBack) world fun _ next =>
      Does host (.posting (unbookLines eventId payment refund organizerBack)) world next ∧
        next.settings = world.settings ∧ next.registry = world.registry := by
  simp only [unbook, trapping, ensures_rules, subtractFromActiveEscrowTotal,
    subtractFromActiveEscrowByToken, ensures_updateEventBalance, ensures_counters]
  intro organizerDelta organizerEq platformDelta platformEq _ _ _ _
  obtain rfl : organizerDelta = -organizerBack := by rw [eq_of_checkedSub organizerEq, zero_sub]
  obtain rfl : platformDelta = -payment.platformFee := by
    rw [eq_of_checkedSub platformEq, zero_sub]
  refine ⟨?_, rfl, rfl⟩
  have credited : Does host _ world _ :=
    Does.creditEvent eventId (-organizerBack) (-payment.platformFee)
  exact (credited.trans_posting (.addEscrowTotal (-refund))).trans_posting
    (.addEscrow payment.tokenAddress (-refund))

omit [RegistryApi Registry] in
theorem cleanBalance_ensures (host : Host) :
    Ensures (cleanBalance eventId) world fun _ next => Does host .nothing world next := by
  simp only [cleanBalance, ensures_rules, ensures_updateEventBalance]
  refine ⟨fun _ _ _ => ?_, fun _ => Does.refl world⟩
  have step : Does host _ world _ := Does.creditEvent eventId 0 0
  exact step.congr_lines fun account => by simp

/-- The record and the state in which a refund is made. -/
structure Refundable (env : Env host) (world : World Registry) (paymentId : PaymentId)
    (payment : Payment) : Prop where
  stored : world.tickets.getPayment paymentId = some payment
  signed : env.signed payment.buyerAddress = true
  status : payment.status ≠ .refunded ∧ payment.status ≠ .failed

/-- What the common refund does with the fee it withholds. -/
@[simp]
def internalRefundChange (env : Env host) (paymentId : PaymentId) (payment : Payment)
    (fee : Int) : Change where
  lines := refundLines paymentId payment (payment.amount - fee) (payment.organizerAmount - fee)
  tickets := writeRefunded paymentId payment (payment.refunded env.timestamp)
  callsRegistry := true

/-- The outcome of the common refund, whichever entry point it was reached through. -/
def RefundOutcome (env : Env host) (paymentId : PaymentId) (world next : World Registry) : Prop :=
  ∃ payment event, Refundable env world paymentId payment ∧
    RegistryApi.getEvent world.registry payment.eventId = some event ∧
    isEventDisputed world payment.eventId = false ∧
    RegistryApi.decrementInventory world.registry host.contract payment.eventId
      payment.ticketTierId payment.buyerAddress = some next.registry ∧
    Does host (internalRefundChange env paymentId payment
      (effectiveRestockingFee env event payment.amount)) world next

theorem internalRefund_ensures :
    Ensures (internalRefund env paymentId) world fun _ next =>
      RefundOutcome env paymentId world next := by
  simp only [internalRefund, checked, ensures_rules, ensures_checks, ensures_getEvent,
    ensures_requireUndisputed, ensures_decrementInventory]
  intro payment stored signed status _ event found undisputed tier _ _ _ refund refundEq registry
    decremented
  have outside := ne_contract_of_signed env signed
  refine payIfPositive_ensures.mono ?_
  rintro _ sent ⟨sentDoes, _⟩
  rw [if_neg outside] at sentDoes
  intro adjustment adjustmentEq
  refine (unbook_ensures host).mono ?_
  rintro _ booked ⟨bookedDoes, _, _⟩
  refine (cleanBalance_ensures host).mono ?_
  intro _ next cleanDoes
  have money := (sentDoes.trans_posting bookedDoes).then_nothing cleanDoes
  refine ⟨payment, event, ⟨stored, signed, status⟩, found, undisputed, ?_, ?_⟩
  · rw [money.registry rfl]
    exact decremented
  · have written : Does host _ world _ := Does.trans (.withRegistry registry)
      (Does.withTickets (writeRefunded paymentId payment (payment.refunded env.timestamp)))
    rw [internalRefundChange, ← eq_of_checkedSub refundEq, ← eq_of_checkedSub adjustmentEq]
    exact written.trans money

theorem requestGuestRefund_ensures :
    Ensures (requestGuestRefund env paymentId) world fun _ next =>
      RefundOutcome env paymentId world next := by
  simp only [requestGuestRefund, ensures_bind, ensures_checks]
  intro _ _
  exact internalRefund_ensures

theorem requestRefund_ensures {ticketId : Nat} :
    Ensures (requestRefund env ticketId) world fun _ _ => False := by
  simp only [requestRefund, getTicketPaymentId, ensures_rules, ensures_checks]
  intro _ _ _ absent
  cases absent

theorem adminRefund_ensures :
    Ensures (adminRefund env paymentId) world fun _ next =>
      RefundOutcome env paymentId world next := by
  simp only [adminRefund, ensures_bind, ensures_checks]
  intro _ _ _
  exact internalRefund_ensures

theorem claimAutomaticRefund_ensures :
    Ensures (claimAutomaticRefund env paymentId) world fun _ next =>
      RefundOutcome env paymentId world next := by
  simp only [claimAutomaticRefund, ensures_rules, ensures_checks, ensures_getEvent]
  intro _ _ _ _ _ _ _ _
  exact internalRefund_ensures

/-! ### What the refund of a cancelled event does -/

@[simp]
def cancellationRefundChange (env : Env host) (paymentId : PaymentId) (payment : Payment) :
    Change where
  lines := refundLines paymentId payment payment.amount payment.organizerAmount
  tickets := writeRefunded paymentId payment (payment.fullyRefunded env.timestamp)
  callsRegistry := true

theorem requireCancelled_ensures :
    Ensures (requireCancelled eventId) world fun _ next => next = world := by
  simp [requireCancelled, ensures_rules, ensures_getEvent]

theorem claimCancellationRefund_ensures :
    Ensures (claimCancellationRefund env paymentId) world fun _ next => ∃ payment,
      Refundable env world paymentId payment ∧ 0 ≤ payment.amount ∧
        Does host (cancellationRefundChange env paymentId payment) world next ∧
        RegistryApi.decrementInventory world.registry host.contract payment.eventId
          payment.ticketTierId payment.buyerAddress = some next.registry := by
  simp only [claimCancellationRefund, ensures_bind, ensures_checks]
  intro _ _ payment stored signed
  refine requireCancelled_ensures.mono ?_
  rintro _ _ rfl
  simp only [requireRegistry, ensures_rules, ensures_decrementInventory, ensures_payOut]
  intro status _ registry decremented allowed
  refine (unbook_ensures host).mono ?_
  rintro _ next ⟨bookedDoes, _, sameRegistry⟩
  refine ⟨payment, ⟨stored, signed, status⟩, allowed.1, ?_, ?_⟩
  · have money := (Does.pay_outside (ne_contract_of_signed env signed) payment.tokenAddress
      payment.amount [.refunded paymentId]).trans_posting bookedDoes
    rw [cancellationRefundChange, refundLines, sentLines, max_eq_left allowed.1]
    exact ((Does.withTickets _).trans (.withRegistry registry)).trans money
  · rw [sameRegistry]
    exact decremented

end Agora.TicketPayment

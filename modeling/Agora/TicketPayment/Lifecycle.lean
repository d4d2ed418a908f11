/-
This file asks whether the status of a payment only moves forward: from pending to
confirmed, from either of them to checked in, and from any of the three to refunded.

The refund paths check where a payment comes from. The confirmation, the check-in and
the two ways of issuing a ticket do not: a refunded payment can be confirmed or
checked in again, and a stored record can be issued anew. Where these four respect
the order, so does every run.
-/

import Agora.EventRegistry.System
import Agora.TicketPayment.Reachable

namespace Agora.TicketPayment

open Soroban EventRegistry

variable {Registry : Type} [RegistryApi Registry] {host : Host}

/-! ### The order -/

/-- The transitions of a payment. -/
def PaymentStatus.Moves : PaymentStatus → PaymentStatus → Prop
  | .pending, .confirmed | .pending, .checkedIn | .pending, .refunded => True
  | .confirmed, .checkedIn | .confirmed, .refunded => True
  | .checkedIn, .refunded => True
  | _, _ => False

/-- The status stays or moves forward. -/
def PaymentStatus.Follows (before after : PaymentStatus) : Prop :=
  after = before ∨ before.Moves after

theorem PaymentStatus.Follows.trans {first second third : PaymentStatus}
    (head : first.Follows second) (tail : second.Follows third) : first.Follows third := by
  cases first <;> cases second <;> cases third <;>
    simp_all [PaymentStatus.Follows, PaymentStatus.Moves]

/-- The status of a record follows the status of the record it replaces. -/
def StatusFollows (payment record : Payment) : Prop :=
  payment.status.Follows record.status

theorem StatusFollows.refl (payment : Payment) : StatusFollows payment payment := .inl rfl

theorem StatusFollows.trans (first second third : Payment) (head : StatusFollows first second)
    (tail : StatusFollows second third) : StatusFollows first third :=
  PaymentStatus.Follows.trans head tail

/-! ### Orderly steps -/

/-- The stored record of the id, if there is one, is still open. -/
def StillOpen (world : World Registry) (paymentId : PaymentId) : Prop :=
  ∀ payment ∈ world.tickets.getPayment paymentId,
    payment.status = .pending ∨ payment.status = .confirmed

instance (world : World Registry) (paymentId : PaymentId) :
    Decidable (StillOpen world paymentId) :=
  inferInstanceAs (Decidable (∀ payment ∈ world.tickets.getPayment paymentId, _ ∨ _))

/-- The condition on a step: only open payments are confirmed or replaced by the ticket of an
auction, neither refunded nor failed ones are checked in, and a batch issues no ticket in the
place of a record that is past pending. -/
def Orderly (world : World Registry) : Action host Registry → Prop
  | .call _ (.processPayment purchase) => purchase.quantity = 1 ∨
      ∀ index ∈ List.range purchase.quantity,
        ∀ payment ∈ world.tickets.getPayment (batchPaymentId index), payment.status = .pending
  | .call _ (.confirmPayment paymentId _) => StillOpen world paymentId
  | .call _ (.checkIn paymentId _ _) => ∀ payment ∈ world.tickets.getPayment paymentId,
      payment.status ≠ .refunded ∧ payment.status ≠ .failed
  | .call _ (.closeAuction paymentId _ _) => StillOpen world paymentId
  | _ => True

/-! ### The steps -/

variable {payment record : Payment}

theorem follows_refunded (refunded : record.status = .refunded)
    (status : payment.status ≠ .refunded ∧ payment.status ≠ .failed) :
    StatusFollows payment record := by
  obtain ⟨notRefunded, notFailed⟩ := status
  unfold StatusFollows PaymentStatus.Follows
  rw [refunded]
  cases before : payment.status <;> simp_all [PaymentStatus.Moves]

theorem follows_confirmed (confirmed : record.status = .confirmed)
    (status : payment.status = .pending ∨ payment.status = .confirmed) :
    StatusFollows payment record := by
  unfold StatusFollows PaymentStatus.Follows
  rw [confirmed]
  rcases status with pending | already
  · exact .inr (by rw [pending]; trivial)
  · exact .inl already.symm

theorem follows_checkedIn (checkedIn : record.status = .checkedIn)
    (status : payment.status ≠ .refunded ∧ payment.status ≠ .failed) :
    StatusFollows payment record := by
  obtain ⟨notRefunded, notFailed⟩ := status
  unfold StatusFollows PaymentStatus.Follows
  rw [checkedIn]
  cases before : payment.status <;> simp_all [PaymentStatus.Moves]

theorem Effect.statusFollows {world : World Registry} {action : Action host Registry}
    {change : Change} (wellformed : Wellformed host world) (orderly : Orderly world action)
    (effect : Effect world action change) :
    Tickets.Follows StatusFollows world.tickets (change.tickets world.tickets) := by
  have keyed := wellformed.keyed
  have bulk (timestamp : Nat) (paymentId : PaymentId) (payment : Payment) (item : BatchItem)
      (selected : bulkItem timestamp paymentId payment = some item) :
      StatusFollows payment item.record := by
    obtain ⟨confirmed, rfl⟩ := bulkItem_eq_some selected
    exact follows_refunded rfl (by rw [confirmed]; decide)
  cases effect with
  | nothing | registry | configured | inflow | withdrawal | claim | settlement | feeWithdrawal
  | poap | listing | bid =>
    exact .of_read .refl fun _ => rfl
  | sale env purchase sale of =>
    intro paymentId payment stored
    have read := getPayment_issueTickets purchase sale.share env.timestamp world.tickets paymentId
    by_cases issues : purchase.Issues paymentId
    · rw [if_pos issues] at read
      refine ⟨_, read, .inl ?_⟩
      obtain ⟨index, member, rfl⟩ := issues
      by_cases single : purchase.quantity = 1
      · rw [Purchase.subPaymentId, if_pos single, of.unstored] at stored
        cases stored
      · rw [Purchase.subPaymentId, if_neg single] at stored
        exact (orderly.resolve_left single index member payment stored).symm
    · rw [if_neg issues, stored] at read
      exact ⟨payment, read, .refl payment⟩
  | confirm env paymentId transactionHash =>
    intro other payment stored
    have read := getPayment_confirmTickets env.timestamp paymentId other transactionHash
      world.tickets
    by_cases same : other = paymentId
    · subst same
      rw [if_pos rfl, stored] at read
      exact ⟨_, read, follows_confirmed rfl (orderly payment stored)⟩
    · rw [if_neg same, stored] at read
      exact ⟨payment, read, .refl payment⟩
  | refund env path paymentId payment event refundable found =>
    exact .rewrite .refl refundable.stored (getPayment_writeRefunded ·)
      (follows_refunded rfl refundable.status)
  | cancellationRefund env paymentId payment refundable nonneg =>
    exact .rewrite .refl refundable.stored (getPayment_writeRefunded ·)
      (follows_refunded rfl refundable.status)
  | bulkRefund | cascade =>
    exact follows_walk (bulkItem_refunding _) keyed .refl .trans (bulk _) _
  | partialRefund =>
    refine follows_walk (partialItem_refunding _) keyed .refl .trans
      (fun paymentId payment item selected => ?_) _
    obtain ⟨_, _, _, rfl⟩ := partialItem_eq_some selected
    exact .inl rfl
  | checkIn env paymentId scanner rawSecret payment stored unused =>
    have atOwnId := stored
    rw [← keyed paymentId payment stored] at atOwnId
    exact .rewrite .refl atOwnId (getPayment_checkInTickets env.timestamp paymentId · payment _)
      (follows_checkedIn rfl (orderly payment stored))
  | transfer env paymentId target salePrice payment fee of =>
    exact .rewrite .refl of.stored (getPayment_handOver paymentId · payment _ target _) (.inl rfl)
  | resale env paymentId buyer maxPrice listing payment token royalty of =>
    exact .rewrite .refl of.stored (getPayment_handOver paymentId · payment _ buyer _) (.inl rfl)
  | closing env paymentId eventId tierId event bid fee of =>
    exact .write .refl (fun other => Tickets.getPayment_storePayment _ other _)
      fun payment stored => follows_confirmed rfl (orderly payment stored)

/-! ### The runs -/

/-- A well-formed state whose statuses follow those of an earlier state. -/
structure Later (host : Host) (start world : World Registry) : Prop where
  wellformed : Wellformed host world
  follows : Tickets.Follows StatusFollows start.tickets world.tickets

theorem step_later (start world : World Registry) (action : Action host Registry)
    (orderly : Orderly world action) (later : Later host start world) :
    Later host start (step world action) := by
  obtain ⟨change, effect, does⟩ := step_takes later.wellformed.escrowState action
  refine ⟨step_wellformed world action later.wellformed, later.follows.trans StatusFollows.trans ?_⟩
  rw [does.tickets]
  exact effect.statusFollows later.wellformed orderly

/-- Along an orderly run the status of every payment only moves forward. -/
theorem status_follows_of_orderly (registry : Registry)
    (earlier later : List (Action host Registry))
    (orderly : Respects step Orderly (.fresh registry) (earlier ++ later))
    (paymentId : PaymentId) (payment : Payment)
    (stored : (reached registry earlier).tickets.getPayment paymentId = some payment) :
    ∃ record, (reached registry (earlier ++ later)).tickets.getPayment paymentId = some record ∧
      payment.status.Follows record.status := by
  have rest := (respects_append.mp orderly).2
  have state : Later host (reached registry earlier) (reached registry (earlier ++ later)) := by
    rw [reached, reached, runActions_append]
    exact respects_invariant (Later host _) (step_later _) _ later rest
      ⟨reached_wellformed registry earlier, .of_read .refl fun _ => rfl⟩
  exact state.follows paymentId payment stored

/-- A sale and the refund that follows it. -/
theorem status_follows_sale_and_refund :
    ∃ record, (reached (registryWith concert) (setUp ++ saleAndRefund)).tickets.getPayment
        "ticket" = some record ∧ PaymentStatus.pending.Follows record.status :=
  status_follows_of_orderly (registryWith concert) (setUp ++ saleAndRefund.take 1)
    (saleAndRefund.drop 1)
    ⟨trivial, trivial, trivial, trivial, trivial, .inl rfl, trivial, trivial⟩ "ticket"
    ((ticketFor aliceAddress "ticket" 1).ticket ⟨50, 950, 0⟩ 1 "ticket") rfl

/-- A refunded payment is confirmed. -/
theorem refunded_payment_confirmed :
    ((reached (registryWith concert) (setUp ++ saleAndRefund)).tickets.getPayment "ticket").map
        (·.status) = some .refunded ∧
      ((reached (registryWith concert) (setUp ++ saleAndRefund ++
          [.call (allSign 3) (.confirmPayment "ticket" "hash")])).tickets.getPayment "ticket").map
        (·.status) = some .confirmed := by
  decide

end Agora.TicketPayment

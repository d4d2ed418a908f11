/-
This file asks whether the status index of an event lists exactly the payments that
have the status.

A write that moves the id in the index together with the record keeps the two in
step. Writing a record through `store_payment` does not: the index learns only of ids
that were not stored before. The check-in, the bulk refund and the refund cascade
change a status that way, and the two ways of issuing a ticket may replace a record
that way. Where no step does, the index mirrors the records in every state.
-/

import Agora.EventRegistry.System
import Agora.TicketPayment.Reachable

namespace Agora.TicketPayment

open Soroban EventRegistry

variable {Registry : Type} [RegistryApi Registry] {host : Host}

namespace Tickets

/-! ### Writing a record and its entry -/

/-- The status index lists exactly the stored payments of the event with the status. -/
def Mirrors (tickets : Tickets) : Prop :=
  ∀ eventId status paymentId,
    paymentId ∈ tickets.byStatus.getPaymentsByStatus eventId status ↔
      ∃ payment, tickets.getPayment paymentId = some payment ∧ payment.eventId = eventId ∧
        payment.status = status

variable {tickets next : Tickets} {paymentId : PaymentId} {payment record : Payment}

theorem mirrors_empty : empty.Mirrors := by
  intro eventId status paymentId
  simp [empty, StatusIndex.getPaymentsByStatus, StatusIndex.empty, getPayment]

variable (mirrors : tickets.Mirrors)

include mirrors

theorem Mirrors.of_same (records : ∀ other, next.getPayment other = tickets.getPayment other)
    (index : next.byStatus = tickets.byStatus) : next.Mirrors := by
  intro eventId status other
  rw [index, records]
  exact mirrors eventId status other

/-- The entries of one stored payment. -/
theorem Mirrors.mem_iff (stored : tickets.getPayment paymentId = some payment) {eventId : EventId}
    {status : PaymentStatus} :
    paymentId ∈ tickets.byStatus.getPaymentsByStatus eventId status ↔
      payment.eventId = eventId ∧ payment.status = status := by
  rw [mirrors eventId status paymentId, stored]
  simp

/-- A write of one record keeps the mirror when the entries of its id, and no others, become
those of the record. -/
theorem Mirrors.write
    (read : ∀ other, next.getPayment other =
      if other = paymentId then some record else tickets.getPayment other)
    (own : ∀ eventId status, paymentId ∈ next.byStatus.getPaymentsByStatus eventId status ↔
      record.eventId = eventId ∧ record.status = status)
    (others : ∀ eventId status other, other ≠ paymentId →
      (other ∈ next.byStatus.getPaymentsByStatus eventId status ↔
        other ∈ tickets.byStatus.getPaymentsByStatus eventId status)) : next.Mirrors := by
  intro eventId status other
  rw [read]
  by_cases same : other = paymentId
  · rw [same, own, if_pos rfl]
    simp
  · rw [if_neg same, others eventId status other same]
    exact mirrors eventId status other

/-- A write that keeps the event and the status needs no new entry. -/
theorem Mirrors.rewrite (stored : tickets.getPayment paymentId = some payment)
    (read : ∀ other, next.getPayment other =
      if other = paymentId then some record else tickets.getPayment other)
    (index : next.byStatus = tickets.byStatus) (sameEvent : record.eventId = payment.eventId)
    (sameStatus : record.status = payment.status) : next.Mirrors := by
  refine mirrors.write read (fun eventId status => ?_) fun eventId status other _ => by rw [index]
  rw [index, sameEvent, sameStatus]
  exact mirrors.mem_iff stored

/-- A record that changes its status moves in the index. -/
theorem Mirrors.reindex {record : Payment} (stored : tickets.getPayment paymentId = some payment)
    (sameEvent : record.eventId = payment.eventId) :
    ((tickets.setPayment paymentId record).reindexStatus payment.eventId payment.status
      record.status paymentId).Mirrors := by
  unfold reindexStatus
  split
  · rename_i sameStatus
    exact mirrors.rewrite stored (getPayment_setPayment tickets paymentId · record) rfl sameEvent
      sameStatus.symm
  · rename_i moved
    have entries (eventId : EventId) (status : PaymentStatus) (other : PaymentId) :=
      StatusIndex.mem_addPaymentToStatusIndex
        (tickets.byStatus.removePaymentFromStatusIndex payment.eventId payment.status paymentId)
        payment.eventId eventId record.status status paymentId other
    simp only [StatusIndex.mem_removePaymentFromStatusIndex] at entries
    refine mirrors.write (getPayment_setPayment tickets paymentId · record)
      (fun eventId status => ?_) fun eventId status other different => ?_
    · -- the old entry is the only one of the id, and it goes
      refine (entries eventId status paymentId).trans ?_
      rw [mirrors.mem_iff stored, sameEvent]
      constructor
      · rintro (⟨⟨event, old⟩, gone⟩ | ⟨event, new, _⟩)
        · exact absurd ⟨event.symm, old.symm, rfl⟩ gone
        · exact ⟨event.symm, new.symm⟩
      · rintro ⟨event, new⟩
        exact .inr ⟨event.symm, new.symm, rfl⟩
    · refine (entries eventId status other).trans ?_
      simp [different]

/-- Storing a record keeps the mirror when the id is new or the record it replaces has the same
event and the same status. -/
theorem Mirrors.storePayment
    (replaces : ∀ payment ∈ tickets.getPayment record.paymentId,
      payment.eventId = record.eventId ∧ payment.status = record.status) :
    (tickets.storePayment record).Mirrors := by
  have read (other : PaymentId) := getPayment_storePayment tickets other record
  cases stored : tickets.getPayment record.paymentId with
  | some payment =>
    obtain ⟨sameEvent, sameStatus⟩ := replaces payment stored
    refine mirrors.rewrite stored read ?_ sameEvent.symm sameStatus.symm
    simp [Tickets.storePayment, stored, setPayment]
  | none =>
    have index : (tickets.storePayment record).byStatus =
        tickets.byStatus.addPaymentToStatusIndex record.eventId record.status
          record.paymentId := by
      simp [Tickets.storePayment, stored]
    have absent (eventId : EventId) (status : PaymentStatus) :
        record.paymentId ∉ tickets.byStatus.getPaymentsByStatus eventId status := by
      rw [mirrors eventId status record.paymentId, stored]
      simp
    refine mirrors.write read (fun eventId status => ?_) fun eventId status other different => ?_
    · rw [index, StatusIndex.mem_addPaymentToStatusIndex]
      simp [absent, eq_comm]
    · rw [index, StatusIndex.mem_addPaymentToStatusIndex]
      simp [different]

/-- The tickets of a sale, when each replaces none but a pending one of the event. -/
theorem Mirrors.issueTickets {purchase : Purchase} {share : TicketShare} {createdAt : Nat}
    {indices : List Nat}
    (replaces : ∀ index ∈ indices, ∀ payment ∈ tickets.getPayment (purchase.subPaymentId index),
      payment.eventId = purchase.eventId ∧ payment.status = .pending) :
    (indices.foldl (issueTicket purchase share createdAt) tickets).Mirrors := by
  induction indices generalizing tickets with
  | nil => exact mirrors
  | cons index rest inductionHypothesis =>
    have stored : (tickets.storePayment (purchase.record share createdAt index)).Mirrors :=
      mirrors.storePayment (replaces index List.mem_cons_self)
    have issued : (issueTicket purchase share createdAt tickets index).Mirrors :=
      stored.of_same (fun _ => rfl) rfl
    refine inductionHypothesis issued fun other member payment found => ?_
    rw [getPayment_issueTicket, Option.mem_def] at found
    -- an index of the rest may give the id that was just issued
    split at found
    · cases found
      exact ⟨rfl, rfl⟩
    · exact replaces other (List.mem_cons_of_mem _ member) payment found

/-- A loop over a batch, when each of its turns keeps the event and the status. -/
theorem Mirrors.walk {select : Selection} (refunding : Selection.Refunding select)
    (keyed : tickets.Keyed)
    (turn : ∀ paymentId payment item, select paymentId payment = some item →
      item.record.status = payment.status)
    (ids : List PaymentId) : (storeRecords (selectedAmong select tickets ids) tickets).Mirrors := by
  refine walk_invariant refunding keyed Mirrors ?_ mirrors
  intro reached payment item mirrors stored selected
  refine mirrors.storePayment fun earlier found => ?_
  cases stored.symm.trans found
  exact ⟨(refunding _ payment item selected).terms.eventId.symm,
    (turn _ payment item selected).symm⟩

end Tickets

/-! ### Steps that keep the mirror -/

/-- The condition on a step: no ticket is checked in, no confirmed payment is met by a bulk refund
or a cascade, and a ticket that is issued replaces none of another event or status. -/
def Mirrored (world : World Registry) : Action host Registry → Prop
  | .call _ (.processPayment purchase) => purchase.quantity = 1 ∨
      ∀ index ∈ List.range purchase.quantity,
        ∀ payment ∈ world.tickets.getPayment (batchPaymentId index),
          payment.eventId = purchase.eventId ∧ payment.status = .pending
  | .call _ (.checkIn paymentId _ _) => ∀ payment ∈ world.tickets.getPayment paymentId,
      payment.status = .checkedIn
  | .call _ (.triggerBulkRefund eventId batchSize) =>
      NoneConfirmed world.tickets (bulkWindow world eventId batchSize)
  | .call _ (.triggerDisputeRefundCascade eventId) =>
      NoneConfirmed world.tickets (world.tickets.getEventPayments eventId)
  | .call _ (.closeAuction paymentId eventId _) =>
      ∀ payment ∈ world.tickets.getPayment paymentId,
        payment.eventId = eventId ∧ payment.status = .confirmed
  | _ => True

theorem Effect.mirrors {world : World Registry} {action : Action host Registry}
    {change : Change} (wellformed : Wellformed host world) (mirrored : Mirrored world action)
    (mirrors : world.tickets.Mirrors) (effect : Effect world action change) :
    (change.tickets world.tickets).Mirrors := by
  cases effect with
  | nothing | registry | configured | inflow | withdrawal | claim | settlement | feeWithdrawal
  | listing | bid =>
    exact mirrors
  | poap => exact mirrors.of_same (fun _ => rfl) rfl
  | sale env purchase sale of =>
    refine mirrors.issueTickets fun index member payment => ?_
    rw [Purchase.subPaymentId]
    split
    · rw [of.unstored]
      exact fun absent => by cases absent
    · rename_i batch
      exact mirrored.resolve_left batch index member payment
  | confirm env paymentId transactionHash =>
    show (confirmTickets _ _ _ _).Mirrors
    unfold confirmTickets
    cases stored : world.tickets.getPayment paymentId with
    | none => exact mirrors
    | some payment =>
      exact mirrors.reindex stored rfl
  | refund env path paymentId payment event refundable found =>
    exact mirrors.reindex refundable.stored rfl
  | cancellationRefund env paymentId payment refundable nonneg =>
    exact mirrors.reindex refundable.stored rfl
  | bulkRefund env eventId batchSize =>
    have nothing : bulkItems env world eventId batchSize = [] := selectedAmong_bulkItem mirrored
    rw [nothing]
    exact mirrors
  | cascade env eventId =>
    have nothing : cascadeItems env world eventId = [] := selectedAmong_bulkItem mirrored
    rw [nothing]
    exact mirrors
  | partialRefund env eventId percentageBps batchSize =>
    refine mirrors.walk (partialItem_refunding _) wellformed.keyed
      (fun paymentId payment item selected => ?_) _
    obtain ⟨_, _, _, rfl⟩ := partialItem_eq_some selected
    rfl
  | checkIn env paymentId scanner rawSecret payment stored unused =>
    exact absurd (mirrored payment stored) unused
  | transfer env paymentId target salePrice payment fee of =>
    exact mirrors.rewrite of.stored (getPayment_handOver paymentId · payment _ target _) rfl rfl rfl
  | resale env paymentId buyer maxPrice listing payment token royalty of =>
    exact mirrors.rewrite of.stored (getPayment_handOver paymentId · payment _ buyer _) rfl rfl rfl
  | closing env paymentId eventId tierId event bid fee of => exact mirrors.storePayment mirrored

/-! ### The runs -/

structure MirroredState (host : Host) (world : World Registry) : Prop where
  wellformed : Wellformed host world
  mirrors : world.tickets.Mirrors

theorem step_mirroredState (world : World Registry) (action : Action host Registry)
    (mirrored : Mirrored world action) (state : MirroredState host world) :
    MirroredState host (step world action) := by
  obtain ⟨change, effect, does⟩ := step_takes state.wellformed.escrowState action
  refine ⟨step_wellformed world action state.wellformed, ?_⟩
  rw [does.tickets]
  exact effect.mirrors state.wellformed mirrored state.mirrors

/-- In a run of such steps the status index of every event lists exactly the payments that have
the status, each once. -/
theorem statusIndex_mirrors_of_mirrored (registry : Registry)
    (actions : List (Action host Registry))
    (mirrored : Respects step Mirrored (.fresh registry) actions) (eventId : EventId)
    (status : PaymentStatus) :
    ((reached registry actions).tickets.byStatus.getPaymentsByStatus eventId status).Nodup ∧
      ∀ paymentId,
        paymentId ∈ (reached registry actions).tickets.byStatus.getPaymentsByStatus eventId
            status ↔
          ∃ payment, (reached registry actions).tickets.getPayment paymentId = some payment ∧
            payment.eventId = eventId ∧ payment.status = status := by
  have state : MirroredState host (reached registry actions) :=
    respects_invariant (MirroredState host) step_mirroredState _ actions mirrored
      ⟨wellformed_fresh registry, Tickets.mirrors_empty⟩
  exact ⟨StatusIndex.nodup _ eventId status, state.mirrors eventId status⟩

/-- A sale and its refund. -/
theorem statusIndex_mirrors_sale_and_refund :
    "ticket" ∈ (reached (registryWith concert)
        (setUp ++ saleAndRefund)).tickets.byStatus.getPaymentsByStatus "concert" .refunded ↔
      ∃ payment, (reached (registryWith concert) (setUp ++ saleAndRefund)).tickets.getPayment
          "ticket" = some payment ∧ payment.eventId = "concert" ∧ payment.status = .refunded :=
  (statusIndex_mirrors_of_mirrored (registryWith concert) (setUp ++ saleAndRefund)
    ⟨trivial, trivial, trivial, trivial, trivial, .inl rfl, trivial, trivial⟩ "concert"
    .refunded).2 "ticket"

/-- A checked-in ticket is still listed as pending. -/
theorem checked_in_ticket_listed_pending :
    let world := reached (registryWith concert) (setUp ++
      [.call (allSign 1) (.processPayment (ticketFor aliceAddress "ticket" 1)),
        .call (allSign 2) (.checkIn "ticket" organizerAddress [])])
    (world.tickets.getPayment "ticket").map (·.status) = some .checkedIn ∧
      world.tickets.byStatus.getPaymentsByStatus "concert" .pending = ["ticket"] ∧
      world.tickets.byStatus.getPaymentsByStatus "concert" .checkedIn = [] := by
  decide

end Agora.TicketPayment

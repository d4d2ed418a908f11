/-
This file proves what holds in every state of every run without any condition:
records are stored under their own id, and neither a holder of a ticket nor a bidder,
a seller or the platform wallet is ever the contract itself.
-/

import Agora.TicketPayment.Contract

namespace Agora.TicketPayment

open Soroban

variable {Registry : Type} {host : Host}

/-! ### Properties of all records -/

variable {tickets : Tickets}

/-- A sale keeps a property of all records that its own records have. -/
theorem Tickets.Every.issueTickets {property : PaymentId → Payment → Prop}
    (every : tickets.Every property) {purchase : Purchase} {share : TicketShare} {createdAt : Nat}
    (issued : ∀ index, property (purchase.subPaymentId index)
      (purchase.record share createdAt index)) :
    (issueTickets purchase share createdAt tickets).Every property := by
  intro other payment found
  rw [getPayment_issueTickets] at found
  split at found
  · rename_i issues
    obtain ⟨index, _, rfl⟩ := issues
    cases found
    exact issued index
  · exact every other payment found

/-! ### Batches -/

variable {select : Selection} {ids : List PaymentId}

/-- What each turn of a loop over a batch keeps, the loop keeps, and what each turn finds of the
payment it refunds holds of all items. -/
theorem walk_rule (property : Tickets → Prop) (found : BatchItem → Prop)
    (turn : ∀ tickets, ∀ paymentId ∈ ids, ∀ payment item, property tickets →
      tickets.getPayment paymentId = some payment → select paymentId payment = some item →
      property (tickets.storePayment item.record) ∧ found item)
    (start : property tickets) :
    property (storeRecords (selectedAmong select tickets ids) tickets) ∧
      ∀ item ∈ selectedAmong select tickets ids, found item := by
  induction ids generalizing tickets with
  | nil => exact ⟨start, List.forall_mem_nil _⟩
  | cons paymentId rest inductionHypothesis =>
    have later (tickets : Tickets) := @inductionHypothesis tickets fun tickets paymentId member =>
      turn tickets paymentId (List.mem_cons_of_mem _ member)
    rw [selectedAmong]
    cases chosen : (tickets.getPayment paymentId).bind (select paymentId) with
    | none => exact later tickets start
    | some item =>
      obtain ⟨payment, stored, selected⟩ := Option.bind_eq_some_iff.mp chosen
      obtain ⟨kept, first⟩ := turn tickets paymentId List.mem_cons_self payment item start stored
        selected
      exact ⟨(later _ kept).1, List.forall_mem_cons.mpr ⟨first, (later _ kept).2⟩⟩

/-- A loop over a batch keeps a property that its records inherit from the records they
replace, and refunds only payments with that property. -/
theorem Tickets.Every.walk {property : PaymentId → Payment → Prop} (every : tickets.Every property)
    {select : Selection}
    (keeps : ∀ paymentId payment item, select paymentId payment = some item →
      property paymentId payment → property item.record.paymentId item.record) :
    (storeRecords (selectedAmong select tickets ids) tickets).Every property ∧
      ∀ item ∈ selectedAmong select tickets ids, ∃ paymentId payment,
        property paymentId payment ∧ select paymentId payment = some item := by
  refine walk_rule (fun reached => reached.Every property) _
    (fun reached paymentId _ payment item every stored selected => ?_) every
  have held := every paymentId payment stored
  exact ⟨every.write (fun other => Tickets.getPayment_storePayment reached other item.record)
    (keeps paymentId payment item selected held), paymentId, payment, held, selected⟩

variable {timestamp : Nat} {paymentId : PaymentId} {payment : Payment} {item : BatchItem}

theorem bulkItem_eq_some (selected : bulkItem timestamp paymentId payment = some item) :
    payment.status = .confirmed ∧ item = ⟨paymentId, payment, payment.refunded timestamp,
      payment.amount, payment.organizerAmount, payment.platformFee, true⟩ := by
  unfold bulkItem at selected
  split at selected
  · exact ⟨‹_›, (Option.some.inj selected).symm⟩
  · cases selected

variable {percentage : Nat}

theorem partialItem_eq_some (selected : partialItem percentage paymentId payment = some item) :
    payment.status = .confirmed ∧ 0 < partialRefundAmount percentage payment ∧
      partialRefundAmount percentage payment ≤ payment.organizerAmount ∧
      item = ⟨paymentId, payment,
        payment.partlyRefunded (partialRefundAmount percentage payment),
        partialRefundAmount percentage payment, partialRefundAmount percentage payment, 0,
        decide (InI128 (payment.refundedAmount + partialRefundAmount percentage payment))⟩ := by
  simp only [partialItem] at selected
  split at selected
  · rename_i conditions
    exact ⟨conditions.1, conditions.2.1, conditions.2.2, (Option.some.inj selected).symm⟩
  · cases selected

theorem mem_selectedAmong (member : item ∈ selectedAmong select tickets ids) :
    ∃ paymentId payment, select paymentId payment = some item :=
  (walk_rule (fun _ => True) (fun item => ∃ paymentId payment, select paymentId payment = some item)
    (fun _ paymentId _ payment _ _ _ selected => ⟨trivial, paymentId, payment, selected⟩)
    trivial).2 item member

/-- A batch refunds confirmed payments as they are stored before it. -/
theorem stored_of_mem_selectedAmong
    (member : item ∈ selectedAmong (bulkItem timestamp) tickets ids) :
    ∃ paymentId ∈ ids, tickets.getPayment paymentId = some item.payment ∧
      bulkItem timestamp paymentId item.payment = some item := by
  -- the records that the loop has written are refunded, so a confirmed one is an old one
  refine (walk_rule (fun reached => ∀ paymentId payment,
      reached.getPayment paymentId = some payment → payment.status = .confirmed →
        tickets.getPayment paymentId = some payment)
    (fun item => ∃ paymentId ∈ ids, tickets.getPayment paymentId = some item.payment ∧
      bulkItem timestamp paymentId item.payment = some item) ?_ fun _ _ stored _ => stored).2
    item member
  intro reached paymentId inIds payment item old stored selected
  obtain ⟨confirmed, rfl⟩ := bulkItem_eq_some selected
  refine ⟨fun other record found again => ?_, paymentId, inIds,
    old paymentId payment stored confirmed, selected⟩
  rw [Tickets.getPayment_storePayment] at found
  split at found
  · cases found
    cases again
  · exact old other record found again

/-- A loop refunds nothing exactly when it finds nothing to refund in the records as they are. -/
theorem selectedAmong_eq_nil_iff :
    selectedAmong select tickets ids = [] ↔
      ∀ paymentId ∈ ids, (tickets.getPayment paymentId).bind (select paymentId) = none := by
  induction ids with
  | nil => exact iff_of_true rfl fun _ member => absurd member List.not_mem_nil
  | cons paymentId rest inductionHypothesis =>
    rw [selectedAmong, List.forall_mem_cons]
    cases chosen : (tickets.getPayment paymentId).bind (select paymentId) with
    | none => exact inductionHypothesis.trans (and_iff_right rfl).symm
    | some item => exact iff_of_false (List.cons_ne_nil _ _) fun both => by cases both.1

/-- No stored record of the id is refunded already. -/
def NotRefunded (world : World Registry) (paymentId : PaymentId) : Prop :=
  ∀ payment ∈ world.tickets.getPayment paymentId, payment.status ≠ .refunded

instance (world : World Registry) (paymentId : PaymentId) :
    Decidable (NotRefunded world paymentId) :=
  inferInstanceAs (Decidable (∀ payment ∈ world.tickets.getPayment paymentId, _))

/-- None of the payments is confirmed. -/
def NoneConfirmed (tickets : Tickets) (ids : List PaymentId) : Prop :=
  ∀ paymentId ∈ ids, ∀ payment ∈ tickets.getPayment paymentId, payment.status ≠ .confirmed

theorem selectedAmong_bulkItem {timestamp : Nat} (none : NoneConfirmed tickets ids) :
    selectedAmong (bulkItem timestamp) tickets ids = [] :=
  selectedAmong_eq_nil_iff.mpr fun paymentId member => Option.bind_eq_none_iff.mpr
    fun payment stored => if_neg (none paymentId member payment stored)

/-- What is decided when a ticket is issued and never rewritten. The share of the organizer is
rewritten by partial refunds, which a free ticket does not get. -/
structure SameTerms (payment record : Payment) : Prop where
  eventId : record.eventId = payment.eventId := by rfl
  tokenAddress : record.tokenAddress = payment.tokenAddress := by rfl
  amount : record.amount = payment.amount := by rfl
  ticketTierId : record.ticketTierId = payment.ticketTierId := by rfl
  isSoulbound : record.isSoulbound = payment.isSoulbound := by rfl
  platformFee : record.platformFee = payment.platformFee := by rfl
  organizerAmount : payment.amount = 0 → record.organizerAmount = payment.organizerAmount := by
    exact fun _ => rfl

theorem SameTerms.partlyRefunded (positive : 0 < partialRefundAmount percentage payment) :
    SameTerms payment (payment.partlyRefunded (partialRefundAmount percentage payment)) := by
  refine { organizerAmount := fun free => ?_ }
  rw [partialRefundAmount, free, Int.zero_mul, Int.zero_tdiv] at positive
  exact absurd positive (lt_irrefl 0)

/-- An item that refunds a stored payment: its record keeps the id, the holder and the terms. -/
structure BatchItem.Refunds (item : BatchItem) (paymentId : PaymentId) (payment : Payment) :
    Prop where
  named : item.paymentId = paymentId
  payment_eq : item.payment = payment
  sameId : item.record.paymentId = payment.paymentId
  sameBuyer : item.record.buyerAddress = payment.buyerAddress
  terms : SameTerms payment item.record

/-- The items of a loop refund the payments they are chosen for. -/
def Selection.Refunding (select : Selection) : Prop :=
  ∀ paymentId payment item, select paymentId payment = some item → item.Refunds paymentId payment

theorem bulkItem_refunding (timestamp : Nat) : Selection.Refunding (bulkItem timestamp) := by
  intro paymentId payment item selected
  obtain ⟨_, rfl⟩ := bulkItem_eq_some selected
  exact ⟨rfl, rfl, rfl, rfl, {}⟩

theorem partialItem_refunding (percentage : Nat) :
    Selection.Refunding (partialItem percentage) := by
  intro paymentId payment item selected
  obtain ⟨_, positive, _, rfl⟩ := partialItem_eq_some selected
  exact ⟨rfl, rfl, rfl, rfl, .partlyRefunded positive⟩

section Refunding

variable (refunding : Selection.Refunding select) (keyed : tickets.Keyed)

include refunding keyed

/-- Where records are stored under their ids, a turn rewrites the record that it found. -/
theorem walk_invariant (property : Tickets → Prop)
    (turn : ∀ tickets payment item, property tickets →
      tickets.getPayment item.record.paymentId = some payment →
      select item.record.paymentId payment = some item →
      property (tickets.storePayment item.record))
    (start : property tickets) :
    property (storeRecords (selectedAmong select tickets ids) tickets) := by
  refine (walk_rule (fun reached => property reached ∧ reached.Keyed) (fun _ => True) ?_
    ⟨start, keyed⟩).1.1
  rintro reached paymentId _ payment item ⟨holds, keyed⟩ stored selected
  have sameId : item.record.paymentId = paymentId :=
    (refunding paymentId payment item selected).sameId.trans (keyed paymentId payment stored)
  subst sameId
  exact ⟨⟨turn reached payment item holds stored selected, keyed.storePayment⟩, trivial⟩

/-- A loop over a batch relates every record to its successor when each of its turns does. -/
theorem follows_walk {relation : Payment → Payment → Prop}
    (refl : ∀ payment, relation payment payment)
    (compose : ∀ first second third, relation first second → relation second third →
      relation first third)
    (turn : ∀ paymentId payment item, select paymentId payment = some item →
      relation payment item.record) (ids : List PaymentId) :
    Tickets.Follows relation tickets (storeRecords (selectedAmong select tickets ids) tickets) := by
  refine walk_invariant refunding keyed (Tickets.Follows relation tickets) ?_
    (.of_read refl fun _ => rfl)
  intro reached payment item follows stored selected
  exact follows.trans compose (.rewrite refl stored
    (fun other => Tickets.getPayment_storePayment reached other item.record)
    (turn _ payment item selected))

/-- A payment that a loop would refund is refunded, unless its record is replaced before. -/
theorem mem_selectedAmong_of_stored
    (member : paymentId ∈ ids) (stored : tickets.getPayment paymentId = some payment)
    (selected : select paymentId payment = some item) :
    item ∈ selectedAmong select tickets ids := by
  induction ids generalizing tickets with
  | nil => exact absurd member List.not_mem_nil
  | cons first rest inductionHypothesis =>
    rw [selectedAmong]
    cases chosen : (tickets.getPayment first).bind (select first) with
    | none =>
      refine inductionHypothesis keyed ((List.mem_cons.mp member).resolve_left ?_) stored
      rintro rfl
      rw [stored, Option.bind_some, selected] at chosen
      cases chosen
    | some head =>
      obtain ⟨other, otherStored, otherSelected⟩ := Option.bind_eq_some_iff.mp chosen
      have headId := (refunding first other head otherSelected).sameId
      rw [keyed first other otherStored] at headId
      by_cases same : paymentId = first
      · subst same
        cases stored.symm.trans otherStored
        cases selected.symm.trans otherSelected
        exact List.mem_cons_self
      · refine List.mem_cons_of_mem _ (inductionHypothesis
          keyed.storePayment ((List.mem_cons.mp member).resolve_left same) ?_)
        rw [Tickets.getPayment_storePayment, headId, if_neg same, stored]

end Refunding

/-- A partial refund always takes from the organizer. -/
theorem organizerTotal_partialItems_nonneg (world : World Registry) (eventId : EventId)
    (percentageBps batchSize : Nat) :
    0 ≤ organizerTotal (partialItems world eventId percentageBps batchSize) := by
  refine List.sum_nonneg fun value member => ?_
  obtain ⟨item, inItems, rfl⟩ := List.mem_map.mp member
  obtain ⟨paymentId, payment, selected⟩ := mem_selectedAmong inItems
  obtain ⟨_, positive, _, rfl⟩ := partialItem_eq_some selected
  exact positive.le

/-- The holder and the terms of a record are not rewritten by a refund. -/
def StableUnderRefund (property : Payment → Prop) : Prop :=
  ∀ payment record, SameTerms payment record → record.buyerAddress = payment.buyerAddress →
    property payment → property record

variable {property : Payment → Prop}

/-- A loop refunds only payments that were stored before it. -/
theorem Tickets.Every.members (every : tickets.Every fun _ => property)
    (stable : StableUnderRefund property) (refunding : Selection.Refunding select)
    (ids : List PaymentId) (item : BatchItem) (member : item ∈ selectedAmong select tickets ids) :
    property item.payment := by
  obtain ⟨paymentId, payment, holds, selected⟩ :=
    (every.walk (fun paymentId payment item selected =>
      have refunds := refunding paymentId payment item selected
      stable payment item.record refunds.terms refunds.sameBuyer)).2 item member
  rw [(refunding paymentId payment item selected).payment_eq]
  exact holds

variable {world : World Registry} {change : Change}

/-- A record that a step writes over another one keeps its id and its terms, and a new holder is
not the contract. -/
structure Rewritten (host : Host) (payment record : Payment) : Prop where
  sameId : record.paymentId = payment.paymentId
  holder : record.buyerAddress = payment.buyerAddress ∨ record.buyerAddress ≠ host.contract
  terms : SameTerms payment record

/-- A property that rewritten records inherit holds of all records when it holds of those that
are issued. -/
theorem Effect.every_of_issued [RegistryApi Registry] {action : Action host Registry}
    {property : PaymentId → Payment → Prop} (effect : Effect world action change)
    (keyed : world.tickets.Keyed) (every : world.tickets.Every property)
    (inherits : ∀ paymentId payment record, Rewritten host payment record →
      property paymentId payment → property paymentId record)
    (sold : ∀ env purchase sale index, action = .call env (.processPayment purchase) →
      Sale.Of env world purchase sale → property (purchase.subPaymentId index)
        (purchase.record sale.share env.timestamp index))
    (won : ∀ env paymentId eventId tierId event bid fee,
      action = .call env (.closeAuction paymentId eventId tierId) →
        ClosingOf world eventId tierId event bid fee →
          property paymentId (auctionRecord paymentId eventId tierId bid fee (bid.amount - fee)
            env.timestamp)) : (change.tickets world.tickets).Every property := by
  have keeps {select : Selection} (refunding : Selection.Refunding select) (ids : List PaymentId) :
      (storeRecords (selectedAmong select world.tickets ids) world.tickets).Every property := by
    refine walk_invariant refunding keyed (fun reached => reached.Every property) ?_ every
    intro reached payment item held stored selected
    have refunds := refunding _ payment item selected
    exact held.write (fun other => Tickets.getPayment_storePayment reached other item.record)
      (inherits _ payment _ ⟨refunds.sameId, .inl refunds.sameBuyer, refunds.terms⟩
        (held _ payment stored))
  cases effect with
  | nothing | registry | configured | inflow | withdrawal | claim | settlement | feeWithdrawal
  | poap | listing | bid =>
    exact every
  | sale env purchase sale of =>
    exact every.issueTickets fun index => sold env purchase sale index rfl of
  | confirm env paymentId transactionHash =>
    intro other payment found
    rw [getPayment_confirmTickets] at found
    split at found
    · rename_i same
      obtain ⟨before, stored, rfl⟩ := Option.map_eq_some_iff.mp found
      exact inherits other before _ ⟨rfl, .inl rfl, {}⟩ (every other before (same ▸ stored))
    · exact every other payment found
  | refund env path paymentId payment event refundable found =>
    exact every.write (getPayment_writeRefunded ·)
      (inherits paymentId payment _ ⟨rfl, .inl rfl, {}⟩ (every paymentId payment refundable.stored))
  | cancellationRefund env paymentId payment refundable nonneg =>
    exact every.write (getPayment_writeRefunded ·)
      (inherits paymentId payment _ ⟨rfl, .inl rfl, {}⟩ (every paymentId payment refundable.stored))
  | bulkRefund | cascade => exact keeps (bulkItem_refunding _) _
  | partialRefund => exact keeps (partialItem_refunding _) _
  | checkIn env paymentId scanner rawSecret payment stored unused =>
    refine every.write (getPayment_checkInTickets env.timestamp paymentId · payment _) ?_
    rw [keyed paymentId payment stored]
    exact inherits paymentId payment _ ⟨rfl, .inl rfl, {}⟩ (every paymentId payment stored)
  | transfer env paymentId target salePrice payment fee of =>
    exact every.write (getPayment_handOver paymentId · payment _ target _)
      (inherits paymentId payment _ ⟨rfl, .inr of.outside, {}⟩ (every paymentId payment of.stored))
  | resale env paymentId buyer maxPrice listing payment token royalty of =>
    exact every.write (getPayment_handOver paymentId · payment _ buyer _)
      (inherits paymentId payment _ ⟨rfl, .inr (ne_contract_of_signed env of.signed), {}⟩
        (every paymentId payment of.stored))
  | closing env paymentId eventId tierId event bid fee of =>
    exact every.write (fun other => Tickets.getPayment_storePayment _ other _)
      (won env paymentId eventId tierId event bid fee rfl of)

/-! ### Well-formed states -/

/-- What every stored record satisfies. -/
structure RecordSound (host : Host) (paymentId : PaymentId) (payment : Payment) : Prop where
  keyed : payment.paymentId = paymentId
  buyer : payment.buyerAddress ≠ host.contract
  amount_nonneg : 0 ≤ payment.amount

structure Wellformed (host : Host) (world : World Registry) : Prop where
  escrowState : world.escrowState = .empty
  settings : world.settings.Sound host
  records : world.tickets.Every (RecordSound host)
  bids : ∀ key bid, world.auctions.highestBid.get key = some bid →
    bid.bidder ≠ host.contract ∧ 0 ≤ bid.amount
  sellers : ∀ paymentId listing, world.resale.get paymentId = some listing →
    listing.seller ≠ host.contract

theorem Wellformed.keyed (wellformed : Wellformed host world) : world.tickets.Keyed :=
  fun paymentId payment stored => (wellformed.records paymentId payment stored).keyed

theorem Wellformed.buyers_outside (wellformed : Wellformed host world) :
    world.tickets.Every fun _ payment => payment.buyerAddress ≠ host.contract :=
  fun paymentId payment stored => (wellformed.records paymentId payment stored).buyer

theorem outside_stable {host : Host} :
    StableUnderRefund fun payment => payment.buyerAddress ≠ host.contract := by
  intro payment record _ sameBuyer outside
  rw [sameBuyer]
  exact outside

theorem wellformed_fresh (registry : Registry) : Wellformed host (.fresh registry) where
  escrowState := rfl
  settings := ⟨nofun, fun _ => show defaultResaleRoyaltyBps ≤ maxResaleRoyaltyBps by decide⟩
  records := Tickets.every_empty _
  bids := nofun
  sellers := nofun

theorem RecordSound.rewritten {record : Payment} (sound : RecordSound host paymentId payment)
    (same : Rewritten host payment record) : RecordSound host paymentId record where
  keyed := same.sameId.trans sound.keyed
  buyer := same.holder.elim (fun holder => holder ▸ sound.buyer) id
  amount_nonneg := same.terms.amount ▸ sound.amount_nonneg

variable [RegistryApi Registry]

theorem step_wellformed (world : World Registry) (action : Action host Registry)
    (wellformed : Wellformed host world) : Wellformed host (step world action) := by
  obtain ⟨change, effect, does⟩ := step_takes wellformed.escrowState action
  refine ⟨does.escrowState.trans wellformed.escrowState, does.sound wellformed.settings, ?_, ?_, ?_⟩
  · rw [does.tickets]
    refine effect.every_of_issued wellformed.keyed wellformed.records
      (fun paymentId payment record same sound => sound.rewritten same) ?_ ?_
    · intro env purchase sale index _ of
      exact ⟨rfl, ne_contract_of_signed env of.signed, of.amount_nonneg⟩
    · intro env paymentId eventId tierId event bid fee _ of
      obtain ⟨outside, nonneg⟩ := wellformed.bids _ bid of.bidEq
      exact ⟨rfl, outside, nonneg⟩
  · rw [does.auctions]
    intro key other found
    cases effect with
    | bid env eventId tierId bid outside nonneg =>
      exact Store.forall_set wellformed.bids ⟨outside, nonneg⟩ key other found
    | _ => exact wellformed.bids key other found
  · rw [does.resale]
    cases effect with
    | listing env call listing writes => exact Store.forall_set wellformed.sellers writes.outside
    | resale env paymentId buyer maxPrice listing payment token royalty of =>
      exact Store.forall_set wellformed.sellers (wellformed.sellers paymentId listing of.listed)
    | _ => exact wellformed.sellers

/-- Every reachable state is well-formed. -/
theorem reached_wellformed (registry : Registry) (actions : List (Action host Registry)) :
    Wellformed host (reached registry actions) :=
  run_invariant (Wellformed host) step_wellformed _ actions (wellformed_fresh registry)

/-- What every step that meets the condition keeps in a well-formed state holds in every state
that is reached by such steps. -/
theorem reached_invariant {condition : World Registry → Action host Registry → Prop}
    (invariant : World Registry → Prop)
    (keeps : ∀ world action, condition world action → Wellformed host world → invariant world →
      invariant (step world action))
    {registry : Registry} {actions : List (Action host Registry)}
    (respects : Respects step condition (.fresh registry) actions)
    (start : invariant (.fresh registry)) : invariant (reached registry actions) :=
  (respects_invariant (fun world => Wellformed host world ∧ invariant world)
    (fun world action meets both => ⟨step_wellformed world action both.1,
      keeps world action meets both.1 both.2⟩)
    _ actions respects ⟨wellformed_fresh registry, start⟩).2

/-- No ticket, bid or listing that is ever stored belongs to the contract. -/
theorem reached_owners_outside (registry : Registry) (actions : List (Action host Registry)) :
    let world := reached registry actions
    (∀ id, ∀ payment ∈ world.tickets.getPayment id, payment.buyerAddress ≠ host.contract) ∧
      (∀ key, ∀ bid ∈ world.auctions.highestBid.get key, bid.bidder ≠ host.contract) ∧
      ∀ id, ∀ listing ∈ world.resale.get id, listing.seller ≠ host.contract := by
  have sound : Wellformed host _ := reached_wellformed registry actions
  exact ⟨fun id payment stored => (sound.records id payment stored).buyer,
    fun key bid stored => (sound.bids key bid stored).1, sound.sellers⟩

end Agora.TicketPayment

/-
This file asks whether issuing tickets ever replaces a record, and how many ids it
adds.

The ids of a batch are made from the position in the batch alone, so the second batch
of the contract issues the ids of the first one again, and from the sixth ticket on
all tickets of a batch share one id. The ticket of an auction takes any id it is
given.
-/

import Agora.EventRegistry.System
import Agora.TicketPayment.Reachable

namespace Agora.TicketPayment

open Soroban EventRegistry

variable {Registry : Type} [RegistryApi Registry] {host : Host}

/-! ### Keeping records -/

/-- The ids under which a record is stored for the first time. -/
def newIds (before after : Tickets) : Set PaymentId :=
  {paymentId | before.getPayment paymentId = none ∧ (after.getPayment paymentId).isSome = true}

/-- Every stored record stays as it is, and so many ids are new. -/
structure Keeps (before after : Tickets) (count : Nat) : Prop where
  unchanged : Tickets.Follows Eq before after
  counted : (newIds before after).ncard = count

/-- A sale keeps the records, adds one id for each ticket, and stores the validation hash under
each of them. -/
structure SaleKeeps (purchase : Purchase) (before after : Tickets) : Prop where
  keeps : Keeps before after purchase.quantity
  hashed : ∀ paymentId ∈ newIds before after,
    after.validationHash.get paymentId = some purchase.validationHash

/-- The condition on a sale: a single ticket, or a batch of at most six of whose ids none is
stored yet. -/
def FreshIds (world : World Registry) (purchase : Purchase) : Prop :=
  purchase.quantity = 1 ∨ purchase.quantity ≤ 6 ∧
    ∀ index ∈ List.range purchase.quantity,
      world.tickets.getPayment (batchPaymentId index) = none

/-! ### The ids of a sale -/

theorem batchPaymentId_injOn {count : Nat} :
    Set.InjOn batchPaymentId (Finset.range count : Set Nat) ↔ count ≤ 6 := by
  constructor
  · intro injective
    by_contra more
    have both : (5 : Nat) ∈ (Finset.range count : Set Nat) ∧
        (6 : Nat) ∈ (Finset.range count : Set Nat) := by
      constructor <;> simp <;> omega
    have equal : (5 : Nat) = 6 := injective both.1 both.2 rfl
    omega
  · intro few first firstIn second secondIn equal
    have distinct : ∀ first < 6, ∀ second < 6,
        batchPaymentId first = batchPaymentId second → first = second := by decide
    simp only [Finset.coe_range, Set.mem_Iio] at firstIn secondIn
    exact distinct first (by omega) second (by omega) equal

variable {share : TicketShare} {createdAt : Nat} {purchase : Purchase}

theorem newIds_issueTickets (tickets : Tickets) :
    newIds tickets (issueTickets purchase share createdAt tickets) =
      {paymentId | ¬(tickets.getPayment paymentId).isSome = true ∧
        ∃ index ∈ List.range purchase.quantity, purchase.subPaymentId index = paymentId} := by
  ext paymentId
  simp only [newIds, Set.mem_ofPred_eq, getPayment_issueTickets, Bool.not_eq_true,
    Option.isSome_eq_false_iff, Option.isNone_iff_eq_none]
  refine and_congr_right fun absent => ?_
  by_cases issues : purchase.Issues paymentId
  · simp only [if_pos issues, Option.isSome_some, true_iff]
    exact issues
  · simp only [if_neg issues, absent, Option.isSome_none, Bool.false_eq_true, false_iff]
    exact issues

variable {tickets : Tickets}

theorem validationHash_foldl_issueTicket {indices : List Nat} {paymentId : PaymentId}
    (issues : ∃ index ∈ indices, purchase.subPaymentId index = paymentId) :
    (indices.foldl (issueTicket purchase share createdAt) tickets).validationHash.get paymentId =
      some purchase.validationHash := by
  induction indices using List.reverseRecOn with
  | nil => simp at issues
  | append_singleton earlier last inductionHypothesis =>
    rw [List.foldl_append, List.foldl_cons, List.foldl_nil]
    simp only [issueTicket, Tickets.storeValidationHash, Store.get_set]
    split
    · rfl
    · rename_i different
      obtain ⟨index, member, same⟩ := issues
      have inEarlier : index ∈ earlier := by
        rcases List.mem_append.mp member with inEarlier | isLast
        · exact inEarlier
        · rw [List.mem_singleton.mp isLast] at same
          exact absurd same.symm different
      rw [Tickets.validationHash_storePayment]
      exact inductionHypothesis ⟨index, inEarlier, same⟩

/-! ### The two ways of issuing tickets -/

variable {world : World Registry}

omit [RegistryApi Registry] in
/-- The ids of a sale are distinct and not stored exactly when they are fresh. -/
theorem freshIds_iff (unstored : world.tickets.getPayment purchase.paymentId = none) :
    ((∀ index ∈ List.range purchase.quantity,
        ¬(world.tickets.getPayment (purchase.subPaymentId index)).isSome = true) ∧
      Set.InjOn purchase.subPaymentId (Finset.range purchase.quantity : Set Nat)) ↔
      FreshIds world purchase := by
  by_cases single : purchase.quantity = 1
  · refine ⟨fun _ => .inl single, fun _ => ⟨fun index _ => ?_, ?_⟩⟩
    · rw [Purchase.subPaymentId, if_pos single, unstored]
      exact Bool.false_ne_true
    · rw [single]
      simp
  · have ids : purchase.subPaymentId = batchPaymentId :=
      funext fun index => if_neg single
    rw [ids, batchPaymentId_injOn, FreshIds]
    simp [single, and_comm]

omit [RegistryApi Registry] in
/-- A sale keeps the records exactly when its ids are fresh. -/
theorem saleKeeps_iff (unstored : world.tickets.getPayment purchase.paymentId = none) :
    SaleKeeps purchase world.tickets (issueTickets purchase share createdAt world.tickets) ↔
      FreshIds world purchase := by
  have counted := ncard_fresh_keys (fun paymentId =>
    (world.tickets.getPayment paymentId).isSome = true) purchase.subPaymentId purchase.quantity
  rw [← newIds_issueTickets, freshIds_iff unstored] at counted
  refine ⟨fun kept => counted.mp kept.keeps.counted, fun fresh =>
    ⟨⟨fun paymentId payment stored => ⟨payment, ?_, rfl⟩, counted.mpr fresh⟩, ?_⟩⟩
  · have unissued : ¬purchase.Issues paymentId := by
      rintro ⟨index, member, rfl⟩
      have absent := ((freshIds_iff unstored).mpr fresh).1 index member
      rw [stored] at absent
      exact absent rfl
    rw [getPayment_issueTickets, if_neg unissued, stored]
  · rw [newIds_issueTickets]
    rintro paymentId ⟨_, issues⟩
    exact validationHash_foldl_issueTicket issues

/-- The ticket of an auction keeps the records exactly when its id is not stored. -/
theorem keeps_storePayment_iff {payment : Payment} :
    Keeps tickets (tickets.storePayment payment) 1 ↔
      tickets.getPayment payment.paymentId = none := by
  have read (other : PaymentId) := Tickets.getPayment_storePayment tickets other payment
  constructor
  · intro kept
    obtain ⟨paymentId, single⟩ := Set.ncard_eq_one.mp kept.counted
    have new : paymentId ∈ newIds tickets (tickets.storePayment payment) := single ▸ rfl
    obtain ⟨absent, present⟩ := new
    by_cases same : paymentId = payment.paymentId
    · rw [← same, absent]
    · rw [read, if_neg same, absent] at present
      cases present
  · intro absent
    refine ⟨fun other stored found => ⟨stored, ?_, rfl⟩, Set.ncard_eq_one.mpr
      ⟨payment.paymentId, Set.ext fun other => ?_⟩⟩
    · have different : other ≠ payment.paymentId := by
        rintro rfl
        rw [absent] at found
        cases found
      rw [read, if_neg different, found]
    · constructor
      · rintro ⟨unstored, present⟩
        rw [Set.mem_singleton_iff]
        by_contra different
        rw [read, if_neg different, unstored] at present
        cases present
      · rintro rfl
        exact ⟨absent, by rw [read, if_pos rfl]; rfl⟩

/-- In every state, a successful sale keeps all records and adds one id for each ticket exactly
when it sells a single ticket or its ids are fresh, and a successful closing of an auction does
exactly when the id it is given is not stored. -/
theorem issuing_keeps_records_iff (env : Env host) (world : World Registry) :
    (∀ purchase, Ensures (processPayment env purchase) world fun _ next =>
      (SaleKeeps purchase world.tickets next.tickets ↔ FreshIds world purchase)) ∧
    ∀ paymentId eventId tierId, Ensures (closeAuction env paymentId eventId tierId) world
      fun _ next =>
        (Keeps world.tickets next.tickets 1 ↔ world.tickets.getPayment paymentId = none) := by
  refine ⟨fun purchase => ?_, fun paymentId eventId tierId => ?_⟩
  · refine processPayment_ensures.mono ?_
    rintro _ next ⟨sale, of, does, _⟩
    rw [does.tickets]
    exact saleKeeps_iff of.unstored
  · refine closeAuction_ensures.mono ?_
    rintro _ next ⟨event, bid, fee, of, _, _, does, _⟩
    rw [does.tickets]
    exact keeps_storePayment_iff

/-- Two batches of two tickets: the second one replaces the tickets of the first. -/
theorem second_batch_replaces_first :
    ((reached (registryWith concert) (setUp ++
        [.call (allSign 1) (.processPayment
          (ticketFor aliceAddress "first" 2))])).tickets.getPayment "p-0").map (·.buyerAddress) =
        some aliceAddress ∧
      ((reached (registryWith concert) (setUp ++
        [.call (allSign 1) (.processPayment (ticketFor aliceAddress "first" 2)),
          .call (allSign 2) (.processPayment
            (ticketFor bobAddress "second" 2))])).tickets.getPayment "p-0").map (·.buyerAddress) =
        some bobAddress := by
  decide

end Agora.TicketPayment

/-
This file asks whether a bulk refund that has reached the end of an event leaves a
confirmed payment behind, however its batches are mixed with confirmations.

The cursor passes over payments that are still pending and never returns. A payment that
is confirmed after the cursor has passed it is not refunded by any later batch.
-/

import Agora.EventRegistry.System
import Agora.TicketPayment.Reachable

namespace Agora.TicketPayment

open Soroban EventRegistry

variable {Registry : Type} [RegistryApi Registry] {host : Host} {eventId : EventId}

/-! ### Interleavings -/

/-- A batch of the bulk refund of the event, or a confirmation of any payment. -/
def Interleaves (eventId : EventId) : Action host Registry → Prop
  | .call _ (.triggerBulkRefund event _) => event = eventId
  | .call _ (.confirmPayment _ _) => True
  | _ => False

/-- The payments of the event that the cursor has passed. -/
def passed (world : World Registry) (eventId : EventId) : List PaymentId :=
  (world.tickets.getEventPayments eventId).take (bulkRefundIndex world eventId)

/-- The condition on a step: no payment is confirmed that the cursor has passed. -/
def ConfirmsAhead (eventId : EventId) (world : World Registry) : Action host Registry → Prop
  | .call _ (.confirmPayment paymentId _) => paymentId ∉ passed world eventId
  | _ => True

/-- Every record of the event is listed under it. -/
def Listed (tickets : Tickets) (eventId : EventId) : Prop :=
  ∀ paymentId payment, tickets.getPayment paymentId = some payment →
    payment.eventId = eventId → paymentId ∈ tickets.getEventPayments eventId

/-! ### The batches -/

variable {tickets : Tickets}

/-- Rewriting stored records leaves the list of an event alone. -/
theorem getEventPayments_storeRecords {select : Selection} (refunding : Selection.Refunding select)
    (keyed : tickets.Keyed) (ids : List PaymentId) :
    (storeRecords (selectedAmong select tickets ids) tickets).getEventPayments eventId =
      tickets.getEventPayments eventId := by
  refine walk_invariant refunding keyed (fun reached =>
    reached.getEventPayments eventId = tickets.getEventPayments eventId) ?_ rfl
  intro reached payment item same stored selected
  rw [Tickets.storePayment, if_pos (Option.isSome_of_mem stored)]
  exact same

/-- After a batch none of its payments is confirmed, and none that was not before. -/
theorem noneConfirmed_walk (timestamp : Nat) (tickets : Tickets)
    (keyed : tickets.Keyed)
    (done ids : List PaymentId) (none : NoneConfirmed tickets done) :
    NoneConfirmed (storeRecords (selectedAmong (bulkItem timestamp) tickets ids) tickets)
      (done ++ ids) := by
  induction ids generalizing tickets done with
  | nil => rwa [List.append_nil]
  | cons paymentId rest inductionHypothesis =>
    rw [selectedAmong, ← List.singleton_append, ← List.append_assoc]
    cases chosen : (tickets.getPayment paymentId).bind (bulkItem timestamp paymentId) with
    | none =>
      refine inductionHypothesis tickets keyed _ fun other member payment stored => ?_
      rcases List.mem_append.mp member with before | now
      · exact none other before payment stored
      · obtain rfl := List.mem_singleton.mp now
        have skipped := Option.bind_eq_none_iff.mp chosen payment stored
        intro confirmed
        cases (if_pos confirmed).symm.trans skipped
    | some item =>
      obtain ⟨payment, stored, selected⟩ := Option.bind_eq_some_iff.mp chosen
      obtain ⟨_, rfl⟩ := bulkItem_eq_some selected
      refine inductionHypothesis _ keyed.storePayment _ fun other member record found => ?_
      rw [Option.mem_def, Tickets.getPayment_storePayment] at found
      split at found
      · cases found
        intro confirmed
        cases confirmed
      · rename_i different
        rcases List.mem_append.mp member with before | now
        · exact none other before record found
        · exact absurd ((List.mem_singleton.mp now).trans (keyed paymentId payment stored).symm)
            different

variable {world : World Registry}

/-- A bulk refund at the end returns nothing; another one moves the cursor past its batch. -/
theorem triggerBulkRefund_moves {env : Env host} {eventId : EventId} {batchSize : Nat} :
    Ensures (triggerBulkRefund env eventId batchSize) world fun count next =>
      ((world.tickets.getEventPayments eventId).length ≤ bulkRefundIndex world eventId →
        count = 0 ∧ next = world) ∧
      (bulkRefundIndex world eventId < (world.tickets.getEventPayments eventId).length →
        bulkRefundIndex next eventId = min (bulkRefundIndex world eventId + batchSize)
          (world.tickets.getEventPayments eventId).length ∧
        next.tickets = storeRecords (bulkItems env world eventId batchSize) world.tickets) := by
  simp only [triggerBulkRefund, setBulkRefundIndex, ensures_bind, ensures_checks, ensures_getEvent,
    ensures_require, ensures_get, ensures_ite, ensures_pure]
  intro _ _ _ event _ _ _
  refine ⟨fun past => ⟨fun _ => ⟨trivial, trivial⟩, fun before => absurd past (not_le.mpr before)⟩,
    fun before _ => ?_⟩
  refine refundWindow_ensures.mono ?_
  rintro totals middle ⟨does, _⟩
  rw [ensures_modify]
  refine ⟨fun past => absurd past before, fun _ => ⟨?_, does.tickets⟩⟩
  simp [bulkRefundIndex, World.withSettings]

theorem getEventPayments_confirmTickets (eventId : EventId) (timestamp : Nat)
    (paymentId : PaymentId) (transactionHash : String) (tickets : Tickets) :
    (confirmTickets timestamp paymentId transactionHash tickets).getEventPayments eventId =
      tickets.getEventPayments eventId := by
  unfold confirmTickets
  split
  · rfl
  · unfold Tickets.reindexStatus
    split <;> rfl

/-! ### The steps -/

/-- A well-formed state in which the cursor left no confirmed payment behind and every record of
the event is listed. -/
structure CursorState (host : Host) (eventId : EventId) (world : World Registry) : Prop where
  wellformed : Wellformed host world
  none : NoneConfirmed world.tickets (passed world eventId)
  listed : Listed world.tickets eventId

/-- A batch extends what the cursor has passed by its window. -/
theorem take_append_window (ids : List PaymentId) {start stop : Nat} (ordered : start ≤ stop) :
    ids.take start ++ window ids start stop = ids.take stop := by
  have passedBefore : ids.take start = (ids.take stop).take start := by
    rw [List.take_take, min_eq_left ordered]
  rw [window, passedBefore, List.take_append_drop]

/-- The records that a batch rewrites stay in the event they were in. -/
theorem listed_walk {timestamp : Nat} (keyed : tickets.Keyed) (listed : Listed tickets eventId)
    {ids : List PaymentId} :
    (storeRecords (selectedAmong (bulkItem timestamp) tickets ids) tickets).Every
      fun paymentId payment => payment.eventId = eventId →
        paymentId ∈ tickets.getEventPayments eventId := by
  refine walk_invariant (bulkItem_refunding timestamp) keyed
    (fun reached => reached.Every fun paymentId payment => payment.eventId = eventId →
      paymentId ∈ tickets.getEventPayments eventId) ?_ listed
  intro reached payment item held stored selected
  refine held.write (fun other => Tickets.getPayment_storePayment reached other item.record) ?_
  rw [(bulkItem_refunding timestamp _ payment item selected).terms.eventId]
  exact held _ payment stored

theorem step_triggerBulkRefund (state : CursorState host eventId world) (env : Env host)
    (batchSize : Nat) :
    CursorState host eventId (step world (.call env (.triggerBulkRefund eventId batchSize))) := by
  have wellformed := step_wellformed world (.call env (.triggerBulkRefund eventId batchSize))
    state.wellformed
  have moved : Ensures (triggerBulkRefund env eventId batchSize) world fun _ next =>
      NoneConfirmed next.tickets (passed next eventId) ∧ Listed next.tickets eventId := by
    refine triggerBulkRefund_moves.mono ?_
    rintro count next ⟨atEnd, before⟩
    rcases Nat.lt_or_ge (bulkRefundIndex world eventId)
      (world.tickets.getEventPayments eventId).length with inside | past
    · obtain ⟨cursor, tickets⟩ := before inside
      have list : next.tickets.getEventPayments eventId =
          world.tickets.getEventPayments eventId := by
        rw [tickets]
        exact getEventPayments_storeRecords (bulkItem_refunding _) state.wellformed.keyed _
      have ordered : bulkRefundIndex world eventId ≤
          min (bulkRefundIndex world eventId + batchSize)
            (world.tickets.getEventPayments eventId).length :=
        le_min (Nat.le_add_right _ _) inside.le
      constructor
      · rw [passed, list, cursor, tickets, ← take_append_window _ ordered]
        exact noneConfirmed_walk env.timestamp _ state.wellformed.keyed _ _ state.none
      · intro paymentId payment stored ofEvent
        rw [tickets] at stored
        rw [list]
        exact listed_walk state.wellformed.keyed state.listed paymentId payment stored ofEvent
    · obtain ⟨_, rfl⟩ := atEnd past
      exact ⟨state.none, state.listed⟩
  obtain ⟨none, listed⟩ := commit_of_ensures ⟨state.none, state.listed⟩ moved
  exact ⟨wellformed, none, listed⟩

theorem step_confirmPayment (state : CursorState host eventId world) (env : Env host)
    (paymentId : PaymentId) (transactionHash : String) (ahead : paymentId ∉ passed world eventId) :
    CursorState host eventId
      (step world (.call env (.confirmPayment paymentId transactionHash))) := by
  have wellformed := step_wellformed world (.call env (.confirmPayment paymentId transactionHash))
    state.wellformed
  have moved : Ensures (confirmPayment env paymentId transactionHash) world fun _ next =>
      NoneConfirmed next.tickets (passed next eventId) ∧ Listed next.tickets eventId := by
    -- a confirmation rewrites one record and leaves the cursor where it is
    simp only [confirmPayment, ensures_rules, ensures_checks]
    intro _ _ _ _
    have read (other : PaymentId) := getPayment_confirmTickets env.timestamp paymentId other
      transactionHash world.tickets
    have list := getEventPayments_confirmTickets eventId env.timestamp paymentId transactionHash
      world.tickets
    constructor
    · intro other member payment stored
      have behind : other ∈ passed world eventId := by
        rwa [passed, ← list]
      have different : other ≠ paymentId := fun same => ahead (same ▸ behind)
      rw [Option.mem_def, World.withTickets, read, if_neg different] at stored
      exact state.none other behind payment stored
    · intro other payment stored ofEvent
      rw [World.withTickets] at stored ⊢
      rw [list]
      rw [read] at stored
      split at stored
      · rename_i same
        obtain ⟨before, found, rfl⟩ := Option.map_eq_some_iff.mp stored
        exact same ▸ state.listed paymentId before found ofEvent
      · exact state.listed other payment stored ofEvent
  obtain ⟨none, listed⟩ := commit_of_ensures ⟨state.none, state.listed⟩ moved
  exact ⟨wellformed, none, listed⟩

theorem step_cursorState (world : World Registry) (action : Action host Registry)
    (condition : Interleaves eventId action ∧ ConfirmsAhead eventId world action)
    (state : CursorState host eventId world) : CursorState host eventId (step world action) := by
  obtain ⟨interleaves, ahead⟩ := condition
  unfold Interleaves at interleaves
  split at interleaves
  · subst interleaves
    exact step_triggerBulkRefund state _ _
  · exact step_confirmPayment state _ _ _ ahead
  · exact interleaves.elim

/-! ### The interleavings -/

/-- Start where the cursor has left no confirmed payment behind and every payment of the event is
listed, and mix batches with confirmations of payments that the cursor has not passed. When a
batch then finds the cursor at the end, it returns 0 and no payment of the event is confirmed. -/
theorem bulk_refund_leaves_none (registry : Registry) (earlier : List (Action host Registry))
    (eventId : EventId)
    (none : NoneConfirmed (reached registry earlier).tickets
      (passed (reached registry earlier) eventId))
    (listed : Listed (reached registry earlier).tickets eventId)
    (actions : List (Action host Registry))
    (interleaves : ∀ action ∈ actions, Interleaves eventId action)
    (ahead : Respects step (ConfirmsAhead eventId) (reached registry earlier) actions)
    (env : Env host) (batchSize : Nat) :
    Ensures (triggerBulkRefund env eventId batchSize) (reached registry (earlier ++ actions))
      fun count next =>
        ((reached registry (earlier ++ actions)).tickets.getEventPayments eventId).length ≤
            bulkRefundIndex (reached registry (earlier ++ actions)) eventId →
          count = 0 ∧ ∀ paymentId payment, next.tickets.getPayment paymentId = some payment →
            payment.eventId = eventId → payment.status ≠ .confirmed := by
  have state : CursorState host eventId (reached registry (earlier ++ actions)) := by
    rw [reached, runActions_append]
    exact respects_invariant (CursorState host eventId) step_cursorState _ actions
      ((respects_of_forall interleaves _).and ahead)
      ⟨reached_wellformed registry earlier, none, listed⟩
  refine triggerBulkRefund_moves.mono ?_
  rintro count next ⟨atEnd, _⟩ past
  obtain ⟨zero, rfl⟩ := atEnd past
  refine ⟨zero, fun paymentId payment stored ofEvent => ?_⟩
  have everyPassed : passed (reached registry (earlier ++ actions)) eventId =
      (reached registry (earlier ++ actions)).tickets.getEventPayments eventId :=
    List.take_of_length_le past
  exact state.none paymentId (everyPassed ▸ state.listed paymentId payment stored ofEvent) payment
    stored

/-- The ticket is confirmed before the only batch. -/
theorem confirmed_ticket_refunded :
    let world := reached (registryWith concert) (concertCancelled ++
      [.call (allSign 3) (.confirmPayment "ticket" "hash"),
        .call (allSign 4) (.triggerBulkRefund "concert" 1)])
    bulkRefundIndex world "concert" = 1 ∧
      Ensures (triggerBulkRefund (allSign 5) "concert" 1) world fun count next =>
        count = 0 ∧ ∀ paymentId payment, next.tickets.getPayment paymentId = some payment →
          payment.eventId = "concert" → payment.status ≠ .confirmed := by
  refine ⟨by decide, (bulk_refund_leaves_none (registryWith concert) concertCancelled "concert"
    (fun _ member => absurd member List.not_mem_nil) (fun paymentId payment stored _ => ?_) _ ?_ ?_
    (allSign 5) 1).mono fun _ _ conclusion => conclusion (by decide)⟩
  · have read : (reached (registryWith concert) concertCancelled).tickets.getPayment paymentId =
        if paymentId = "ticket" then
          some ((ticketFor aliceAddress "ticket" 1).ticket ⟨50, 950, 0⟩ 1 "ticket")
        else none := rfl
    rw [read] at stored
    split at stored
    · rename_i sold
      exact sold ▸ List.mem_singleton_self "ticket"
    · cases stored
  · exact List.forall_mem_cons.mpr ⟨trivial, List.forall_mem_singleton.mpr rfl⟩
  · exact ⟨List.not_mem_nil, trivial, trivial⟩

/-- The ticket is confirmed after the cursor has passed it. -/
theorem late_confirmation_left_behind :
    let world := reached (registryWith concert) (concertCancelled ++
      [.call (allSign 3) (.triggerBulkRefund "concert" 1),
        .call (allSign 4) (.confirmPayment "ticket" "hash")])
    bulkRefundIndex world "concert" = 1 ∧
      world.tickets.getEventPayments "concert" = ["ticket"] ∧
      ((triggerBulkRefund (allSign 5) "concert" 1).run world).toOption.map (·.1) = some 0 ∧
      ((step world (.call (allSign 5) (.triggerBulkRefund "concert" 1))).tickets.getPayment
        "ticket").map (·.status) = some .confirmed := by
  decide

end Agora.TicketPayment

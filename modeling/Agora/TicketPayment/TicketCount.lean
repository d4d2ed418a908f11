/-
This file asks whether the registry's count of the tickets sold in a tier is the number
of tickets sold there whose payment is not refunded.

A sale and the closing of an auction add their tickets to the count, and the refund of a
single payment takes its ticket off. The bulk refund and the cascade refund payments
without telling the registry. The count also parts from the payments where a refunded
one is confirmed or checked in again, and where a ticket is issued under an id that is
stored already.
-/

import Agora.Lib.Census
import Agora.TicketPayment.Records

namespace Agora.TicketPayment

open Soroban EventRegistry

variable {host : Host} {eventId : EventId} {tierId : TierId}

/-! ### The tickets of a tier -/

/-- A payment of the tier is open unless it is refunded; one of another tier has no standing. -/
def Payment.standing (payment : Payment) (eventId : EventId) (tierId : TierId) : Option Bool :=
  if payment.eventId = eventId ∧ payment.ticketTierId = tierId then
    some (payment.status ≠ .refunded)
  else none

def Tickets.standing (tickets : Tickets) (eventId : EventId) (tierId : TierId)
    (paymentId : PaymentId) : Option Bool :=
  (tickets.getPayment paymentId).bind (·.standing eventId tierId)

/-- The tickets that a step sells in the tier, by the ids of their payments. -/
def ticketsSold (eventId : EventId) (tierId : TierId) (world : World EventRegistry.Registry) :
    Action host EventRegistry.Registry → Multiset PaymentId
  | .call env (.processPayment purchase) =>
    if purchase.eventId = eventId ∧ purchase.ticketTierId = tierId then
      match (processPayment env purchase).run world with
      | .ok _ => ((List.range purchase.quantity).map purchase.subPaymentId : List PaymentId)
      | .error _ => 0
    else 0
  | .call env (.closeAuction paymentId event tier) =>
    if event = eventId ∧ tier = tierId then
      match (closeAuction env paymentId event tier).run world with
      | .ok _ => [paymentId]
      | .error _ => 0
    else 0
  | _ => 0

/-- The steps that may change the count of a tier. -/
def Action.CallsInventory {Registry : Type} : Action host Registry → Prop
  | .registry _ => True
  | .call _ (.processPayment _) => True
  | .call _ (.closeAuction _ _ _) => True
  | .call _ (.refund _ _) => True
  | .call _ (.claimCancellationRefund _) => True
  | _ => False

/-- The registry changes on its own, but not its count of the tier. -/
def KeepsCount (eventId : EventId) (tierId : TierId) (world : World EventRegistry.Registry) :
    Action host EventRegistry.Registry → Prop
  | .registry next => next.currentSold eventId tierId =
      world.registry.currentSold eventId tierId
  | _ => True

/-- The condition on a step: tickets are issued under fresh ids, no refunded payment is confirmed
or checked in, and no confirmed payment is met by a bulk refund or a cascade. -/
def Tallied {Registry : Type} [RegistryApi Registry] (world : World Registry) :
    Action host Registry → Prop
  | .call _ (.processPayment purchase) => FreshIds world purchase
  | .call _ (.closeAuction paymentId _ _) => world.tickets.getPayment paymentId = none
  | .call _ (.confirmPayment paymentId _) => NotRefunded world paymentId
  | .call _ (.checkIn paymentId _ _) => NotRefunded world paymentId
  | .call _ (.triggerBulkRefund eventId batchSize) =>
      NoneConfirmed world.tickets (bulkWindow world eventId batchSize)
  | .call _ (.triggerDisputeRefundCascade eventId) =>
      NoneConfirmed world.tickets (world.tickets.getEventPayments eventId)
  | _ => True

/-! ### Standings -/

theorem Payment.standing_congr {payment record : Payment}
    (event : record.eventId = payment.eventId) (tier : record.ticketTierId = payment.ticketTierId)
    (refunded : record.status = .refunded ↔ payment.status = .refunded) :
    record.standing eventId tierId = payment.standing eventId tierId := by
  simp [standing, event, tier, refunded]

namespace Tickets

variable {tickets next : Tickets} {paymentId : PaymentId} {record : Payment} {other : PaymentId}

theorem standing_of_read (same : ∀ other, next.getPayment other = tickets.getPayment other) :
    next.standing eventId tierId other = tickets.standing eventId tierId other := by
  rw [standing, standing, same]

/-- Writing one record changes one standing. -/
theorem standing_write
    (read : ∀ other, next.getPayment other =
      if other = paymentId then some record else tickets.getPayment other) (other : PaymentId) :
    next.standing eventId tierId other =
      if other = paymentId then record.standing eventId tierId
      else tickets.standing eventId tierId other := by
  rw [standing, read]
  split
  · rfl
  · rfl

variable {payment : Payment}

theorem standing_of_stored (stored : tickets.getPayment paymentId = some payment) :
    tickets.standing eventId tierId paymentId = payment.standing eventId tierId := by
  rw [standing, stored, Option.bind_some]

/-- A payment of the tier is open exactly when it is not refunded. -/
theorem standing_eq_true_iff (present : (tickets.standing eventId tierId paymentId).isSome = true) :
    tickets.standing eventId tierId paymentId = some true ↔
      (tickets.getPayment paymentId).map (·.status) ≠ some .refunded := by
  cases stored : tickets.getPayment paymentId with
  | none =>
    rw [standing, stored] at present
    cases present
  | some payment =>
    rw [standing_of_stored stored, Payment.standing] at present ⊢
    split at present
    · rename_i ofTier
      simp [ofTier]
    · cases present

/-- Rewriting a record within its tier, refunded or not as before, changes no standing. -/
theorem standing_rewrite (stored : tickets.getPayment paymentId = some payment)
    (read : ∀ other, next.getPayment other =
      if other = paymentId then some record else tickets.getPayment other)
    (same : record.standing eventId tierId = payment.standing eventId tierId) (other : PaymentId) :
    next.standing eventId tierId other = tickets.standing eventId tierId other := by
  rw [standing_write read, same]
  split
  · rename_i equal
    rw [equal, standing_of_stored stored]
  · rfl

/-- A loop over a batch changes no standing when none of its turns does. -/
theorem standing_walk {select : Selection} (refunding : Selection.Refunding select)
    (keyed : tickets.Keyed)
    (turn : ∀ paymentId payment item, select paymentId payment = some item →
      item.record.standing eventId tierId = payment.standing eventId tierId)
    {ids : List PaymentId} :
    (storeRecords (selectedAmong select tickets ids) tickets).standing eventId tierId other =
      tickets.standing eventId tierId other := by
  refine walk_invariant refunding keyed (fun reached => ∀ other,
    reached.standing eventId tierId other = tickets.standing eventId tierId other) ?_
    (fun _ => rfl) other
  intro reached payment item same stored selected other
  exact (standing_rewrite stored (getPayment_storePayment reached · item.record)
    (turn _ payment item selected) other).trans (same other)

end Tickets

variable {paymentId : PaymentId}

section Quiet

variable {Registry : Type} {world : World Registry} {action : Action host Registry}
  {change : Change}

/-- A step that does not call the registry changes no standing. -/
theorem Effect.standing_eq [RegistryApi Registry] (wellformed : Wellformed host world)
    (tallied : Tallied world action) (effect : Effect world action change)
    (quiet : change.callsRegistry = false) :
    (change.tickets world.tickets).standing eventId tierId paymentId =
      world.tickets.standing eventId tierId paymentId := by
  cases effect with
  | nothing | configured | inflow | withdrawal | claim | settlement | feeWithdrawal | poap
  | listing | bid =>
    exact Tickets.standing_of_read (fun _ => rfl)
  | registry | sale | refund | cancellationRefund | closing => cases quiet
  | confirm env confirmed transactionHash =>
    have read (other : PaymentId) := getPayment_confirmTickets env.timestamp confirmed other
      transactionHash world.tickets
    cases stored : world.tickets.getPayment confirmed with
    | none =>
      refine Tickets.standing_of_read (fun other => (read other).trans ?_)
      split
      · rename_i same
        rw [same, stored, Option.map_none]
      · rfl
    | some payment =>
      rw [stored] at read
      exact Tickets.standing_rewrite stored read
        (Payment.standing_congr rfl rfl (iff_of_false nofun (tallied payment stored))) paymentId
  | bulkRefund env eventId batchSize =>
    have nothing : bulkItems env world eventId batchSize = [] := selectedAmong_bulkItem tallied
    rw [nothing]
    rfl
  | cascade env eventId =>
    have nothing : cascadeItems env world eventId = [] := selectedAmong_bulkItem tallied
    rw [nothing]
    rfl
  | partialRefund env eventId percentageBps batchSize =>
    refine Tickets.standing_walk (partialItem_refunding _) wellformed.keyed
      (fun other payment item selected => ?_)
    obtain ⟨_, _, _, rfl⟩ := partialItem_eq_some selected
    rfl
  | checkIn env used scanner rawSecret payment stored unused =>
    have storedAsKeyed : world.tickets.getPayment payment.paymentId = some payment := by
      rw [wellformed.keyed used payment stored, stored]
    exact Tickets.standing_rewrite storedAsKeyed
      (getPayment_checkInTickets env.timestamp used · payment _)
      (Payment.standing_congr rfl rfl (iff_of_false nofun (tallied payment stored))) paymentId
  | transfer env paymentId target salePrice payment fee of =>
    exact Tickets.standing_rewrite of.stored (getPayment_handOver paymentId · payment _ target _)
      rfl _
  | resale env paymentId buyer maxPrice listing payment token royalty of =>
    exact Tickets.standing_rewrite of.stored (getPayment_handOver paymentId · payment _ buyer _)
      rfl _

/-- Only the steps that may change the count of a tier call the registry. -/
theorem Effect.quiet [RegistryApi Registry] (effect : Effect world action change)
    (other : ¬action.CallsInventory) : change.callsRegistry = false := by
  cases effect with
  | registry | sale | closing | refund | cancellationRefund => exact absurd trivial other
  | _ => rfl

end Quiet

/-! ### The steps -/

/-- What a step does to the count of a tier: nothing, it issues tickets under fresh ids, or it
refunds an open one. -/
inductive CountTurn (eventId : EventId) (tierId : TierId) (world : World EventRegistry.Registry)
    (action : Action host EventRegistry.Registry) : Prop
  | keeps
      (standing : ∀ paymentId, (step world action).tickets.standing eventId tierId paymentId =
        world.tickets.standing eventId tierId paymentId)
      (sold : (step world action).registry.currentSold eventId tierId =
        world.registry.currentSold eventId tierId)
      (tickets : ticketsSold eventId tierId world action = 0)
  | issues (ids : List PaymentId) (distinct : ids.Nodup)
      (fresh : ∀ paymentId ∈ ids, world.tickets.standing eventId tierId paymentId = none)
      (standing : ∀ paymentId, (step world action).tickets.standing eventId tierId paymentId =
        if paymentId ∈ ids then some true
        else world.tickets.standing eventId tierId paymentId)
      (sold : (step world action).registry.currentSold eventId tierId =
        world.registry.currentSold eventId tierId + ids.length)
      (tickets : ticketsSold eventId tierId world action = ids)
  | refunds (paymentId : PaymentId)
      (opened : world.tickets.standing eventId tierId paymentId = some true)
      (standing : ∀ other, (step world action).tickets.standing eventId tierId other =
        if other = paymentId then some false
        else world.tickets.standing eventId tierId other)
      (sold : (step world action).registry.currentSold eventId tierId =
        world.registry.currentSold eventId tierId - 1)
      (tickets : ticketsSold eventId tierId world action = 0)

namespace CountTurn

variable {world : World EventRegistry.Registry} {action : Action host EventRegistry.Registry}

theorem failed (same : step world action = world)
    (tickets : ticketsSold eventId tierId world action = 0) :
    CountTurn eventId tierId world action :=
  .keeps (fun paymentId => by rw [same]) (by rw [same]) tickets

/-- Whatever entry point a payment is refunded through, the registry takes off one ticket of its
tier. -/
theorem refunded {payment record : Payment} {user : Address}
    (stored : world.tickets.getPayment paymentId = some payment)
    (opened : payment.status ≠ .refunded)
    (written : (step world action).tickets = writeRefunded paymentId payment record world.tickets)
    (event : record.eventId = payment.eventId) (tier : record.ticketTierId = payment.ticketTierId)
    (closed : record.status = .refunded)
    (called : RegistryApi.decrementInventory world.registry host.contract payment.eventId
      payment.ticketTierId user = some (step world action).registry)
    (tickets : ticketsSold eventId tierId world action = 0) :
    CountTurn eventId tierId world action := by
  have sold := currentSold_decremented called eventId tierId
  have read (other : PaymentId) : (step world action).tickets.getPayment other =
      if other = paymentId then some record else world.tickets.getPayment other := by
    rw [written, getPayment_writeRefunded]
  have before : world.tickets.standing eventId tierId paymentId =
    payment.standing eventId tierId := Tickets.standing_of_stored stored
  by_cases ofTier : payment.eventId = eventId ∧ payment.ticketTierId = tierId
  · refine .refunds paymentId ?_ (fun other => ?_) ?_ tickets
    · rw [before, Payment.standing, if_pos ofTier]
      simp [opened]
    · rw [Tickets.standing_write read, Payment.standing, event, tier, if_pos ofTier]
      simp [closed]
    · rw [sold, if_pos ⟨ofTier.1.symm, ofTier.2.symm⟩, Int.sub_eq_add_neg]
  · refine .keeps (Tickets.standing_rewrite stored read ?_) ?_ tickets
    · rw [Payment.standing, event, tier, if_neg ofTier, Payment.standing, if_neg ofTier]
    · rw [sold, if_neg fun same => ofTier ⟨same.1.symm, same.2.symm⟩, add_zero]

/-- A sale and a closing issue tickets of one tier under ids that are not stored. -/
theorem issued (soldEvent : EventId) (soldTier : TierId) (ids : List PaymentId)
    (record : PaymentId → Payment) (distinct : ids.Nodup)
    (unstored : ∀ paymentId ∈ ids, world.tickets.getPayment paymentId = none)
    (opened : ∀ paymentId, (record paymentId).standing eventId tierId =
      if soldEvent = eventId ∧ soldTier = tierId then some true else none)
    (read : ∀ paymentId, (step world action).tickets.getPayment paymentId =
      if paymentId ∈ ids then some (record paymentId) else world.tickets.getPayment paymentId)
    (sold : (step world action).registry.currentSold eventId tierId =
      world.registry.currentSold eventId tierId +
        if eventId = soldEvent ∧ tierId = soldTier then (ids.length : Int) else 0)
    (tickets : ticketsSold eventId tierId world action =
      if soldEvent = eventId ∧ soldTier = tierId then (ids : Multiset PaymentId) else 0) :
    CountTurn eventId tierId world action := by
  have fresh (paymentId : PaymentId) (member : paymentId ∈ ids) :
      world.tickets.standing eventId tierId paymentId = none := by
    rw [Tickets.standing, unstored paymentId member, Option.bind_none]
  have standing (paymentId : PaymentId) :
      (step world action).tickets.standing eventId tierId paymentId =
        if paymentId ∈ ids then (record paymentId).standing eventId tierId
        else world.tickets.standing eventId tierId paymentId := by
    rw [Tickets.standing, read]
    split <;> rfl
  by_cases ofTier : soldEvent = eventId ∧ soldTier = tierId
  · refine .issues ids distinct fresh (fun paymentId => ?_) ?_ (tickets.trans (if_pos ofTier))
    · rw [standing, opened, if_pos ofTier]
    · rw [sold, if_pos ⟨ofTier.1.symm, ofTier.2.symm⟩]
  · refine .keeps (fun paymentId => ?_) ?_ (tickets.trans (if_neg ofTier))
    · rw [standing, opened, if_neg ofTier]
      split
      · rename_i member
        exact (fresh paymentId member).symm
      · rfl
    · rw [sold, if_neg fun same => ofTier ⟨same.1.symm, same.2.symm⟩, add_zero]

variable (env : Env host)

theorem processPayment {purchase : Purchase} (fresh : FreshIds world purchase) :
    CountTurn eventId tierId world (.call env (.processPayment purchase)) := by
  have stepped : step world (.call env (.processPayment purchase)) =
      commit (TicketPayment.processPayment env purchase) world := rfl
  rcases commit_cases (TicketPayment.processPayment env purchase) world with
    ⟨fault, run, same⟩ | ⟨value, run⟩
  · exact .failed (stepped.trans same) (by simp [ticketsSold, run])
  · rw [← stepped] at run
    obtain ⟨sale, of, does, registry, incremented, multiplier, awarded⟩ :=
      processPayment_ensures _ _ run
    obtain ⟨unstored, injective⟩ := (freshIds_iff of.unstored).mpr fresh
    refine .issued purchase.eventId purchase.ticketTierId
      ((List.range purchase.quantity).map purchase.subPaymentId)
      (purchase.ticket sale.share env.timestamp) ?_ ?_ (fun paymentId => rfl) (fun paymentId => ?_)
      ?_ ?_
    · refine List.Nodup.map_on (fun first firstIn second secondIn => ?_) List.nodup_range
      exact injective (by simpa using firstIn) (by simpa using secondIn)
    · intro paymentId member
      obtain ⟨index, inRange, rfl⟩ := List.mem_map.mp member
      exact Option.not_isSome_iff_eq_none.mp (unstored index inRange)
    · rw [does.tickets]
      exact (getPayment_issueTickets purchase sale.share env.timestamp world.tickets
        paymentId).trans (if_congr List.mem_map.symm rfl rfl)
    · rw [awarded, currentSold_updateLoyaltyScore, currentSold_incremented incremented,
        List.length_map, List.length_range]
    · simp only [ticketsSold, run]

theorem closeAuction {event : EventId} {tier : TierId}
    (unstored : world.tickets.getPayment paymentId = none) :
    CountTurn eventId tierId world (.call env (.closeAuction paymentId event tier)) := by
  have stepped : step world (.call env (.closeAuction paymentId event tier)) =
      commit (TicketPayment.closeAuction env paymentId event tier) world := rfl
  rcases commit_cases (TicketPayment.closeAuction env paymentId event tier) world with
    ⟨fault, run, same⟩ | ⟨value, run⟩
  · exact .failed (stepped.trans same) (by simp [ticketsSold, run])
  · rw [← stepped] at run
    obtain ⟨info, bid, fee, of, _, incremented, does, _⟩ := closeAuction_ensures _ _ run
    refine .issued event tier [paymentId]
      (fun _ => auctionRecord paymentId event tier bid fee (bid.amount - fee) env.timestamp)
      (List.nodup_singleton paymentId) ?_ (fun _ => rfl) (fun other => ?_) ?_ ?_
    · intro other member
      rw [List.mem_singleton.mp member, unstored]
    · rw [does.tickets]
      exact (Tickets.getPayment_storePayment world.tickets other _).trans
        (if_congr List.mem_singleton.symm rfl rfl)
    · rw [currentSold_incremented incremented]
      rfl
    · simp only [ticketsSold, run]

theorem refund {path : RefundPath} :
    CountTurn eventId tierId world (.call env (.refund path paymentId)) := by
  have stepped : step world (.call env (.refund path paymentId)) =
      commit (refundVia env paymentId path) world := rfl
  rcases commit_cases (refundVia env paymentId path) world with ⟨_, _, same⟩ | ⟨value, run⟩
  · exact .failed (stepped.trans same) rfl
  · rw [← stepped] at run
    obtain ⟨payment, event, refundable, _, _, decremented, does⟩ := refundVia_ensures _ _ run
    exact .refunded refundable.stored refundable.status.1 does.tickets rfl rfl rfl decremented rfl

theorem claimCancellationRefund :
    CountTurn eventId tierId world (.call env (.claimCancellationRefund paymentId)) := by
  have stepped : step world (.call env (.claimCancellationRefund paymentId)) =
      commit (TicketPayment.claimCancellationRefund env paymentId) world := rfl
  rcases commit_cases (TicketPayment.claimCancellationRefund env paymentId) world with
    ⟨_, _, same⟩ | ⟨value, run⟩
  · exact .failed (stepped.trans same) rfl
  · rw [← stepped] at run
    obtain ⟨payment, refundable, _, does, decremented⟩ := claimCancellationRefund_ensures _ _ run
    exact .refunded refundable.stored refundable.status.1 does.tickets rfl rfl rfl decremented rfl

/-- A step that leaves the count of the registry alone changes no standing either. -/
theorem elsewhere (wellformed : Wellformed host world) (tallied : Tallied world action)
    (other : ¬action.CallsInventory) : CountTurn eventId tierId world action := by
  obtain ⟨change, effect, does⟩ := step_takes wellformed.escrowState action
  have quiet := effect.quiet other
  refine .keeps (fun paymentId => ?_) (by rw [does.registry quiet]) ?_
  · rw [does.tickets]
    exact effect.standing_eq wellformed tallied quiet
  · unfold ticketsSold
    split
    · exact absurd trivial other
    · exact absurd trivial other
    · rfl

theorem of_step (wellformed : Wellformed host world)
    (keeps : KeepsCount eventId tierId world action) (tallied : Tallied world action) :
    CountTurn eventId tierId world action := by
  cases action with
  | registry next => exact .keeps (fun _ => rfl) keeps rfl
  | tokens move => exact .elsewhere wellformed tallied id
  | call env call =>
    cases call with
    | processPayment purchase => exact .processPayment env tallied
    | closeAuction paymentId event tier => exact .closeAuction env tallied
    | refund path paymentId => exact .refund env
    | claimCancellationRefund paymentId => exact .claimCancellationRefund env
    | _ => exact .elsewhere wellformed tallied id

end CountTurn

/-! ### The runs -/

/-- A well-formed state with a census of the tickets of the tier. -/
structure CensusState (host : Host) (eventId : EventId) (tierId : TierId)
    (world : World EventRegistry.Registry) (sold : Multiset PaymentId) : Prop where
  wellformed : Wellformed host world
  census : Census (world.tickets.standing eventId tierId) sold
    (world.registry.currentSold eventId tierId)

theorem step_censusState (world : World EventRegistry.Registry) (sold : Multiset PaymentId)
    (action : Action host EventRegistry.Registry)
    (condition : KeepsCount eventId tierId world action ∧ Tallied world action)
    (state : CensusState host eventId tierId world sold) :
    CensusState host eventId tierId (step world action)
      (sold + ticketsSold eventId tierId world action) := by
  obtain ⟨wellformed, census⟩ := state
  refine ⟨step_wellformed world action wellformed, ?_⟩
  cases CountTurn.of_step wellformed condition.1 condition.2 with
  | keeps standing count tickets =>
    rw [tickets, add_zero, count]
    exact census.congr standing
  | issues ids distinct fresh standing count tickets =>
    rw [tickets, count]
    exact census.issue ids distinct fresh standing
  | refunds paymentId opened standing count tickets =>
    rw [tickets, add_zero, count]
    exact census.close opened standing

/-- In every run of such steps in which the registry leaves the count of a tier to the payment
contract, the count is the number of tickets sold whose payment is not refunded. -/
theorem ticket_count_agrees (registry : EventRegistry.Registry)
    (actions : List (Action host EventRegistry.Registry)) (eventId : EventId) (tierId : TierId)
    (unsold : registry.currentSold eventId tierId = 0)
    (keeps : Respects step (KeepsCount eventId tierId) (.fresh registry) actions)
    (tallied : Respects step Tallied (.fresh registry) actions) :
    (reached registry actions).registry.currentSold eventId tierId =
      ((runTotal step (ticketsSold eventId tierId) (.fresh registry) actions).countP
        fun paymentId => ((reached registry actions).tickets.getPayment paymentId).map (·.status) ≠
          some .refunded : Nat) := by
  have start : CensusState host eventId tierId (.fresh registry) 0 :=
    ⟨reached_wellformed registry [], unsold ▸ Census.empty⟩
  have state := runTotal_invariant (CensusState host eventId tierId) (ticketsSold eventId tierId)
    step_censusState (.fresh registry) 0 actions (keeps.and tallied) start
  rw [zero_add] at state
  refine state.census.counted.trans (congrArg Nat.cast ?_)
  refine Multiset.countP_congr rfl fun paymentId member => propext ?_
  exact Tickets.standing_eq_true_iff ((state.census.members paymentId).mp member)

/-- Two tickets are sold and one is refunded. -/
def soldTwoRefundedOne : List (Action EventRegistry.stage EventRegistry.Registry) :=
  setUp ++
    [.call (allSign 1) (.processPayment (ticketFor aliceAddress "batch" 2)),
      .call (allSign 2) (.refund .guest "p-0")]

/-- One of them is left. -/
theorem one_of_two_counted :
    let refunded := reached (registryWith concert) soldTwoRefundedOne
    refunded.registry.currentSold "concert" "general" = 1 ∧
      ((runTotal step (ticketsSold "concert" "general") (.fresh (registryWith concert))
        soldTwoRefundedOne).countP fun paymentId =>
          (refunded.tickets.getPayment paymentId).map (·.status) ≠ some .refunded : Int) = 1 := by
  have agrees := ticket_count_agrees (registryWith concert) soldTwoRefundedOne "concert" "general"
    rfl ⟨trivial, trivial, trivial, trivial, trivial, trivial, trivial, trivial⟩
    ⟨trivial, trivial, trivial, trivial, trivial, .inr ⟨by decide, fun _ _ => rfl⟩, trivial,
      trivial⟩
  have left : (reached (registryWith concert) soldTwoRefundedOne).registry.currentSold "concert"
    "general" = 1 := by decide
  exact ⟨left, agrees.symm.trans left⟩

/-- The confirmed ticket is refunded after the cancellation, and the registry counts it on. -/
theorem refunded_ticket_still_counted :
    let cancelled := ticketConfirmed ++
      [.registry (cancelConcert (reached (registryWith concert) ticketConfirmed).registry)]
    let actions := cancelled ++ [.call (allSign 4) (.triggerBulkRefund "concert" 1)]
    let refunded := reached (registryWith concert) actions
    (registryWith concert).currentSold "concert" "general" = 0 ∧
      Respects step (KeepsCount "concert" "general") (.fresh (registryWith concert)) actions ∧
      refunded.registry.currentSold "concert" "general" = 1 ∧
      (runTotal step (ticketsSold "concert" "general") (.fresh (registryWith concert))
        actions).countP (fun paymentId =>
          (refunded.tickets.getPayment paymentId).map (·.status) ≠ some .refunded) = 0 := by
  refine ⟨rfl, ?_, by decide, by decide⟩
  exact ⟨trivial, trivial, trivial, trivial, trivial, trivial, trivial, rfl, trivial, trivial⟩

end Agora.TicketPayment

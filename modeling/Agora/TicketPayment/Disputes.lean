/-
This file asks whether a live dispute freezes the money of the event.

The common refund, the withdrawal, the claim and the cascade each ask the registry for
a dispute. The refund of a cancelled event and the refunds of many payments do not ask,
and pay whatever they find.
-/

import Agora.EventRegistry.System
import Agora.TicketPayment.Reachable

namespace Agora.TicketPayment

open Soroban EventRegistry

variable {Registry : Type} [RegistryApi Registry] {host : Host} {eventId : EventId}

/-! ### Frozen money -/

/-- No token left the contract, and nothing was taken from the balance of the event. -/
structure Frozen (host : Host) (eventId : EventId) (world next : World Registry) : Prop where
  tokens : ∀ token, world.tokens.balance token host.contract ≤
    next.tokens.balance token host.contract
  organizer : (world.books.getEventBalance eventId).organizerAmount ≤
    (next.books.getEventBalance eventId).organizerAmount
  withdrawn : (world.books.getEventBalance eventId).totalWithdrawn ≤
    (next.books.getEventBalance eventId).totalWithdrawn
  platform : (world.books.getEventBalance eventId).platformFee ≤
    (next.books.getEventBalance eventId).platformFee

/-- The postings of a step that leaves the money of an event frozen. -/
structure TakesNothing (eventId : EventId) (lines : List (Posting Account)) : Prop where
  tokens : ∀ token, 0 ≤ posted lines (.held token)
  organizer : 0 ≤ posted lines (.organizer eventId)
  withdrawn : 0 ≤ posted lines (.withdrawn eventId)
  platform : 0 ≤ posted lines (.platform eventId)

variable {world : World Registry}

omit [RegistryApi Registry] in
theorem Does.frozen_iff {change : Change} {next : World Registry}
    (does : Does host change world next) :
    Frozen host eventId world next ↔ TakesNothing eventId change.lines := by
  have rises (account : Account) : world.ledger host account ≤ next.ledger host account ↔
      0 ≤ posted change.lines account := by
    rw [does.ledger, post_apply]
    exact le_add_iff_nonneg_right _
  constructor
  · intro frozen
    exact ⟨fun token => (rises (.held token)).mp (frozen.tokens token),
      (rises (.organizer eventId)).mp frozen.organizer,
      (rises (.withdrawn eventId)).mp frozen.withdrawn,
      (rises (.platform eventId)).mp frozen.platform⟩
  · intro nothing
    exact ⟨fun token => (rises (.held token)).mpr (nothing.tokens token),
      (rises (.organizer eventId)).mpr nothing.organizer,
      (rises (.withdrawn eventId)).mpr nothing.withdrawn,
      (rises (.platform eventId)).mpr nothing.platform⟩

/-! ### Free tickets -/

/-- Nobody has a share in a free ticket. -/
def FreeShares (payment : Payment) : Prop :=
  payment.amount = 0 → payment.organizerAmount = 0 ∧ payment.platformFee = 0

theorem freeShares_of_terms {payment record : Payment} (same : SameTerms payment record)
    (free : FreeShares payment) : FreeShares record := by
  intro nothing
  rw [same.amount] at nothing
  rw [same.organizerAmount nothing, same.platformFee]
  exact free nothing

/-- A price of nothing is split into nothing. -/
theorem SplitTerms.free {feeBps loyaltyBps : Nat} {rate : Option Nat} {split : Split}
    {gross rebate reward : Int}
    (terms : SplitTerms 0 feeBps loyaltyBps rate split gross rebate reward) :
    split.organizerAmount = 0 ∧ split.platformFee = 0 := by
  have grossZero : gross = 0 := by rw [terms.grossEq, Int.zero_mul, Int.zero_tdiv]
  have rebateZero : rebate = 0 := by simp [terms.rebateEq, grossZero]
  have rewardZero : reward = 0 := by
    rw [terms.rewardEq, grossZero, rebateZero]
    cases rate <;> simp
  have referralZero : split.referralReward = 0 := by
    cases rate with
    | none => exact terms.referralRewardEq
    | some _ =>
      have referral : split.referralReward = min reward (0 - gross) := terms.referralRewardEq
      simp [referral, grossZero, rewardZero]
  rw [terms.organizerAmountEq, terms.platformFeeEq, referralZero, grossZero, rebateZero, rewardZero]
  exact ⟨rfl, rfl⟩

theorem Sale.Of.freeShares {env : Env host} {purchase : Purchase} {sale : Sale}
    (of : sale.Of env world purchase) {createdAt index : Nat} :
    FreeShares (purchase.record sale.share createdAt index) := by
  intro (nothing : purchase.amount = 0)
  have total : sale.totalAmount = 0 := by rw [of.total, nothing, Int.zero_mul]
  have price : sale.price = 0 := by
    have bounds := of.lowers total.ge
    omega
  obtain ⟨_, _, _, terms⟩ := splitPayment_terms of.split
  rw [price] at terms
  have share := of.share
  simp only [Split.perTicket, Option.bind_eq_bind, Option.bind_eq_some_iff,
    Option.some.injEq] at share
  obtain ⟨_, platformEq, _, organizerEq, _, _, shareEq⟩ := share
  show sale.share.organizerAmount = 0 ∧ sale.share.platformFee = 0
  rw [← shareEq, (eq_of_checkedDiv platformEq).2, (eq_of_checkedDiv organizerEq).2, terms.free.1,
    terms.free.2, Int.zero_tdiv]
  exact ⟨rfl, rfl⟩

/-- A well-formed state in which nobody has a share in a free ticket. -/
structure FreeState (host : Host) (world : World Registry) : Prop where
  wellformed : Wellformed host world
  free : world.tickets.Every fun _ => FreeShares

theorem step_freeState (world : World Registry) (action : Action host Registry)
    (state : FreeState host world) : FreeState host (step world action) := by
  obtain ⟨change, effect, does⟩ := step_takes state.wellformed.escrowState action
  refine ⟨step_wellformed world action state.wellformed, ?_⟩
  rw [does.tickets]
  refine effect.every_of_issued state.wellformed.keyed state.free
    (fun _ payment record same => freeShares_of_terms same.terms) ?_ ?_
  · rintro env purchase sale index rfl of
    exact of.freeShares
  · rintro env paymentId closed tierId event bid fee rfl of (nothing : bid.amount = 0)
    have fee : fee = 0 := by rw [of.feeEq, nothing, Int.zero_mul, Int.zero_tdiv]
    exact ⟨by simp [auctionRecord, nothing, fee], fee⟩

theorem reached_freeState {registry : Registry} {actions : List (Action host Registry)} :
    FreeState host (reached registry actions) :=
  run_invariant (FreeState host) step_freeState _ actions
    ⟨wellformed_fresh registry, Tickets.every_empty _⟩

/-! ### What the unguarded refunds take -/

variable {paymentId : PaymentId}

theorem refundLines_takesNothing_iff {payment : Payment} (nonneg : 0 ≤ payment.amount)
    (free : FreeShares payment) :
    TakesNothing payment.eventId
        (refundLines paymentId payment payment.amount payment.organizerAmount) ↔
      payment.amount = 0 := by
  constructor
  · intro nothing
    have sent := nothing.tokens payment.tokenAddress
    simp at sent
    omega
  · intro amount
    obtain ⟨organizer, platform⟩ := free amount
    constructor <;> simp [amount, organizer, platform]

/-- What an item of a batch sends of a token. -/
def BatchItem.refundIn (token : Address) (item : BatchItem) : Int :=
  if item.payment.tokenAddress = token then item.refund else 0

theorem windowChange_takesNothing_iff {items : List BatchItem}
    (outside : ∀ item ∈ items, item.payment.buyerAddress ≠ host.contract)
    (nonneg : ∀ item ∈ items, 0 ≤ item.refund)
    (free : ∀ item ∈ items, item.refund = 0 → item.organizerBack = 0 ∧ item.platformBack = 0) :
    TakesNothing eventId (windowChange host eventId items).lines ↔
      ∀ item ∈ items, item.refund = 0 := by
  have held (token : Address) : posted (windowChange host eventId items).lines (.held token) =
      -(items.map (·.refundIn token)).sum := by
    have turns : posted (items.flatMap (itemLines host)) (.held token) =
        -(items.map (·.refundIn token)).sum := by
      refine posted_items_neg fun item member => ?_
      by_cases same : item.payment.tokenAddress = token <;>
        simp [BatchItem.refundIn, outside item member, same]
    simp [windowChange, turns]
  constructor
  · intro nothing item member
    have kept := nothing.tokens item.payment.tokenAddress
    have sent : ∀ value ∈ items.map (·.refundIn item.payment.tokenAddress), 0 ≤ value := by
      intro value inValues
      obtain ⟨other, inItems, rfl⟩ := List.mem_map.mp inValues
      have refund := nonneg other inItems
      unfold BatchItem.refundIn
      split <;> omega
    have bound := List.single_le_sum sent _ (List.mem_map_of_mem member)
    rw [BatchItem.refundIn, if_pos rfl] at bound
    have refund := nonneg item member
    rw [held] at kept
    omega
  · intro zero
    have vanishes (value : BatchItem → Int) (each : ∀ item ∈ items, value item = 0) :
        (items.map value).sum = 0 :=
      List.sum_eq_zero (List.forall_mem_map.mpr each)
    have organizer : organizerTotal items = 0 :=
      vanishes _ fun item member => (free item member (zero item member)).1
    have platform : platformTotal items = 0 :=
      vanishes _ fun item member => (free item member (zero item member)).2
    have sent (token : Address) : (items.map (·.refundIn token)).sum = 0 := by
      refine vanishes _ fun item member => ?_
      rw [BatchItem.refundIn, zero item member, ite_self]
    refine ⟨fun token => ?_, ?_, ?_, ?_⟩
    · rw [held, sent, Int.neg_zero]
    · simp [organizer]
    · simp
    · simp [platform]

variable {ids : List PaymentId} {tickets : Tickets}

/-- A bulk refund pays nothing exactly when the confirmed payments it looks at were free. -/
theorem bulk_refund_zero_iff (keyed : tickets.Keyed) {timestamp : Nat} :
    (∀ item ∈ selectedAmong (bulkItem timestamp) tickets ids, item.refund = 0) ↔
      ∀ paymentId ∈ ids, ∀ payment ∈ tickets.getPayment paymentId,
        payment.status = .confirmed → payment.amount = 0 := by
  constructor
  · intro zero paymentId member payment stored confirmed
    have selected : bulkItem timestamp paymentId payment = some _ := if_pos confirmed
    exact zero _ (mem_selectedAmong_of_stored (bulkItem_refunding _) keyed member stored selected)
  · intro free item member
    obtain ⟨paymentId, inIds, stored, selected⟩ := stored_of_mem_selectedAmong member
    obtain ⟨confirmed, same⟩ := bulkItem_eq_some selected
    rw [same]
    exact free paymentId inIds item.payment stored confirmed

/-- A partial refund pays nothing exactly when it finds no confirmed payment whose part is
positive and covered by the share of the organizer. -/
theorem partial_refund_zero_iff {percentage : Nat} :
    (∀ item ∈ selectedAmong (partialItem percentage) tickets ids, item.refund = 0) ↔
      ∀ paymentId ∈ ids, ∀ payment ∈ tickets.getPayment paymentId, payment.status = .confirmed →
        partialRefundAmount percentage payment ≤ 0 ∨
          payment.organizerAmount < partialRefundAmount percentage payment := by
  have nothing : (∀ item ∈ selectedAmong (partialItem percentage) tickets ids, item.refund = 0) ↔
      selectedAmong (partialItem percentage) tickets ids = [] := by
    rw [List.eq_nil_iff_forall_not_mem]
    refine forall_congr' fun item => imp_congr_right fun member => iff_of_false ?_ id
    obtain ⟨_, _, selected⟩ := mem_selectedAmong member
    obtain ⟨_, positive, _, rfl⟩ := partialItem_eq_some selected
    exact positive.ne'
  rw [nothing, selectedAmong_eq_nil_iff]
  refine forall_congr' fun paymentId => imp_congr_right fun _ => ?_
  rw [Option.bind_eq_none_iff]
  refine forall_congr' fun payment => imp_congr_right fun _ => ?_
  simp only [partialItem, ite_eq_right_iff, reduceCtorEq, imp_false, not_and, not_le]
  exact imp_congr_right fun _ => by rw [← not_lt, ← imp_iff_not_or]

/-! ### Live disputes -/

/-- The calls that pay out or return the money of an event. -/
def Call.IsPayout : Call → Prop
  | .refund _ _
  | .claimCancellationRefund _
  | .triggerBulkRefund _ _
  | .issuePartialRefund _ _ _
  | .triggerDisputeRefundCascade _
  | .withdrawOrganizerFunds _ _
  | .claimRevenue _ _
  | .configure (.releaseMilestoneEscrow _) => True
  | _ => False

/-- The payout is one of this event. -/
def Concerns (world : World Registry) (eventId : EventId) : Call → Prop
  | .refund _ paymentId
  | .claimCancellationRefund paymentId =>
      ∃ payment, world.tickets.getPayment paymentId = some payment ∧ payment.eventId = eventId
  | .triggerBulkRefund event _
  | .issuePartialRefund event _ _
  | .triggerDisputeRefundCascade event
  | .withdrawOrganizerFunds event _
  | .claimRevenue event _
  | .configure (.releaseMilestoneEscrow event) => event = eventId
  | _ => False

/-- Every success of the payout has the property. -/
def PayoutEnsures (env : Env host) (world : World Registry) (property : World Registry → Prop) :
    Call → Prop
  | .refund path paymentId =>
      Ensures (refundVia env paymentId path) world fun _ => property
  | .claimCancellationRefund paymentId =>
      Ensures (claimCancellationRefund env paymentId) world fun _ => property
  | .triggerBulkRefund event batchSize =>
      Ensures (triggerBulkRefund env event batchSize) world fun _ => property
  | .issuePartialRefund event percentageBps batchSize =>
      Ensures (issuePartialRefund env event percentageBps batchSize) world fun _ => property
  | .triggerDisputeRefundCascade event =>
      Ensures (triggerDisputeRefundCascade env event) world fun _ => property
  | .withdrawOrganizerFunds event token =>
      Ensures (withdrawOrganizerFunds env event token) world fun _ => property
  | .claimRevenue event token =>
      Ensures (claimRevenue env event token) world fun _ => property
  | .configure (.releaseMilestoneEscrow event) =>
      Ensures (releaseMilestoneEscrow env event) world fun _ => property
  | _ => True

/-- The refunds that do not look for a dispute find nothing to refund. -/
def FindsNothing (world : World Registry) : Call → Prop
  | .claimCancellationRefund paymentId =>
      ∀ payment ∈ world.tickets.getPayment paymentId, payment.amount = 0
  | .triggerBulkRefund event batchSize =>
      ∀ paymentId ∈ bulkWindow world event batchSize,
        ∀ payment ∈ world.tickets.getPayment paymentId,
          payment.status = .confirmed → payment.amount = 0
  | .issuePartialRefund event percentageBps batchSize =>
      ∀ paymentId ∈ partialWindow world event batchSize,
        ∀ payment ∈ world.tickets.getPayment paymentId, payment.status = .confirmed →
          partialRefundAmount (activePercentage world event percentageBps) payment ≤ 0 ∨
            payment.organizerAmount <
              partialRefundAmount (activePercentage world event percentageBps) payment
  | _ => True

theorem getDispute_ne_resolved (live : isEventDisputed world eventId = true) :
    RegistryApi.getDispute world.registry eventId ≠ some .resolvedBuyer := by
  intro resolved
  rw [isEventDisputed, resolved] at live
  cases live

variable {env : Env host}

theorem bulk_frozen_iff (state : FreeState host world) {batchSize : Nat} :
    Ensures (triggerBulkRefund env eventId batchSize) world fun _ next =>
      Frozen host eventId world next ↔
        FindsNothing world (.triggerBulkRefund eventId batchSize) := by
  refine triggerBulkRefund_ensures.mono ?_
  rintro _ next ⟨does, nonneg⟩
  have outside := state.wellformed.buyers_outside.members outside_stable
    (bulkItem_refunding env.timestamp) (bulkWindow world eventId batchSize)
  have free := state.free.members (fun payment record same _ => freeShares_of_terms same)
    (bulkItem_refunding env.timestamp) (bulkWindow world eventId batchSize)
  refine does.frozen_iff.trans ((windowChange_takesNothing_iff outside nonneg
    fun item member => ?_).trans (bulk_refund_zero_iff state.wellformed.keyed))
  obtain ⟨_, _, selected⟩ := mem_selectedAmong member
  have shares := free item member
  obtain ⟨_, rfl⟩ := bulkItem_eq_some selected
  exact shares

theorem partial_frozen_iff (state : FreeState host world) {percentageBps batchSize : Nat} :
    Ensures (issuePartialRefund env eventId percentageBps batchSize) world fun _ next =>
      Frozen host eventId world next ↔
        FindsNothing world (.issuePartialRefund eventId percentageBps batchSize) := by
  refine issuePartialRefund_ensures.mono ?_
  rintro _ next ⟨does, nonneg⟩
  have outside := state.wellformed.buyers_outside.members outside_stable
    (partialItem_refunding (activePercentage world eventId percentageBps))
    (partialWindow world eventId batchSize)
  refine does.frozen_iff.trans ((windowChange_takesNothing_iff outside nonneg
    fun item member zero => ?_).trans partial_refund_zero_iff)
  obtain ⟨_, _, selected⟩ := mem_selectedAmong member
  obtain ⟨_, positive, _, rfl⟩ := partialItem_eq_some selected
  exact absurd zero positive.ne'

theorem cancellation_frozen_iff (state : FreeState host world)
    (concerns : Concerns world eventId (.claimCancellationRefund paymentId)) :
    Ensures (claimCancellationRefund env paymentId) world fun _ next =>
      Frozen host eventId world next ↔
        FindsNothing world (.claimCancellationRefund paymentId) := by
  refine claimCancellationRefund_ensures.mono ?_
  rintro _ next ⟨payment, refundable, nonneg, does, _⟩
  obtain ⟨same, stored, rfl⟩ := concerns
  cases stored.symm.trans refundable.stored
  have free := state.free paymentId _ stored
  rw [does.frozen_iff, cancellationRefundChange, refundLines_takesNothing_iff nonneg free]
  simp [FindsNothing, stored]

/-- The postings of a step that leaves the balance of an event alone. -/
def PostsNothing (eventId : EventId) (lines : List (Posting Account)) : Prop :=
  posted lines (.organizer eventId) = 0 ∧ posted lines (.withdrawn eventId) = 0 ∧
    posted lines (.platform eventId) = 0

variable {event : EventId}

theorem windowChange_elsewhere (elsewhere : event ≠ eventId) (items : List BatchItem) :
    PostsNothing eventId (windowChange host event items).lines := by
  refine ⟨?_, posted_windowChange_withdrawn items event eventId, ?_⟩
  · rw [posted_windowChange_organizer, if_neg elsewhere]
  · rw [posted_windowChange_platform, if_neg elsewhere]

theorem cascadeChange_elsewhere (elsewhere : event ≠ eventId) (items : List BatchItem) :
    PostsNothing eventId (cascadeChange host event items).lines :=
  ⟨posted_items_zero (by simp [elsewhere]), posted_items_zero (by simp),
    posted_items_zero (by simp [elsewhere])⟩

/-- A payout of another event leaves the balance of this one alone. -/
theorem payout_other_balance (wellformed : Wellformed host world) {call : Call}
    (payout : call.IsPayout) (other : ¬Concerns world eventId call) :
    (step world (.call env call)).books.getEventBalance eventId =
      world.books.getEventBalance eventId := by
  obtain ⟨change, effect, does⟩ := step_takes wellformed.escrowState (.call env call)
  have same (account : Account) (untouched : posted change.lines account = 0) :
      (step world (.call env call)).ledger host account = world.ledger host account := by
    rw [does.ledger, post_apply, untouched, add_zero]
  suffices untouched : PostsNothing eventId change.lines from
    World.getEventBalance_eq_of_ledger (same _ untouched.1) (same _ untouched.2.1)
      (same _ untouched.2.2)
  cases effect with
  | nothing | configured | listing => exact ⟨rfl, rfl, rfl⟩
  | refund env path paymentId payment event refundable found undisputed =>
    have elsewhere : payment.eventId ≠ eventId := fun own => other ⟨payment, refundable.stored, own⟩
    simp [PostsNothing, elsewhere]
  | cancellationRefund env paymentId payment refundable nonneg =>
    have elsewhere : payment.eventId ≠ eventId := fun own => other ⟨payment, refundable.stored, own⟩
    simp [PostsNothing, elsewhere]
  | bulkRefund | partialRefund => exact windowChange_elsewhere other _
  | cascade => exact cascadeChange_elsewhere other _
  | withdrawal env event =>
    have elsewhere : event ≠ eventId := other
    simp [PostsNothing, elsewhere]
  | claim env event =>
    have elsewhere : event ≠ eventId := other
    simp [PostsNothing, elsewhere]
  | _ => cases payout

/-- While a dispute of an event is live, a successful payout of the event moves none of its money
exactly when it is not one of the three refunds that do not look for a dispute, or when these find
nothing to refund. The payouts of other events leave its balance alone. -/
theorem live_dispute_freezes_iff (registry : Registry) (actions : List (Action host Registry))
    (eventId : EventId) (live : isEventDisputed (reached registry actions) eventId = true)
    (env : Env host) (call : Call) :
    (Concerns (reached registry actions) eventId call →
      PayoutEnsures env (reached registry actions) (fun next =>
        Frozen host eventId (reached registry actions) next ↔
          FindsNothing (reached registry actions) call) call) ∧
    (call.IsPayout → ¬Concerns (reached registry actions) eventId call →
      (step (reached registry actions) (.call env call)).books.getEventBalance eventId =
        (reached registry actions).books.getEventBalance eventId) := by
  have state : FreeState host (reached registry actions) := reached_freeState
  generalize reached registry actions = world at live state ⊢
  refine ⟨fun concerns => ?_, payout_other_balance state.wellformed⟩
  unfold PayoutEnsures
  split
  · refine refundVia_ensures.mono ?_
    rintro _ next ⟨payment, event, refundable, _, undisputed, _⟩
    obtain ⟨same, stored, rfl⟩ := concerns
    cases stored.symm.trans refundable.stored
    rw [undisputed] at live
    cases live
  · exact cancellation_frozen_iff state concerns
  · cases concerns
    exact bulk_frozen_iff state
  · cases concerns
    exact partial_frozen_iff state
  · cases concerns
    refine triggerDisputeRefundCascade_ensures.mono ?_
    rintro _ next ⟨_, _, resolved⟩
    exact absurd resolved (getDispute_ne_resolved live)
  · cases concerns
    refine withdrawOrganizerFunds_ensures.mono ?_
    rintro _ next ⟨⟨event, may⟩, _⟩
    rw [may.undisputed] at live
    cases live
  · cases concerns
    refine claimRevenue_ensures.mono ?_
    rintro _ next ⟨event, _, _, undisputed, _⟩
    rw [undisputed] at live
    cases live
  · cases concerns
    have uninitialized : world.escrowState.get eventId = none := by
      rw [state.wellformed.escrowState, Store.get_empty]
    exact (releaseMilestoneEscrow_ensures uninitialized).mono fun _ _ => False.elim
  · trivial

/-- A partial refund of nothing is issued during the dispute. -/
theorem refund_of_nothing_frozen :
    let disputed := reached (registryWith endingConcert) ticketDisputed
    Frozen stage "concert" disputed
      (step disputed (.call (allSign 12) (.issuePartialRefund "concert" 0 10))) := by
  refine ((live_dispute_freezes_iff (registryWith endingConcert) ticketDisputed "concert" rfl
    (allSign 12) (.issuePartialRefund "concert" 0 10)).1 rfl 0 _ rfl).mpr ?_
  intro paymentId _ payment _ _
  have none : activePercentage (reached (registryWith endingConcert) ticketDisputed) "concert" 0 =
    0 := by decide
  exact .inl (by simp [none, partialRefundAmount])

/-- Half of the price is paid back although the dispute is open. -/
theorem disputed_concert_pays :
    let disputed := reached (registryWith endingConcert) ticketDisputed
    let refunded := step disputed (.call (allSign 12) (.issuePartialRefund "concert" 5000 10))
    isEventDisputed disputed "concert" = true ∧
      (disputed.books.getEventBalance "concert").organizerAmount = 950 ∧
      (refunded.books.getEventBalance "concert").organizerAmount = 450 ∧
      disputed.tokens.balance usdcAddress stage.contract = 1000 ∧
      refunded.tokens.balance usdcAddress stage.contract = 500 := by
  decide

end Agora.TicketPayment

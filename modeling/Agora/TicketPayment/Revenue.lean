/-
This file asks whether an organizer is paid out of the revenue of the event alone.

A claim of a small balance is not: it pays what the contract holds of the token, less
the fee of the event, whoever the tokens belong to. Apart from that, a claim pays
exactly the organizer's amount. And the organizer's amount has no token, so a
withdrawal in one token can be made against revenue in another; with one currency
for the event the payouts in each token stay within what was received for it.
-/

import Agora.EventRegistry.System
import Agora.TicketPayment.Reachable

namespace Agora.TicketPayment

open Soroban EventRegistry

variable {Registry : Type} [RegistryApi Registry] {host : Host}

/-- What was received of a token for an event. -/
def World.received (world : World Registry) (eventId : EventId) (token : Address) : Int :=
  posted world.trail (.received eventId token)

/-- What was sent of a token to the organizer or the payment address of an event. -/
def World.released (world : World Registry) (eventId : EventId) (token : Address) : Int :=
  posted world.trail (.released eventId token)

/-! ### One claim -/

/-- A successful claim releases exactly the organizer's amount if and only if that is not
negative and the claim does not sweep. -/
theorem claimRevenue_releases_organizerAmount_iff (env : Env host) (eventId : EventId)
    (token : Address) (world : World Registry) :
    Ensures (claimRevenue env eventId token) world fun _ next =>
      (next.released eventId token = world.released eventId token +
          (world.books.getEventBalance eventId).organizerAmount ↔
        0 ≤ (world.books.getEventBalance eventId).organizerAmount ∧
          ¬Sweeps (world.tokens.balance token host.contract)
            (world.books.getEventBalance eventId)) := by
  refine claimRevenue_ensures.mono ?_
  rintro payout next ⟨event, _, _, _, rfl, does⟩
  have released : next.released eventId token = world.released eventId token +
      max (claimPayout (world.tokens.balance token host.contract)
        (world.books.getEventBalance eventId)) 0 := by
    have after : next.released eventId token = world.released eventId token + _ :=
      congrFun does.ledger (.trail (.released eventId token))
    rw [after]
    simp
  rw [released, add_right_inj, ← claimPayout_eq_iff]
  generalize balanceEq : world.books.getEventBalance eventId = balance
  constructor
  · intro exact_
    have nonneg : 0 ≤ balance.organizerAmount := exact_ ▸ le_max_right _ _
    refine ⟨nonneg, ?_⟩
    by_cases zero : balance.organizerAmount = 0
    · rw [claimPayout_eq_iff]
      exact fun sweeps => absurd sweeps.1 (by omega)
    · omega
  · rintro ⟨nonneg, equal⟩
    rw [equal, max_eq_left nonneg]

/-- The claim of the concert pays its organizer's amount of 950 and the price of a ticket for
the other event. -/
theorem claimRevenue_takes_festival_revenue :
    ((reached twoEvents concertCompleted).books.getEventBalance "concert").organizerAmount = 950 ∧
      (reached twoEvents (concertCompleted ++
        [.call (allSign 3) (.claimRevenue "concert" usdcAddress)])).released "concert"
          usdcAddress = 1950 := by
  decide

/-! ### One currency -/

/-- The condition on the steps that concern one event: they are made in its currency, a claim
does not sweep, and a refund gives the organizer nothing back. -/
def InCurrency (eventId : EventId) (currency : Address) (world : World Registry) :
    Action host Registry → Prop
  | .call _ (.processPayment purchase) =>
      purchase.eventId = eventId → purchase.tokenAddress = currency
  | .call env (.refund _ paymentId) => ∀ payment ∈ world.tickets.getPayment paymentId,
      payment.eventId = eventId → ∀ event ∈ RegistryApi.getEvent world.registry payment.eventId,
        effectiveRestockingFee env event payment.amount ≤ payment.organizerAmount
  | .call _ (.claimCancellationRefund paymentId) =>
      ∀ payment ∈ world.tickets.getPayment paymentId,
        payment.eventId = eventId → 0 ≤ payment.organizerAmount
  | .call env (.triggerBulkRefund refunded batchSize) =>
      refunded = eventId → 0 ≤ organizerTotal (bulkItems env world refunded batchSize)
  | .call env (.triggerDisputeRefundCascade refunded) =>
      refunded = eventId → 0 ≤ organizerTotal (cascadeItems env world refunded)
  | .call _ (.withdrawOrganizerFunds withdrawn token) => withdrawn = eventId → token = currency
  | .call _ (.claimRevenue claimed token) => claimed = eventId → token = currency ∧
      ¬Sweeps (world.tokens.balance token host.contract) (world.books.getEventBalance claimed)
  | .call _ (.closeAuction _ closed tierId) => closed = eventId →
      ∀ bid ∈ world.auctions.highestBid.get (closed, tierId), bid.tokenAddress = currency
  | _ => True

/-- What was released is covered by what was received, and in the currency of the event there
is room for the organizer's amount too. -/
def Funded (eventId : EventId) (currency : Address) (world : World Registry) : Prop :=
  ∀ token, world.released eventId token +
      (if token = currency then max 0 (world.books.getEventBalance eventId).organizerAmount
        else 0) ≤ world.received eventId token

/-- What a change means for one event: in its currency, and for the organizer's amount. -/
structure Turnover (eventId : EventId) (currency : Address) (change : Change)
    (organizer received released : Int) : Prop where
  organizer : posted change.lines (.organizer eventId) = organizer
  received : ∀ token, posted change.lines (.trail (.received eventId token)) =
    if token = currency then received else 0
  released : ∀ token, posted change.lines (.trail (.released eventId token)) =
    if token = currency then released else 0

section Funded

variable {eventId : EventId} {currency : Address} {world next : World Registry} {change : Change}

omit [RegistryApi Registry] in
/-- What was released stays covered by what was received, up to what it was before. -/
theorem covers_of_turnover {organizer received released : Int}
    (does : Does host change world next)
    (turnover : Turnover eventId currency change organizer received released)
    (covered : released +
        max 0 ((world.books.getEventBalance eventId).organizerAmount + organizer) ≤
      max 0 (world.books.getEventBalance eventId).organizerAmount + received)
    {token : Address} {slack : Int}
    (before : world.released eventId token +
        (if token = currency then max 0 (world.books.getEventBalance eventId).organizerAmount
          else 0) ≤ world.received eventId token + slack) :
    next.released eventId token +
        (if token = currency then max 0 (next.books.getEventBalance eventId).organizerAmount
          else 0) ≤ next.received eventId token + slack := by
  have organizerAfter : (next.books.getEventBalance eventId).organizerAmount =
      (world.books.getEventBalance eventId).organizerAmount +
        posted change.lines (.organizer eventId) :=
    congrFun does.ledger (.organizer eventId)
  have receivedAfter : next.received eventId token = world.received eventId token +
      posted change.lines (.trail (.received eventId token)) :=
    congrFun does.ledger (.trail (.received eventId token))
  have releasedAfter : next.released eventId token = world.released eventId token +
      posted change.lines (.trail (.released eventId token)) :=
    congrFun does.ledger (.trail (.released eventId token))
  rw [organizerAfter, turnover.organizer, receivedAfter, turnover.received token, releasedAfter,
    turnover.released token]
  by_cases same : token = currency
  · simp only [if_pos same] at before ⊢
    omega
  · simp only [if_neg same] at before ⊢
    omega

end Funded

section Turnovers

variable {eventId : EventId} {currency : Address}

variable {env : Env host}

omit [RegistryApi Registry] in
theorem Sale.change_turnover {purchase : Purchase} (sale : Sale)
    (inCurrency : purchase.eventId = eventId → purchase.tokenAddress = currency) :
    Turnover eventId currency (sale.change env purchase)
      (if purchase.eventId = eventId then sale.split.organizerAmount else 0)
      (if purchase.eventId = eventId then sale.split.effectiveTotal else 0) 0 := by
  refine ⟨?_, fun token => ?_, fun token => ?_⟩
  · simp
  · by_cases same : purchase.eventId = eventId
    · have received := inCurrency same
      by_cases single : purchase.quantity = 1 <;>
        simp [Purchase.headings, single, same, received, eq_comm]
    · by_cases single : purchase.quantity = 1 <;>
        simp [Purchase.headings, single, same]
  · by_cases single : purchase.quantity = 1 <;> simp [Purchase.headings, single]

variable {paymentId : PaymentId} {payment : Payment}

theorem refundLines_turnover {tickets : Tickets → Tickets} {refund organizerBack : Int} :
    Turnover eventId currency
      { lines := refundLines paymentId payment refund organizerBack, tickets,
        callsRegistry := true }
      (if payment.eventId = eventId then -organizerBack else 0) 0 0 := by
  refine ⟨?_, fun token => ?_, fun token => ?_⟩ <;> simp

variable {items : List BatchItem} {refunded : EventId}

theorem windowChange_turnover :
    Turnover eventId currency (windowChange host refunded items)
      (if refunded = eventId then -organizerTotal items else 0) 0 0 := by
  refine ⟨posted_windowChange_organizer items refunded eventId, fun token => ?_, fun token => ?_⟩
  · rw [posted_windowChange items refunded (by simp)]
    simp
  · rw [posted_windowChange items refunded (by simp)]
    simp

theorem cascadeChange_turnover :
    Turnover eventId currency (cascadeChange host refunded items)
      (if refunded = eventId then -organizerTotal items else 0) 0 0 := by
  refine ⟨posted_cascadeChange_organizer, fun token => ?_, fun token => ?_⟩
  · rw [ite_self]
    exact posted_items_zero (by simp)
  · rw [ite_self]
    exact posted_items_zero (by simp)

theorem transferChange_turnover {target : Address} {fee : Int}
    (inCurrency : payment.eventId = eventId → payment.tokenAddress = currency) :
    Turnover eventId currency (transferChange paymentId payment target fee)
      (if payment.eventId = eventId then max fee 0 else 0)
      (if payment.eventId = eventId then max fee 0 else 0) 0 := by
  refine ⟨?_, fun token => ?_, fun token => ?_⟩
  · simp
  · by_cases same : payment.eventId = eventId
    · simp [same, inCurrency same, eq_comm]
    · simp [same]
  · simp

theorem payoutLines_turnover {paid : EventId} {token : Address}
    {sent payout organizer platform : Int} (inCurrency : paid = eventId → token = currency) :
    Turnover eventId currency (.posting (payoutLines paid token sent payout organizer platform))
      (if paid = eventId then -organizer else 0) 0
      (if paid = eventId then max payout 0 else 0) := by
  refine ⟨?_, fun other => ?_, fun other => ?_⟩
  · simp
  · simp
  · by_cases same : paid = eventId
    · simp [same, inCurrency same, eq_comm]
    · simp [same]

theorem closingChange_turnover {closed : EventId} {tierId : TierId} {bid : HighestBid} {fee : Int}
    (inCurrency : closed = eventId → bid.tokenAddress = currency) :
    Turnover eventId currency (closingChange env paymentId closed tierId bid fee)
      (if closed = eventId then bid.amount - fee else 0)
      (if closed = eventId then bid.amount else 0) 0 := by
  refine ⟨?_, fun other => ?_, fun other => ?_⟩
  · simp
  · by_cases same : closed = eventId
    · simp [same, inCurrency same, eq_comm]
    · simp [same]
  · simp

end Turnovers

/-! ### The steps -/

/-- What holds along a run in which an event has one currency. -/
structure FundedState (host : Host) (eventId : EventId) (currency : Address)
    (world : World Registry) : Prop where
  wellformed : Wellformed host world
  records : world.tickets.Every fun _ payment =>
    payment.eventId = eventId → payment.tokenAddress = currency
  funded : Funded eventId currency world

variable {currency : Address}

omit [RegistryApi Registry] in
theorem fundedState_fresh {eventId : EventId} {registry : Registry} :
    FundedState host eventId currency (.fresh registry) where
  wellformed := wellformed_fresh registry
  records := Tickets.every_empty _
  funded token := by
    simp [World.released, World.received, World.fresh, Books.fresh, Books.getEventBalance]

variable {eventId : EventId} {world : World Registry} {action : Action host Registry}
  {change : Change}

section

variable (state : FundedState host eventId currency world)

include state

theorem Effect.records_currency (inCurrency : InCurrency eventId currency world action)
    (effect : Effect world action change) :
    (change.tickets world.tickets).Every fun _ payment =>
      payment.eventId = eventId → payment.tokenAddress = currency := by
  refine effect.every_of_issued state.wellformed.keyed state.records ?_ ?_ ?_
  · intro paymentId payment record same holds
    rw [same.terms.eventId, same.terms.tokenAddress]
    exact holds
  · rintro env purchase sale index rfl of
    exact inCurrency
  · rintro env paymentId closed tierId event bid fee rfl of own
    exact inCurrency own bid of.bidEq

/-- What a step in the currency of the event means for it: what is released, and the organizer's
amount, grow by no more than what is received. -/
theorem Effect.turnover (inCurrency : InCurrency eventId currency world action)
    (effect : Effect world action change) :
    ∃ organizer received released,
      Turnover eventId currency change organizer received released ∧
        released + max 0 ((world.books.getEventBalance eventId).organizerAmount + organizer) ≤
          max 0 (world.books.getEventBalance eventId).organizerAmount + received := by
  have untouched (same : Turnover eventId currency change 0 0 0) :
      ∃ organizer received released,
        Turnover eventId currency change organizer received released ∧
          released + max 0 ((world.books.getEventBalance eventId).organizerAmount + organizer) ≤
            max 0 (world.books.getEventBalance eventId).organizerAmount + received :=
    ⟨0, 0, 0, same, by omega⟩
  cases effect with
  | nothing | registry | configured | confirm | checkIn | poap | listing =>
    exact untouched ⟨rfl, fun _ => (ite_self 0).symm, fun _ => (ite_self 0).symm⟩
  | inflow | settlement | feeWithdrawal | resale =>
    refine untouched ⟨?_, fun token => ?_, fun token => ?_⟩ <;> simp
  | bid env bidOn tierId bid outside nonneg =>
    refine untouched ⟨?_, fun token => ?_, fun token => ?_⟩ <;>
      cases found : world.auctions.highestBid.get (bidOn, tierId) <;> simp
  | sale env purchase sale of =>
    refine ⟨_, _, _, sale.change_turnover inCurrency, ?_⟩
    have share := of.organizerAmount_le
    have paid := of.paid
    split <;> omega
  | refund env path paymentId payment event refundable found =>
    refine ⟨_, _, _, refundLines_turnover, ?_⟩
    split
    · have covered := inCurrency payment refundable.stored ‹_› event found
      omega
    · omega
  | cancellationRefund env paymentId payment refundable nonneg =>
    refine ⟨_, _, _, refundLines_turnover, ?_⟩
    split
    · have covered := inCurrency payment refundable.stored ‹_›
      omega
    · omega
  | bulkRefund env refunded batchSize nonneg =>
    refine ⟨_, _, _, windowChange_turnover, ?_⟩
    split
    · have covered := inCurrency ‹_›
      omega
    · omega
  | partialRefund env refunded percentageBps batchSize nonneg =>
    refine ⟨_, _, _, windowChange_turnover, ?_⟩
    have covered := organizerTotal_partialItems_nonneg world refunded percentageBps batchSize
    split <;> omega
  | cascade env refunded nonneg =>
    refine ⟨_, _, _, cascadeChange_turnover, ?_⟩
    split
    · have covered := inCurrency ‹_›
      omega
    · omega
  | transfer env paymentId target salePrice payment fee of =>
    refine ⟨_, _, _, transferChange_turnover (state.records paymentId payment of.stored), ?_⟩
    split <;> omega
  | withdrawal env withdrawn token amount nonneg bounded =>
    refine ⟨_, _, _, payoutLines_turnover inCurrency, ?_⟩
    split
    · rename_i same
      subst same
      omega
    · omega
  | claim env claimed token event found =>
    refine ⟨_, _, _, payoutLines_turnover fun own => (inCurrency own).1, ?_⟩
    split
    · rename_i same
      subst same
      rw [claimPayout_eq_iff.mpr (inCurrency rfl).2]
      omega
    · omega
  | closing env paymentId closed tierId event bid fee of =>
    refine ⟨_, _, _, closingChange_turnover fun own => inCurrency own bid of.bidEq, ?_⟩
    have nonneg := (state.wellformed.bids _ bid of.bidEq).2
    have feeNonneg := of.fee_nonneg nonneg
    split <;> omega

theorem step_funded {next : World Registry}
    (inCurrency : InCurrency eventId currency world action) (effect : Effect world action change)
    (does : Does host change world next) : Funded eventId currency next := by
  obtain ⟨_, _, _, turnover, covered⟩ := effect.turnover state inCurrency
  intro token
  have after := covers_of_turnover does turnover covered
    ((state.funded token).trans_eq (add_zero _).symm)
  rwa [add_zero] at after

end

theorem step_fundedState (eventId : EventId) (world : World Registry)
    {action : Action host Registry} (inCurrency : InCurrency eventId currency world action)
    (state : FundedState host eventId currency world) :
    FundedState host eventId currency (step world action) := by
  obtain ⟨change, effect, does⟩ := step_takes state.wellformed.escrowState action
  refine ⟨step_wellformed world action state.wellformed, ?_,
    step_funded state inCurrency effect does⟩
  rw [does.tickets]
  exact effect.records_currency state inCurrency

/-- In a run in which an event has one currency, no more of any token is released to its
organizer than was received for it. -/
theorem released_le_received_of_inCurrency (registry : Registry) (eventId : EventId)
    (currency : Address) (actions : List (Action host Registry))
    (inCurrency : Respects step (InCurrency eventId currency) (.fresh registry) actions)
    (token : Address) :
    (reached registry actions).released eventId token ≤
      (reached registry actions).received eventId token := by
  have state : FundedState host eventId currency (reached registry actions) :=
    respects_invariant _ (step_fundedState eventId) _ actions inCurrency fundedState_fresh
  have funded := state.funded token
  split at funded <;> omega

/-- The organizer of the concert withdraws in the currency of its sales. -/
theorem released_le_received_concert_usdc :
    (reached twoEvents (concertWithdrawal usdcAddress)).released "concert" usdcAddress = 950 ∧
      (reached twoEvents (concertWithdrawal usdcAddress)).released "concert" usdcAddress ≤
        (reached twoEvents (concertWithdrawal usdcAddress)).received "concert" usdcAddress := by
  refine ⟨by decide, released_le_received_of_inCurrency twoEvents "concert" usdcAddress
    (concertWithdrawal usdcAddress)
    ⟨trivial, trivial, trivial, trivial, trivial, trivial, trivial, trivial, trivial,
      fun _ => rfl, fun own => ?_, fun _ => rfl, trivial⟩ usdcAddress⟩
  exact absurd own (by decide)

/-- The concert was sold in one token only, and its organizer withdraws in the other. -/
theorem released_gt_received_concert_eurc :
    (reached twoEvents (concertWithdrawal eurcAddress)).received "concert" eurcAddress = 0 ∧
      (reached twoEvents (concertWithdrawal eurcAddress)).released "concert" eurcAddress =
        950 := by
  decide

end Agora.TicketPayment

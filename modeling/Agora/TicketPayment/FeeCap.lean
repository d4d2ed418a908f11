/-
This file proves the cap on the platform fees withdrawn on a day, and that no more fees
are withdrawn than were collected.

Both are statements about the sum of all withdrawals of a run. The counter of the day
follows the withdrawals of its token and day as long as there is a cap, and the
collected fees follow what is added less what is withdrawn.
-/

import Agora.EventRegistry.System
import Agora.TicketPayment.Reachable

namespace Agora.TicketPayment

open Soroban EventRegistry

variable {Registry : Type} [RegistryApi Registry] {host : Host} {token : Address} {day : Nat}

/-! ### Withdrawals of a run -/

/-- What a step withdraws of the platform fees in a token. -/
def feesWithdrawn (token : Address) (world : World Registry) : Action host Registry → Int
  | .call env (.withdrawPlatformFees amount paid) =>
    match (withdrawPlatformFees env amount paid).run world with
    | .ok _ => if paid = token then amount else 0
    | .error _ => 0
  | _ => 0

/-- What a step withdraws of them on a day. -/
def feesWithdrawnOn (token : Address) (day : Nat) (world : World Registry) :
    Action host Registry → Int
  | .call env (.withdrawPlatformFees amount paid) =>
    if env.timestamp / secondsPerDay = day then
      feesWithdrawn token world (.call env (.withdrawPlatformFees amount paid))
    else 0
  | _ => 0

/-- What a step adds to the collected fees. -/
def feesAdded (token : Address) (world : World Registry) (action : Action host Registry) : Int :=
  max 0 ((step world action).books.getTotalFeesCollectedByToken token -
    world.books.getTotalFeesCollectedByToken token)

/-- The condition on a step: on this day fees in the token are withdrawn under this cap. -/
def CappedAt (token : Address) (day : Nat) (cap : Int) (world : World Registry) :
    Action host Registry → Prop
  | .call env (.withdrawPlatformFees _ paid) =>
    paid = token → env.timestamp / secondsPerDay = day →
      world.settings.getWithdrawalCap token = cap
  | _ => True

/-! ### The steps -/

variable {world : World Registry} {action : Action host Registry} {cap : Int}

/-- A step that is no withdrawal of fees takes nothing from the collected fees. -/
theorem Effect.fees_nonneg {change : Change} (wellformed : Wellformed host world)
    (effect : Effect world action change)
    (other : ∀ env amount paid, action ≠ .call env (.withdrawPlatformFees amount paid)) :
    0 ≤ posted change.lines (.fees token) := by
  cases effect with
  | nothing | registry | configured | confirm | checkIn | poap | listing => exact le_rfl
  | feeWithdrawal env amount paid => exact absurd rfl (other env amount paid)
  | sale env purchase sale of =>
    obtain ⟨gross, rebate, reward, terms⟩ := splitPayment_terms of.split
    have nonneg : 0 ≤ sale.split.platformFee := by
      have bounds := terms.reward_bounds of.price_nonneg
      rw [terms.platformFeeEq]
      omega
    by_cases same : purchase.tokenAddress = token <;> simp [same, nonneg]
  | bulkRefund | partialRefund => exact (posted_windowChange_fees _ _).ge
  | cascade => exact (posted_items_zero (by simp)).ge
  | bid env bidOn tierId bid =>
    cases world.auctions.highestBid.get (bidOn, tierId) <;> simp
  | closing env paymentId closed tierId event bid fee of =>
    have nonneg := of.fee_nonneg (wellformed.bids _ bid of.bidEq).2
    by_cases same : bid.tokenAddress = token <;> simp [same, nonneg]
  | _ => simp

/-- A step pays out platform fees, or it leaves the counters of the days alone and takes nothing
from the collected fees. -/
theorem step_pays_or_keeps (wellformed : Wellformed host world) (action : Action host Registry) :
    (∃ env amount paid next, action = .call env (.withdrawPlatformFees amount paid) ∧
      (withdrawPlatformFees env amount paid).run world = .ok ((), next) ∧
      step world action = next) ∨
    (∀ token, feesWithdrawn token world action = 0) ∧
      (∀ token day, feesWithdrawnOn token day world action = 0) ∧
      (step world action).books.dailyWithdrawalAmount = world.books.dailyWithdrawalAmount ∧
      ∀ token, world.books.getTotalFeesCollectedByToken token ≤
        (step world action).books.getTotalFeesCollectedByToken token := by
  by_cases withdraws : ∃ env amount paid, action = .call env (.withdrawPlatformFees amount paid)
  · obtain ⟨env, amount, paid, rfl⟩ := withdraws
    rcases commit_cases (withdrawPlatformFees env amount paid) world with
      ⟨fault, run, failed⟩ | ⟨value, run⟩
    · have unchanged : step world (.call env (.withdrawPlatformFees amount paid)) = world := failed
      refine .inr ⟨fun token => ?_, fun token day => ?_, ?_, fun token => ?_⟩
      · simp only [feesWithdrawn, run]
      · simp [feesWithdrawnOn, feesWithdrawn, run]
      · rw [unchanged]
      · rw [unchanged]
    · exact .inl ⟨env, amount, paid, _, rfl, run, rfl⟩
  · have other (env : Env host) (amount : Int) (paid : Address) :
        action ≠ .call env (.withdrawPlatformFees amount paid) :=
      fun equal => withdraws ⟨env, amount, paid, equal⟩
    obtain ⟨change, effect, does⟩ := step_takes wellformed.escrowState action
    refine .inr ⟨fun token => ?_, fun token day => ?_, does.fees ?_, fun token => ?_⟩
    · unfold feesWithdrawn
      split
      · exact absurd rfl (other _ _ _)
      · rfl
    · unfold feesWithdrawnOn
      split
      · exact absurd rfl (other _ _ _)
      · rfl
    · cases effect with
      | feeWithdrawal env amount paid => exact absurd rfl (other env amount paid)
      | _ => rfl
    · have posted : _ = _ + _ := congrFun does.ledger (.fees token)
      exact (le_add_of_nonneg_right (effect.fees_nonneg wellformed other)).trans_eq posted.symm

omit [RegistryApi Registry] in
/-- The counters after a withdrawal, read for any token and day. -/
theorem countedFees_get {env : Env host} {world : World Registry} {paid : Address} {amount : Int} :
    ((countedFees env world paid amount).get (token, day)).getD 0 =
      world.books.getDailyWithdrawnAmount token day +
        if 0 < world.settings.getWithdrawalCap paid ∧ paid = token ∧
          env.timestamp / secondsPerDay = day then amount else 0 := by
  unfold countedFees
  by_cases capped : 0 < world.settings.getWithdrawalCap paid
  · rw [if_pos capped, Store.get_set]
    by_cases same : paid = token ∧ env.timestamp / secondsPerDay = day
    · obtain ⟨rfl, rfl⟩ := same
      simp [capped]
    · rw [if_neg fun equal => same ⟨(congrArg Prod.fst equal).symm, (congrArg Prod.snd equal).symm⟩,
        if_neg fun all => same all.2, add_zero]
      rfl
  · rw [if_neg capped, if_neg fun all => capped all.1, add_zero]
    rfl

/-- Under a cap the counter of the day follows the withdrawals, and stays within the cap. -/
theorem step_daily (wellformed : Wellformed host world) (positive : 0 < cap)
    (capped : CappedAt token day cap world action) :
    (step world action).books.getDailyWithdrawnAmount token day =
        world.books.getDailyWithdrawnAmount token day + feesWithdrawnOn token day world action ∧
      (world.books.getDailyWithdrawnAmount token day ≤ cap →
        (step world action).books.getDailyWithdrawnAmount token day ≤ cap) := by
  rcases step_pays_or_keeps wellformed action with
    ⟨env, amount, paid, next, rfl, run, paidOut⟩ | ⟨_, nothing, kept, _⟩
  · obtain ⟨_, _, _, counted, within⟩ := withdrawPlatformFees_ensures () next run
    have daily : next.books.getDailyWithdrawnAmount token day = _ :=
      (congrArg (fun counters => (counters.get (token, day)).getD 0) counted).trans countedFees_get
    simp only [paidOut, daily, feesWithdrawnOn, feesWithdrawn, run]
    by_cases same : paid = token ∧ env.timestamp / secondsPerDay = day
    · obtain ⟨rfl, rfl⟩ := same
      have cap := capped rfl rfl
      have bounded := within (cap ▸ positive)
      rw [if_pos ⟨cap ▸ positive, rfl, rfl⟩, if_pos rfl, if_pos rfl]
      exact ⟨rfl, fun _ => cap ▸ bounded⟩
    · rw [if_neg fun all => same all.2, add_zero]
      refine ⟨?_, id⟩
      split
      · rw [if_neg fun equal => same ⟨equal, ‹_›⟩, add_zero]
      · rw [add_zero]
  · rw [Books.getDailyWithdrawnAmount, kept, nothing, add_zero]
    exact ⟨rfl, id⟩

/-- The collected fees follow what is added less what is withdrawn, and never fall below
nothing. -/
theorem step_fees (wellformed : Wellformed host world) {action : Action host Registry} :
    (step world action).books.getTotalFeesCollectedByToken token =
        world.books.getTotalFeesCollectedByToken token +
          (feesAdded token world action - feesWithdrawn token world action) ∧
      (0 ≤ world.books.getTotalFeesCollectedByToken token →
        0 ≤ (step world action).books.getTotalFeesCollectedByToken token) := by
  rw [feesAdded]
  rcases step_pays_or_keeps wellformed action with
    ⟨env, amount, paid, next, rfl, run, paidOut⟩ | ⟨nothing, _, _, kept⟩
  · obtain ⟨positive, covered, ⟨wallet, _, does⟩, _⟩ := withdrawPlatformFees_ensures () next run
    have fees : next.books.getTotalFeesCollectedByToken token =
        world.books.getTotalFeesCollectedByToken token - if paid = token then amount else 0 := by
      have posted : _ = _ + _ := congrFun does.ledger (.fees token)
      simp only [World.ledger, feeChange, feeLines] at posted
      by_cases same : paid = token <;> simpa [same, sub_eq_add_neg] using posted
    simp only [paidOut, fees, feesWithdrawn, run]
    split
    · rename_i same
      subst same
      omega
    · omega
  · have more := kept token
    rw [nothing]
    omega

/-! ### The runs -/

/-- A well-formed state in which the withdrawals of the day are within the cap. -/
structure WithinCapState (host : Host) (token : Address) (day : Nat) (cap : Int)
    (world : World Registry) : Prop where
  wellformed : Wellformed host world
  bounded : world.books.getDailyWithdrawnAmount token day ≤ cap

/-- A well-formed state with collected fees of at least nothing. -/
structure PaidState (host : Host) (token : Address) (world : World Registry) : Prop where
  wellformed : Wellformed host world
  nonneg : 0 ≤ world.books.getTotalFeesCollectedByToken token

theorem step_withinCap (positive : 0 < cap) (world : World Registry) (action : Action host Registry)
    (capped : CappedAt token day cap world action)
    (state : WithinCapState host token day cap world) :
    WithinCapState host token day cap (step world action) :=
  ⟨step_wellformed world action state.wellformed,
    (step_daily state.wellformed positive capped).2 state.bounded⟩

theorem step_paid (world : World Registry) (action : Action host Registry)
    (state : PaidState host token world) : PaidState host token (step world action) :=
  ⟨step_wellformed world action state.wellformed, (step_fees state.wellformed).2 state.nonneg⟩

theorem withdrawnOn_le_cap {registry : Registry} (positive : 0 < cap)
    {actions : List (Action host Registry)}
    (capped : Respects step (CappedAt token day cap) (.fresh registry) actions) :
    runTotal step (feesWithdrawnOn token day) (.fresh registry) actions ≤ cap := by
  have start : WithinCapState host token day cap (.fresh registry) :=
    ⟨wellformed_fresh registry, positive.le⟩
  have bounded := (respects_invariant _ (step_withinCap positive) _ actions capped start).bounded
  have counted := quantity_add_runTotal _
    (fun world => world.books.getDailyWithdrawnAmount token day) (feesWithdrawnOn token day)
    (step_withinCap positive)
    (fun _ _ capped state => (step_daily state.wellformed positive capped).1) _
    actions capped start
  have none : (World.fresh registry).books.getDailyWithdrawnAmount token day = 0 := rfl
  omega

theorem withdrawn_le_added (registry : Registry) (actions : List (Action host Registry)) :
    runTotal step (feesWithdrawn token) (.fresh registry) actions ≤
      runTotal step (feesAdded token) (.fresh registry) actions := by
  have start : PaidState host token (.fresh registry) := ⟨wellformed_fresh registry, le_rfl⟩
  have left := (run_invariant _ step_paid _ actions start).nonneg
  have counted := quantity_add_runTotal _
    (fun world => world.books.getTotalFeesCollectedByToken token)
    (fun world action => feesAdded token world action - feesWithdrawn token world action)
    (fun world action _ => step_paid world action)
    (fun _ action _ state => (step_fees state.wellformed).1) _ actions
    (respects_true _ actions) start
  rw [runTotal_sub] at counted
  have none : (World.fresh registry).books.getTotalFeesCollectedByToken token = 0 := rfl
  omega

/-- The fees in a token withdrawn on a day with a cap are within the cap, and the fees withdrawn
in a whole run are at most those that were added. -/
theorem fee_withdrawals_bounded (registry : Registry) (token : Address)
    (actions : List (Action host Registry)) :
    (∀ (day : Nat) (cap : Int), 0 < cap →
      Respects step (CappedAt token day cap) (.fresh registry) actions →
      runTotal step (feesWithdrawnOn token day) (.fresh registry) actions ≤ cap) ∧
    runTotal step (feesWithdrawn token) (.fresh registry) actions ≤
      runTotal step (feesAdded token) (.fresh registry) actions :=
  ⟨fun _ _ positive capped => withdrawnOn_le_cap positive capped,
    withdrawn_le_added registry actions⟩

/-- A ticket is sold, the fees are capped, and the second of two withdrawals of a day is too
much. -/
def cappedWithdrawals : List (Action stage EventRegistry.Registry) :=
  ticketSold ++
    [.call (allSign 2) (.configure (.setWithdrawalCap usdcAddress 30)),
      .call (allSign 3) (.withdrawPlatformFees 20 usdcAddress),
      .call (allSign 4) (.withdrawPlatformFees 20 usdcAddress)]

theorem capped_withdrawals_bounded :
    runTotal step (feesWithdrawnOn usdcAddress 0) (.fresh (registryWith concert))
        cappedWithdrawals = 20 ∧
      runTotal step (feesWithdrawnOn usdcAddress 0) (.fresh (registryWith concert))
        cappedWithdrawals ≤ 30 :=
  ⟨by decide, (fee_withdrawals_bounded (registryWith concert) usdcAddress cappedWithdrawals).1 0 30
    (by decide) ⟨trivial, trivial, trivial, trivial, trivial, trivial, trivial, fun _ _ => rfl,
      fun _ _ => rfl, trivial⟩⟩

end Agora.TicketPayment

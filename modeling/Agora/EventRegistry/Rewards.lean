/-
This file asks what becomes of the rewards of a staker: whether all that was credited to them
was paid out to them or is still there.

Only a claim pays rewards out. An organizer who unstakes loses the record of their stake with
all rewards in it, although the source asks that rewards be claimed before; so the rewards are
conserved for organizers who do that.
-/

import Agora.EventRegistry.StakingSolvency

namespace Agora.EventRegistry.Staking

open Soroban

variable {host : Host}

/-- The rewards that an organizer has not claimed. -/
def rewardOf (staking : Staking) (organizer : Address) : Int :=
  ((staking.stakes.get organizer).map (·.rewardBalance)).getD 0

/-- What a distribution adds to the rewards of an organizer. -/
def credited (organizer : Address) (staking : Staking) (action : StakingAction host) : Int :=
  match action with
  | .call _ (.distributeStakerRewards _ _) =>
    (step staking action).rewardOf organizer - staking.rewardOf organizer
  | _ => 0

/-- What a claim transfers to an organizer, in the token of their stake. -/
def claimed (organizer : Address) (staking : Staking) (action : StakingAction host) : Int :=
  match action with
  | .call _ (.claimStakerRewards claimant) =>
    if claimant = organizer then
      ((staking.stakes.get organizer).map fun stake =>
        (step staking action).tokens.balance stake.token organizer -
          staking.tokens.balance stake.token organizer).getD 0
    else 0
  | _ => 0

/-- The condition on a step: the organizer unstakes only with no rewards left. -/
def ClaimsFirst (organizer : Address) (staking : Staking) : StakingAction host → Prop
  | .call _ (.unstakeCollateral leaving) => leaving = organizer → staking.rewardOf organizer = 0
  | _ => True

instance (organizer : Address) (staking : Staking) :
    ∀ action : StakingAction host, Decidable (ClaimsFirst organizer staking action)
  | .call _ (.unstakeCollateral leaving) =>
    inferInstanceAs (Decidable (leaving = organizer → staking.rewardOf organizer = 0))
  | .call _ (.distributeStakerRewards _ _) => isTrue trivial
  | .call _ (.setStakingConfig _ _) => isTrue trivial
  | .call _ (.stakeCollateral _ _) => isTrue trivial
  | .call _ (.claimStakerRewards _) => isTrue trivial
  | .governance _ _ => isTrue trivial
  | .tokens _ => isTrue trivial

section Steps

variable {staking : Staking} {action : StakingAction host} (organizer : Address)

/-- A step that touches neither stakes nor tokens credits nothing and pays nothing. -/
theorem credited_claimed_of_same (stakes : (step staking action).stakes = staking.stakes)
    (tokens : (step staking action).tokens = staking.tokens) :
    credited organizer staking action = 0 ∧ claimed organizer staking action = 0 := by
  constructor
  · unfold credited
    split
    · rw [rewardOf, stakes]
      exact sub_self _
    · rfl
  · unfold claimed
    split
    · split
      · rw [tokens]
        rcases staking.stakes.get organizer with _ | stake
        · rfl
        · exact sub_self _
      · rfl
    · rfl

/-- One stake is written. -/
theorem rewardOf_set {next : Staking} {key : Address} {stake : OrganizerStake}
    (same : next.stakes = staking.stakes.set key stake) :
    next.rewardOf organizer =
      if organizer = key then stake.rewardBalance else staking.rewardOf organizer := by
  rw [rewardOf, same, Store.get_set]
  split
  · rfl
  · rfl

/-- The rewards of an organizer grow by what is credited and fall by what is paid. -/
theorem rewardOf_step (inOrder : staking.InOrder) (keeps : ClaimsFirst organizer staking action) :
    (step staking action).rewardOf organizer = staking.rewardOf organizer +
      (credited organizer staking action - claimed organizer staking action) := by
  cases step_turn staking action with
  | kept _ _ _ same =>
    obtain ⟨nothing, unpaid⟩ := credited_claimed_of_same organizer
      (show (step staking action).stakes = _ by rw [same]) (by rw [same])
    rw [nothing, unpaid, same]
    exact (add_zero _).symm
  | moved called same =>
    subst called
    exact (add_zero _).symm
  | @staked env staker token amount called outsider positive absent fits same =>
    have nothing : credited organizer staking action - claimed organizer staking action = 0 := by
      rw [called]
      rfl
    have after : (step staking action).stakes = staking.stakes.set staker
        (newStake staking.minStakeAmount staker token amount env.timestamp) := by
      rw [same]
      rfl
    rw [nothing, add_zero, rewardOf_set organizer after]
    split
    · rename_i mine
      rw [mine, rewardOf, absent]
      rfl
    · rfl
  | @unstaked env leaving stake called outsider stored same =>
    have nothing : credited organizer staking action - claimed organizer staking action = 0 := by
      rw [called]
      rfl
    rw [nothing, add_zero, same]
    show ((staking.stakes.remove leaving).get organizer |>.map (·.rewardBalance)).getD 0 = _
    rw [Store.get_remove]
    split
    · rename_i mine
      rw [called] at keeps
      exact (keeps mine.symm).symm
    · rfl
  | rewarded called outsider positive configured nonzero same =>
    rw [called]
    show _ = _ + ((_ - _) - 0)
    rw [sub_zero, add_sub_cancel]
  | @claimed env claimant stake called outsider stored same =>
    have uncredited : credited organizer staking action = 0 := by
      rw [called]
      rfl
    have after : (step staking action).stakes =
        staking.stakes.set claimant (claimReward stake) := by
      rw [same, ← (inOrder.held claimant stake stored).keyed]
      rfl
    rw [uncredited, rewardOf_set organizer after]
    split
    · rename_i mine
      subst mine
      have paid : claimed organizer staking action = stake.rewardBalance := by
        have balance : (step staking action).tokens.balance stake.token organizer =
            staking.tokens.balance stake.token organizer + stake.rewardBalance := by
          rw [same]
          exact (Tokens.balance_received outsider.symm).trans (by rw [if_pos rfl])
        subst called
        simp only [claimed, if_pos, stored, Option.map_some, Option.getD_some, balance]
        exact add_sub_cancel_left _ _
      rw [paid, rewardOf, stored]
      show 0 = stake.rewardBalance + (0 - stake.rewardBalance)
      rw [zero_sub, add_neg_cancel]
    · rename_i different
      have unpaid : claimed organizer staking action = 0 := by
        rw [called]
        exact if_neg (Ne.symm different)
      rw [unpaid, sub_zero, add_zero]

end Steps

/-- In every run in which the organizer claims before they unstake, what was credited to them was
paid to them or is still theirs. -/
theorem rewards_conserved (host : Host) (organizer : Address)
    (actions : List (StakingAction host))
    (keeps : Respects step (ClaimsFirst organizer) fresh actions) :
    runTotal step (credited organizer) fresh actions =
      runTotal step (claimed organizer) fresh actions +
        (runActions step fresh actions).rewardOf organizer := by
  have follows := quantity_add_runTotal InOrder (rewardOf · organizer)
    (fun staking action => credited organizer staking action - claimed organizer staking action)
    (fun staking action _ => (step_turn staking action).keeps_inOrder)
    (fun staking action keeps inOrder => rewardOf_step organizer inOrder keeps) fresh actions keeps
    fresh_inOrder
  rw [runTotal_sub] at follows
  rw [follows]
  show _ = _ + (0 + (_ - _))
  rw [zero_add, add_sub_cancel]

/-- Alice claims the reward, unstakes and stakes again. -/
theorem claimed_reward_conserved :
    let actions := aliceRewarded ++ [.call (allSign 3) (.claimStakerRewards aliceAddress),
      .call (allSign 4) (.unstakeCollateral aliceAddress),
      .call (allSign 5) (.stakeCollateral aliceAddress 50)]
    runTotal step (credited aliceAddress) fresh actions = 50 ∧
      runTotal step (credited aliceAddress) fresh actions =
        runTotal step (claimed aliceAddress) fresh actions +
          (runActions step fresh actions).rewardOf aliceAddress :=
  ⟨by decide +kernel, rewards_conserved stage aliceAddress _ (by decide +kernel)⟩

/-- Alice unstakes without a claim, and the reward is lost. -/
theorem unstaked_reward_forfeited :
    let actions := aliceRewarded ++ [.call (allSign 3) (.unstakeCollateral aliceAddress)]
    runTotal step (credited aliceAddress) fresh actions = 50 ∧
      runTotal step (claimed aliceAddress) fresh actions = 0 ∧
      (runActions step fresh actions).rewardOf aliceAddress = 0 ∧
      accepted (claimStakerRewards (allSign 4) aliceAddress) (runActions step fresh actions) =
        false := by
  decide +kernel

end Agora.EventRegistry.Staking

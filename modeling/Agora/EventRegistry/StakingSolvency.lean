/-
This file asks whether the registry can pay what it owes to the stakers, token by token.

It can as long as a reward is distributed only while all stakes are in the token in which the
reward comes. The shares of a reward add up to no more than the reward, for the total over
which they are taken is the sum of the stakes. After a change of the staking token the older
stakes have their share as well, and it is paid in a token in which nothing came.
-/

import Agora.EventRegistry.Staking

namespace Agora.EventRegistry.Staking

open Soroban
open TicketPayment (TokenMove tokenStep)

variable {host : Host}

/-! ### What is owed -/

/-- What a stake is owed in a token. -/
def owedOf (token : Address) : Option OrganizerStake → Int
  | none => 0
  | some stake => if stake.token = token then stake.amount + stake.rewardBalance else 0

/-- The tokens are compared as the balances after a movement compare them. -/
theorem owedOf_some (token : Address) (stake : OrganizerStake) :
    owedOf token (some stake) =
      if token = stake.token then stake.amount + stake.rewardBalance else 0 := by
  simp only [owedOf, eq_comm]

/-- What all stakes together are owed in a token. -/
noncomputable def owed (stakes : Store Address OrganizerStake) (token : Address) : Int :=
  ∑ᶠ organizer, owedOf token (stakes.get organizer)

variable {token : Address}

theorem owed_hasFiniteSupport {stakes : Store Address OrganizerStake} :
    (fun organizer => owedOf token (stakes.get organizer)).HasFiniteSupport :=
  stakes.hasFiniteSupport (fun _ => owedOf token) fun _ => rfl

/-- The registry holds what is owed. -/
def Solvent (host : Host) (staking : Staking) : Prop :=
  ∀ token, owed staking.stakes token ≤ staking.tokens.balance token host.contract

/-- The condition on a step: a reward is distributed only while every stake is in the staking
token. -/
def KeepsToken (staking : Staking) : StakingAction host → Prop
  | .call _ (.distributeStakerRewards _ _) => ∀ organizer ∈ staking.stakers,
      ∀ stake ∈ staking.stakes.get organizer, staking.stakingToken = some stake.token
  | _ => True

instance (staking : Staking) : ∀ action : StakingAction host, Decidable (KeepsToken staking action)
  | .call _ (.distributeStakerRewards _ _) =>
    inferInstanceAs (Decidable (∀ organizer ∈ staking.stakers,
      ∀ stake ∈ staking.stakes.get organizer, staking.stakingToken = some stake.token))
  | .call _ (.setStakingConfig _ _) => isTrue trivial
  | .call _ (.stakeCollateral _ _) => isTrue trivial
  | .call _ (.unstakeCollateral _) => isTrue trivial
  | .call _ (.claimStakerRewards _) => isTrue trivial
  | .governance _ _ => isTrue trivial
  | .tokens _ => isTrue trivial

/-! ### Movements of tokens -/

variable {tokens : Tokens}

/-- Nobody else takes tokens from the contract. -/
theorem balance_le_tokenStep {move : TokenMove} :
    tokens.balance token host.contract ≤
      (tokenStep host tokens move).balance token host.contract := by
  cases move with
  | mint minted holder amount =>
    rw [tokenStep]
    split
    · show _ ≤ _ + _
      split <;> omega
    · exact le_rfl
  | transfer moved source target amount =>
    rw [tokenStep]
    split
    · exact le_rfl
    · rename_i outside
      cases done : tokens.transfer moved source target amount with
      | none => exact le_rfl
      | some next =>
        obtain ⟨allowed, rfl⟩ := Tokens.transfer_eq_some.mp done
        have nonneg := allowed.1
        show _ ≤ _ + Tokens.moved moved source target amount token host.contract
        unfold Tokens.moved
        rw [if_neg fun same => outside (Eq.symm same)]
        split
        · split <;> omega
        · omega
  | approve approved owner spender amount =>
    rw [tokenStep]
    split
    · exact le_rfl
    · exact le_rfl

/-! ### What keeps the registry solvent -/

section Solvency

variable {staking next : Staking} {action : StakingAction host} {organizer : Address}
  {stake : OrganizerStake} (stakes : Store Address OrganizerStake)

theorem owed_set (organizer : Address) (stake : OrganizerStake) (token : Address) :
    owed (stakes.set organizer stake) token = owed stakes token +
      (owedOf token (some stake) - owedOf token (stakes.get organizer)) :=
  stakes.finsum_set rfl organizer stake

theorem owed_remove (organizer token : Address) :
    owed (stakes.remove organizer) token =
      owed stakes token - owedOf token (stakes.get organizer) :=
  stakes.finsum_remove rfl organizer

variable {amount : Int}

theorem Solvent.enter (solvent : Solvent host staking) (outsider : organizer ≠ host.contract)
    (absent : staking.stakes.get organizer = none) (timestamp : Nat) :
    Solvent host (staking.enter
      (newStake staking.minStakeAmount organizer token amount timestamp)
      ((staking.tokens.spendAllowance token organizer host.contract amount).move token organizer
        host.contract amount)) := by
  intro other
  show owed (staking.stakes.set organizer _) other ≤ Tokens.balance (Tokens.move _ _ _ _ _) _ _
  rw [owed_set, absent, owedOf_some, Tokens.balance_received outsider]
  have before : _ ≤ staking.tokens.balance other host.contract := solvent other
  show _ + ((if other = token then amount + 0 else 0) - 0) ≤ staking.tokens.balance _ _ + _
  split_ifs <;> omega

section

variable (inOrder : staking.InOrder) (solvent : Solvent host staking)
  (outsider : organizer ≠ host.contract) (stored : staking.stakes.get organizer = some stake)

include inOrder solvent outsider stored

theorem Solvent.leave :
    Solvent host (staking.leave organizer stake.amount
      (staking.tokens.move stake.token host.contract organizer stake.amount)) := by
  intro other
  show owed (staking.stakes.remove organizer) other ≤ Tokens.balance (Tokens.move _ _ _ _ _) _ _
  rw [owed_remove, stored, owedOf_some, Tokens.balance_paid outsider.symm]
  have before : _ ≤ staking.tokens.balance other host.contract := solvent other
  have nonneg := (inOrder.held organizer stake stored).nonneg
  split_ifs <;> omega

theorem Solvent.claim :
    Solvent host (({ staking with
      tokens := staking.tokens.move stake.token host.contract organizer
        stake.rewardBalance } : Staking).setOrganizerStake (claimReward stake)) := by
  intro other
  show owed (staking.stakes.set stake.organizer (claimReward stake)) other ≤
    Tokens.balance (Tokens.move _ _ _ _ _) _ _
  rw [(inOrder.held organizer stake stored).keyed, owed_set, stored, owedOf_some, owedOf_some,
    Tokens.balance_paid outsider.symm]
  have before : _ ≤ staking.tokens.balance other host.contract := solvent other
  show _ + ((if other = stake.token then stake.amount + 0 else 0) - _) ≤ _
  split_ifs <;> omega

end

/-- What a stake gets of a reward. -/
def shareOf (totalReward totalStaked : Int) (stake : Option OrganizerStake) : Int :=
  (stake.map (rewardShare totalReward totalStaked)).getD 0

theorem shareOf_hasFiniteSupport {totalReward totalStaked : Int} :
    (fun organizer => shareOf totalReward totalStaked (stakes.get organizer)).HasFiniteSupport :=
  stakes.hasFiniteSupport (fun _ => shareOf totalReward totalStaked) fun _ => rfl

variable {totalReward : Int}

/-- The shares add up to no more than the reward. -/
theorem InOrder.shares_le (inOrder : staking.InOrder) (positive : 0 < totalReward)
    (nonzero : staking.totalStaked ≠ 0) :
    ∑ᶠ organizer, shareOf totalReward staking.totalStaked (staking.stakes.get organizer) ≤
      totalReward := by
  have totalPositive := inOrder.total_pos nonzero
  refine finsum_shares_le (shareOf_hasFiniteSupport _)
    (staking.stakes.hasFiniteSupport (fun _ => amountOf) fun _ => rfl)
    (inOrder.total ▸ totalPositive) fun organizer => ?_
  rw [← inOrder.total]
  rcases found : staking.stakes.get organizer with _ | stake
  · exact le_of_eq ((Int.mul_zero _).trans (Int.mul_zero _).symm)
  · exact (rewardShare_bounds positive totalPositive
      (inOrder.held organizer stake found).positive).2

/-- Where all stakes are in one token, a distribution adds no more than the reward to what is owed
in it, and nothing to what is owed in another. -/
theorem InOrder.owed_rewardAll_le (inOrder : staking.InOrder) (positive : 0 < totalReward)
    (nonzero : staking.totalStaked ≠ 0)
    (ofToken : ∀ organizer stake, staking.stakes.get organizer = some stake → stake.token = token)
    {other : Address} :
    owed (staking.rewardAll totalReward tokens).stakes other ≤
      owed staking.stakes other + if other = token then totalReward else 0 := by
  have get := inOrder.get_rewardAll totalReward tokens
  by_cases same : other = token
  · -- every stake is owed its share more at most
    have each (organizer : Address) :
        owedOf other ((staking.rewardAll totalReward tokens).stakes.get organizer) ≤
          owedOf other (staking.stakes.get organizer) +
            shareOf totalReward staking.totalStaked (staking.stakes.get organizer) := by
      rw [get]
      rcases found : staking.stakes.get organizer with _ | stake
      · exact le_rfl
      · have held := inOrder.held organizer stake found
        have share := rewardShare_bounds positive (inOrder.total_pos nonzero) held.positive
        have bounds := rewarded_bounds held.nonneg share.1
        have isToken : other = stake.token := same.trans (ofToken organizer stake found).symm
        show owedOf other (some (rewarded _ _ stake)) ≤
          _ + rewardShare totalReward staking.totalStaked stake
        rw [owedOf_some, owedOf_some, rewarded_token, rewarded_amount, if_pos isToken,
          if_pos isToken]
        omega
    rw [if_pos same]
    calc owed (staking.rewardAll totalReward tokens).stakes other
        ≤ ∑ᶠ organizer, (owedOf other (staking.stakes.get organizer) +
            shareOf totalReward staking.totalStaked (staking.stakes.get organizer)) :=
          finsum_le_finsum' owed_hasFiniteSupport (owed_hasFiniteSupport.add
              (shareOf_hasFiniteSupport staking.stakes)) each
      _ = owed staking.stakes other + ∑ᶠ organizer,
            shareOf totalReward staking.totalStaked (staking.stakes.get organizer) :=
          finsum_add_distrib owed_hasFiniteSupport (shareOf_hasFiniteSupport staking.stakes)
      _ ≤ owed staking.stakes other + totalReward :=
          Int.add_le_add_left (inOrder.shares_le positive nonzero) _
  · rw [if_neg same, add_zero]
    refine le_of_eq (finsum_congr fun organizer => ?_)
    rw [get]
    rcases found : staking.stakes.get organizer with _ | stake
    · rfl
    · have isOther : other ≠ stake.token := fun equal =>
        same (equal.trans (ofToken organizer stake found))
      show owedOf other (some (rewarded _ _ stake)) = _
      rw [owedOf_some, owedOf_some, rewarded_token, if_neg isOther, if_neg isOther]

theorem Solvent.rewardAll (inOrder : staking.InOrder) (solvent : Solvent host staking)
    {caller : Address} (outsider : caller ≠ host.contract) (positive : 0 < totalReward)
    (nonzero : staking.totalStaked ≠ 0)
    (ofToken : ∀ organizer stake, staking.stakes.get organizer = some stake → stake.token = token) :
    Solvent host (staking.rewardAll totalReward
      ((staking.tokens.spendAllowance token caller host.contract totalReward).move token caller
        host.contract totalReward)) := by
  intro other
  refine (inOrder.owed_rewardAll_le positive nonzero ofToken).trans ?_
  show _ ≤ Tokens.balance (Tokens.move _ _ _ _ _) _ _
  rw [Tokens.balance_received outsider]
  have before : _ ≤ staking.tokens.balance other host.contract := solvent other
  exact Int.add_le_add_right before _

theorem Turn.keeps_solvent (turn : Turn staking action next) (keeps : KeepsToken staking action)
    (inOrder : staking.InOrder) (solvent : Solvent host staking) : Solvent host next := by
  cases turn with
  | kept _ _ _ same => exact same ▸ solvent
  | @moved move called same =>
    rw [same]
    exact fun token => (solvent token).trans balance_le_tokenStep
  | staked called outsider positive absent fits same =>
    rw [same]
    exact solvent.enter outsider absent _
  | unstaked called outsider stored same =>
    rw [same]
    exact solvent.leave inOrder outsider stored
  | rewarded called outsider positive configured nonzero same =>
    rw [same]
    subst called
    refine solvent.rewardAll inOrder outsider positive nonzero fun organizer stake stored => ?_
    have listed := (inOrder.listed organizer).mpr (Option.isSome_of_eq_some stored)
    have token := keeps organizer listed stake stored
    exact (Option.some.inj (configured.symm.trans token)).symm
  | claimed called outsider stored same =>
    rw [same]
    exact solvent.claim inOrder outsider stored

/-- One stake is owed no more than all of them. -/
theorem InOrder.owedOf_le (inOrder : staking.InOrder) (organizer token : Address) :
    owedOf token (staking.stakes.get organizer) ≤ owed staking.stakes token := by
  have rest : 0 ≤ owed (staking.stakes.remove organizer) token := by
    refine finsum_nonneg fun other => ?_
    rw [Store.get_remove]
    split
    · exact le_rfl
    · rcases found : staking.stakes.get other with _ | stake
      · exact le_rfl
      · have held := inOrder.held other stake found
        rw [owedOf_some]
        split
        · exact Int.add_nonneg held.positive.le held.nonneg
        · exact le_rfl
  rw [owed_remove] at rest
  omega

/-- A staker whom a solvent registry owes something can take it. -/
theorem Solvent.pays (inOrder : staking.InOrder) (solvent : Solvent host staking)
    (stored : staking.stakes.get organizer = some stake) (nonneg : 0 ≤ amount)
    (due : amount ≤ stake.amount + stake.rewardBalance)
    (fits : InI128 (staking.tokens.balance stake.token organizer + amount)) :
    staking.tokens.CanMove stake.token host.contract organizer amount := by
  refine ⟨nonneg, due.trans ?_, fits⟩
  have mine := inOrder.owedOf_le organizer stake.token
  rw [stored, owedOf, if_pos rfl] at mine
  exact mine.trans (solvent stake.token)

end Solvency

/-- In every run of such steps the registry holds what it owes in every token, and every staker
can claim and unstake. -/
theorem staking_solvent (host : Host) (actions : List (StakingAction host))
    (keeps : Respects step KeepsToken fresh actions) :
    (∀ token, ∑ᶠ organizer, owedOf token ((runActions step fresh actions).stakes.get organizer) ≤
      (runActions step fresh actions).tokens.balance token host.contract) ∧
    ∀ (env : Env host) organizer stake,
      (runActions step fresh actions).stakes.get organizer = some stake →
      env.signed organizer = true →
        (InI128 ((runActions step fresh actions).tokens.balance stake.token organizer +
            stake.amount) →
          accepted (unstakeCollateral env organizer) (runActions step fresh actions) = true) ∧
        (stake.rewardBalance ≠ 0 →
          InI128 ((runActions step fresh actions).tokens.balance stake.token organizer +
            stake.rewardBalance) →
          accepted (claimStakerRewards env organizer) (runActions step fresh actions) = true) := by
  obtain ⟨inOrder, solvent⟩ : (runActions step fresh actions).InOrder ∧
      Solvent host (runActions step fresh actions) := by
    refine respects_invariant (fun staking => staking.InOrder ∧ Solvent host staking) ?_ fresh
      actions keeps ⟨fresh_inOrder, fun token => finsum_zero.le⟩
    rintro staking action keeps ⟨inOrder, solvent⟩
    have turn := step_turn staking action
    exact ⟨turn.keeps_inOrder inOrder, turn.keeps_solvent keeps inOrder solvent⟩
  refine ⟨solvent, fun env organizer stake stored signed => ?_⟩
  have held := inOrder.held organizer stake stored
  refine ⟨fun fits => ?_, fun nonzero fits => ?_⟩
  · have pays := solvent.pays inOrder stored held.positive.le
      (Int.le_add_of_nonneg_right held.nonneg) fits
    rw [accepted_eq_true_iff]
    simp only [unstakeCollateral, succeeds_rules, Tokens.transfer_eq_some]
    exact ⟨signed, stake, stored, _, ⟨pays, rfl⟩, trivial⟩
  · have pays := solvent.pays inOrder stored held.nonneg
      (Int.le_add_of_nonneg_left held.positive.le) fits
    rw [accepted_eq_true_iff]
    simp only [claimStakerRewards, succeeds_rules, Tokens.transfer_eq_some]
    exact ⟨signed, stake, stored, nonzero, _, ⟨pays, rfl⟩, trivial⟩

/-! ### A change of the staking token -/

def eurcAddress : Address := ⟨"eurc"⟩

/-- Somebody has tokens and lets the registry take them. -/
def funding (token holder : Address) (amount : Int) : List (StakingAction stage) :=
  [.tokens (.mint token holder amount), .tokens (.approve token holder stage.contract amount)]

/-- Alice stakes a hundred of the first token. -/
def aliceStakes : List (StakingAction stage) :=
  funding usdcAddress aliceAddress 200 ++
    [.governance (some adminAddress) 0, .call (allSign 0) (.setStakingConfig usdcAddress 10),
      .call (allSign 1) (.stakeCollateral aliceAddress 100)]

/-- The administrator distributes fifty of a token. -/
def distributing (token : Address) : List (StakingAction stage) :=
  funding token adminAddress 50 ++
    [.call (allSign 2) (.distributeStakerRewards adminAddress 50)]

def aliceRewarded : List (StakingAction stage) := aliceStakes ++ distributing usdcAddress

/-- The reward comes in the token of the stake. -/
theorem rewarded_stake_solvent :
    let staking := runActions step fresh aliceRewarded
    (∀ token, ∑ᶠ organizer, owedOf token (staking.stakes.get organizer) ≤
      staking.tokens.balance token stage.contract) ∧
    ∀ (env : Env stage) organizer stake, staking.stakes.get organizer = some stake →
      env.signed organizer = true →
        (InI128 (staking.tokens.balance stake.token organizer + stake.amount) →
          accepted (unstakeCollateral env organizer) staking = true) ∧
        (stake.rewardBalance ≠ 0 →
          InI128 (staking.tokens.balance stake.token organizer + stake.rewardBalance) →
          accepted (claimStakerRewards env organizer) staking = true) :=
  staking_solvent stage aliceRewarded (by decide +kernel)

/-- The staking token changes before the reward comes. -/
def tokenChanged : List (StakingAction stage) :=
  aliceStakes ++ [.call (allSign 1) (.setStakingConfig eurcAddress 10)] ++ distributing eurcAddress

/-- Alice is owed a hundred and fifty of the first token, of which there are a hundred. Once the
reward is claimed, the stake cannot be taken back. -/
theorem changed_token_insolvent :
    let staking := runActions step fresh tokenChanged
    let claimed := step staking (.call (allSign 3) (.claimStakerRewards aliceAddress))
    owed staking.stakes usdcAddress = 150 ∧
      staking.tokens.balance usdcAddress stage.contract = 100 ∧
      accepted (claimStakerRewards (allSign 3) aliceAddress) staking = true ∧
      accepted (unstakeCollateral (allSign 4) aliceAddress) claimed = false := by
  have inOrder : (runActions step fresh tokenChanged).InOrder := run_inOrder
  have alone : (runActions step fresh tokenChanged).stakers = [aliceAddress] := by decide +kernel
  refine ⟨?_, by decide +kernel, by decide +kernel, by decide +kernel⟩
  refine (finsum_eq_single _ aliceAddress fun other different => ?_).trans (by decide +kernel)
  have absent : (runActions step fresh tokenChanged).stakes.get other = none := by
    rw [← Option.not_isSome_iff_eq_none, ← inOrder.listed, alone, List.mem_singleton]
    exact different
  rw [absent]
  rfl

end Agora.EventRegistry.Staking

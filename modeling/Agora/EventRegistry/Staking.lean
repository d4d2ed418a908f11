/-
This file models the staking of the registry: organizers lock an amount of the staking token,
the administrator distributes rewards among them in proportion, and organizers claim their
rewards and take their stake back.

A stake remembers the token in which it was made. The rewards come in the token of the moment,
the total over which they are shared adds up stakes of all tokens, and what is paid out is paid
in the token of the stake. An organizer who leaves takes the stake only, and whatever rewards
they had left are gone with the record.

`step_turn` says once what a step can do, and `InOrder` what the records say of each other.
-/

import Agora.EventRegistry.Stock

namespace Agora.EventRegistry

open Soroban
open TicketPayment (TokenMove tokenStep)

/-! ### Data -/

structure OrganizerStake where
  organizer : Address
  token : Address
  amount : Int
  stakedAt : Nat
  isVerified : Bool
  rewardBalance : Int
  totalRewardsClaimed : Int
  deriving DecidableEq, Repr

/-- What the registry stores for the staking, and the tokens. -/
structure Staking where
  admin : Option Address
  stakingToken : Option Address
  minStakeAmount : Int
  totalStaked : Int
  stakers : List Address
  stakes : Store Address OrganizerStake
  tokens : Tokens

namespace Staking

def fresh : Staking where
  admin := none
  stakingToken := none
  minStakeAmount := 0
  totalStaked := 0
  stakers := []
  stakes := .empty
  tokens := .none

/-! ### Entry points -/

/-- An entry point of the staking. -/
abbrev Entry (Value : Type) := Transaction Staking (Fault EventRegistryError) Value

variable {host : Host} (env : Env host)

def requireAdmin : Entry Unit := do
  let staking ← get
  let admin ← orFault staking.admin (.error .notInitialized)
  require (env.signed admin = true) .trap

def setStakingConfig (token : Address) (minAmount : Int) : Entry Unit := do
  requireAdmin env
  require (0 < minAmount) (.error .invalidStakeAmount)
  modify fun staking => { staking with stakingToken := some token, minStakeAmount := minAmount }

def setOrganizerStake (staking : Staking) (stake : OrganizerStake) : Staking :=
  { staking with stakes := staking.stakes.set stake.organizer stake }

def addToStakersList (staking : Staking) (organizer : Address) : Staking :=
  { staking with
    stakers :=
      if organizer ∈ staking.stakers then staking.stakers else staking.stakers ++ [organizer] }

def newStake (minAmount : Int) (organizer token : Address) (amount : Int) (timestamp : Nat) :
    OrganizerStake where
  organizer := organizer
  token := token
  amount := amount
  stakedAt := timestamp
  isVerified := minAmount ≤ amount
  rewardBalance := 0
  totalRewardsClaimed := 0

/-- A new stake is stored, counted and listed. -/
def enter (staking : Staking) (stake : OrganizerStake) (tokens : Tokens) : Staking :=
  (({ staking with
      tokens := tokens
      totalStaked := staking.totalStaked + stake.amount } : Staking).setOrganizerStake
    stake).addToStakersList stake.organizer

def stakeCollateral (organizer : Address) (amount : Int) : Entry Unit := do
  require (env.signed organizer = true) .trap
  require (0 < amount) (.error .invalidStakeAmount)
  let staking ← get
  require (staking.stakes.get organizer = none) (.error .alreadyStaked)
  let token ← orFault staking.stakingToken (.error .stakingNotConfigured)
  let tokens ← orFault
    (staking.tokens.transferFrom token host.contract organizer host.contract amount) .trap
  -- the source adds in i128
  require (InI128 (staking.totalStaked + amount)) .trap
  modify fun staking => staking.enter
    (newStake staking.minStakeAmount organizer token amount env.timestamp) tokens

/-- A stake is taken off all records. -/
def leave (staking : Staking) (organizer : Address) (amount : Int) (tokens : Tokens) : Staking :=
  { staking with
    tokens := tokens
    totalStaked := saturatingI128 (staking.totalStaked - amount)
    stakes := staking.stakes.remove organizer
    stakers := staking.stakers.filter (· ≠ organizer) }

/-- The rewards of the stake are not looked at. -/
def unstakeCollateral (organizer : Address) : Entry Unit := do
  require (env.signed organizer = true) .trap
  let staking ← get
  let stake ← orFault (staking.stakes.get organizer) (.error .notStaked)
  let tokens ← orFault
    (staking.tokens.transfer stake.token host.contract organizer stake.amount) .trap
  modify fun staking => staking.leave organizer stake.amount tokens

/-- The share of a stake in a reward. A product that does not fit counts as no reward. -/
def rewardShare (totalReward totalStaked : Int) (stake : OrganizerStake) : Int :=
  (mulDiv totalReward stake.amount totalStaked).getD 0

def creditReward (totalReward totalStaked : Int) (stake : OrganizerStake) : OrganizerStake :=
  { stake with
    rewardBalance :=
      saturatingI128 (stake.rewardBalance + rewardShare totalReward totalStaked stake) }

/-- One round of the loop over the stakers. -/
def rewardStaker (totalReward totalStaked : Int) (stakes : Store Address OrganizerStake)
    (organizer : Address) : Store Address OrganizerStake :=
  match stakes.get organizer with
  | none => stakes
  | some stake =>
    if 0 < rewardShare totalReward totalStaked stake then
      stakes.set stake.organizer (creditReward totalReward totalStaked stake)
    else stakes

/-- Every listed staker is rewarded. -/
def rewardAll (staking : Staking) (totalReward : Int) (tokens : Tokens) : Staking :=
  { staking with
    tokens := tokens
    stakes := staking.stakers.foldl (rewardStaker totalReward staking.totalStaked)
      staking.stakes }

def distributeStakerRewards (caller : Address) (totalReward : Int) : Entry Unit := do
  require (env.signed caller = true) .trap
  let staking ← get
  let admin ← orFault staking.admin (.error .notInitialized)
  require (caller = admin) (.error .unauthorized)
  require (0 < totalReward) (.error .invalidRewardAmount)
  let token ← orFault staking.stakingToken (.error .stakingNotConfigured)
  require (staking.totalStaked ≠ 0) (.error .notStaked)
  let tokens ← orFault
    (staking.tokens.transferFrom token host.contract caller host.contract totalReward) .trap
  modify fun staking => staking.rewardAll totalReward tokens

def claimReward (stake : OrganizerStake) : OrganizerStake :=
  { stake with
    totalRewardsClaimed := saturatingI128 (stake.totalRewardsClaimed + stake.rewardBalance)
    rewardBalance := 0 }

def claimStakerRewards (organizer : Address) : Entry Int := do
  require (env.signed organizer = true) .trap
  let staking ← get
  let stake ← orFault (staking.stakes.get organizer) (.error .notStaked)
  require (stake.rewardBalance ≠ 0) (.error .noRewardsAvailable)
  let tokens ← orFault
    (staking.tokens.transfer stake.token host.contract organizer stake.rewardBalance) .trap
  modify fun staking => ({ staking with tokens } : Staking).setOrganizerStake
    (claimReward stake)
  pure stake.rewardBalance

end Staking

/-! ### The machine -/

/-- The entry points of the staking. -/
inductive StakingCall where
  | setStakingConfig (token : Address) (minAmount : Int)
  | stakeCollateral (organizer : Address) (amount : Int)
  | unstakeCollateral (organizer : Address)
  | distributeStakerRewards (caller : Address) (totalReward : Int)
  | claimStakerRewards (organizer : Address)
  deriving DecidableEq

/-- One step: a call, a decision of the governance, which can put another administrator and
another minimum in place, or a movement of tokens. -/
inductive StakingAction (host : Host) where
  | call (env : Env host) (call : StakingCall)
  | governance (admin : Option Address) (minStakeAmount : Int)
  | tokens (move : TokenMove)

variable {host : Host}

def StakingCall.entry (env : Env host) : StakingCall → Staking.Entry Unit
  | .setStakingConfig token minAmount => Staking.setStakingConfig env token minAmount
  | .stakeCollateral organizer amount => Staking.stakeCollateral env organizer amount
  | .unstakeCollateral organizer => Staking.unstakeCollateral env organizer
  | .distributeStakerRewards caller totalReward =>
    Staking.distributeStakerRewards env caller totalReward
  | .claimStakerRewards organizer => do
    let _ ← Staking.claimStakerRewards env organizer

namespace Staking

def step (staking : Staking) : StakingAction host → Staking
  | .call env call => commit (call.entry env) staking
  | .governance admin minStakeAmount => { staking with admin, minStakeAmount }
  | .tokens move => { staking with tokens := tokenStep host staking.tokens move }

/-! ### What a step does -/

/-- What a step does to the stakes and the tokens. -/
inductive Turn (staking : Staking) (action : StakingAction host) (next : Staking) : Prop
  | kept (admin stakingToken : Option Address) (minStakeAmount : Int)
      (same : next = { staking with admin, stakingToken, minStakeAmount })
  | moved {move : TokenMove} (called : action = .tokens move)
      (same : next = { staking with tokens := tokenStep host staking.tokens move })
  | staked {env : Env host} {organizer token : Address} {amount : Int}
      (called : action = .call env (.stakeCollateral organizer amount))
      (outsider : organizer ≠ host.contract) (positive : 0 < amount)
      (absent : staking.stakes.get organizer = none)
      (fits : InI128 (staking.totalStaked + amount))
      (same : next = staking.enter
        (newStake staking.minStakeAmount organizer token amount env.timestamp)
        ((staking.tokens.spendAllowance token organizer host.contract amount).move token organizer
          host.contract amount))
  | unstaked {env : Env host} {organizer : Address} {stake : OrganizerStake}
      (called : action = .call env (.unstakeCollateral organizer))
      (outsider : organizer ≠ host.contract)
      (stored : staking.stakes.get organizer = some stake)
      (same : next = staking.leave organizer stake.amount
        (staking.tokens.move stake.token host.contract organizer stake.amount))
  | rewarded {env : Env host} {caller token : Address} {totalReward : Int}
      (called : action = .call env (.distributeStakerRewards caller totalReward))
      (outsider : caller ≠ host.contract) (positive : 0 < totalReward)
      (configured : staking.stakingToken = some token) (nonzero : staking.totalStaked ≠ 0)
      (same : next = staking.rewardAll totalReward
        ((staking.tokens.spendAllowance token caller host.contract totalReward).move token caller
          host.contract totalReward))
  | claimed {env : Env host} {organizer : Address} {stake : OrganizerStake}
      (called : action = .call env (.claimStakerRewards organizer))
      (outsider : organizer ≠ host.contract)
      (stored : staking.stakes.get organizer = some stake)
      (same : next = ({ staking with
        tokens := staking.tokens.move stake.token host.contract organizer
          stake.rewardBalance } : Staking).setOrganizerStake (claimReward stake))

section Turns

variable {staking : Staking}

theorem Turn.refl {action : StakingAction host} : Turn staking action staking :=
  .kept staking.admin staking.stakingToken staking.minStakeAmount rfl

/-- Every step is one of the turns. -/
theorem step_turn (staking : Staking) (action : StakingAction host) :
    Turn staking action (step staking action) := by
  cases action with
  | call env call =>
    refine commit_of_ensures .refl ?_
    cases call with
    | setStakingConfig token minAmount =>
      simp only [StakingCall.entry, setStakingConfig, requireAdmin, ensures_rules]
      intro _ _ _ _
      exact .kept staking.admin (some token) minAmount rfl
    | stakeCollateral organizer amount =>
      simp only [StakingCall.entry, stakeCollateral, ensures_rules, Tokens.transferFrom_eq_some]
      rintro signed positive absent token _ _ ⟨_, _, rfl⟩ fits
      exact .staked rfl (ne_contract_of_signed env signed) positive absent fits rfl
    | unstakeCollateral organizer =>
      simp only [StakingCall.entry, unstakeCollateral, ensures_rules, Tokens.transfer_eq_some]
      rintro signed stake stored _ ⟨_, rfl⟩
      exact .unstaked rfl (ne_contract_of_signed env signed) stored rfl
    | distributeStakerRewards caller totalReward =>
      simp only [StakingCall.entry, distributeStakerRewards, ensures_rules,
        Tokens.transferFrom_eq_some]
      rintro signed _ _ _ positive token configured nonzero _ ⟨_, _, rfl⟩
      exact .rewarded rfl (ne_contract_of_signed env signed) positive configured nonzero rfl
    | claimStakerRewards organizer =>
      simp only [StakingCall.entry, claimStakerRewards, ensures_rules, Tokens.transfer_eq_some]
      rintro signed stake stored _ _ ⟨_, rfl⟩
      exact .claimed rfl (ne_contract_of_signed env signed) stored rfl
  | governance admin minStakeAmount =>
    exact .kept admin staking.stakingToken minStakeAmount rfl
  | tokens move => exact .moved rfl rfl

end Turns

/-! ### Records in order -/

def amountOf (stake : Option OrganizerStake) : Int :=
  (stake.map (·.amount)).getD 0

/-- A stored stake carries the address of its organizer, and its amounts are what amounts are. -/
structure Held (organizer : Address) (stake : OrganizerStake) : Prop where
  keyed : stake.organizer = organizer
  positive : 0 < stake.amount
  nonneg : 0 ≤ stake.rewardBalance

/-- The list names the stakers, each once, and the total is the sum of their stakes. -/
structure InOrder (staking : Staking) : Prop where
  held : ∀ organizer stake, staking.stakes.get organizer = some stake → Held organizer stake
  nodup : staking.stakers.Nodup
  listed : ∀ organizer, organizer ∈ staking.stakers ↔ (staking.stakes.get organizer).isSome = true
  total : staking.totalStaked = ∑ᶠ organizer, amountOf (staking.stakes.get organizer)
  fits : staking.totalStaked < 2 ^ 127

/-! ### The shares of a reward -/

/-- A stake after a distribution. -/
def rewarded (totalReward totalStaked : Int) (stake : OrganizerStake) : OrganizerStake :=
  if 0 < rewardShare totalReward totalStaked stake then creditReward totalReward totalStaked stake
  else stake

theorem saturatingI128_of_nonneg {value : Int} (nonneg : 0 ≤ value) :
    saturatingI128 value = min value (2 ^ 127 - 1) := by
  unfold saturatingI128
  omega

section Shares

variable {totalReward totalStaked : Int} {organizer : Address} {stake : OrganizerStake}

/-- A share is not negative, and is in proportion to the stake or less. -/
theorem rewardShare_bounds (rewardPositive : 0 < totalReward) (totalPositive : 0 < totalStaked)
    (amountPositive : 0 < stake.amount) :
    0 ≤ rewardShare totalReward totalStaked stake ∧
      totalStaked * rewardShare totalReward totalStaked stake ≤ totalReward * stake.amount := by
  have product : 0 ≤ totalReward * stake.amount :=
    Int.mul_nonneg rewardPositive.le amountPositive.le
  rw [rewardShare, mulDiv_of_nonneg rewardPositive.le amountPositive.le totalPositive]
  split
  · exact ⟨Int.ediv_nonneg product totalPositive.le, Int.mul_ediv_self_le totalPositive.ne'⟩
  · exact ⟨le_rfl, (Int.mul_zero totalStaked).le.trans product⟩

/-- The rewards grow by the share at most, and only they change. -/
theorem rewarded_bounds (nonneg : 0 ≤ stake.rewardBalance)
    (share : 0 ≤ rewardShare totalReward totalStaked stake) :
    0 ≤ (rewarded totalReward totalStaked stake).rewardBalance ∧
      (rewarded totalReward totalStaked stake).rewardBalance ≤
        stake.rewardBalance + rewardShare totalReward totalStaked stake := by
  unfold rewarded
  split
  · show 0 ≤ saturatingI128 _ ∧ saturatingI128 _ ≤ _
    rw [saturatingI128_of_nonneg (Int.add_nonneg nonneg share)]
    omega
  · omega

@[simp]
theorem rewarded_organizer :
    (rewarded totalReward totalStaked stake).organizer = stake.organizer := by
  unfold rewarded
  split <;> rfl

@[simp]
theorem rewarded_token : (rewarded totalReward totalStaked stake).token = stake.token := by
  unfold rewarded
  split <;> rfl

@[simp]
theorem rewarded_amount : (rewarded totalReward totalStaked stake).amount = stake.amount := by
  unfold rewarded
  split <;> rfl

variable (totalReward totalStaked) {stakes : Store Address OrganizerStake}
  (keyed : ∀ organizer stake, stakes.get organizer = some stake → stake.organizer = organizer)

include keyed

theorem get_rewardStaker (organizer other : Address) :
    (rewardStaker totalReward totalStaked stakes organizer).get other =
      if other = organizer then (stakes.get other).map (rewarded totalReward totalStaked)
      else stakes.get other := by
  unfold rewardStaker
  split
  · rename_i absent
    split
    · rename_i same
      rw [same, absent]
      rfl
    · rfl
  · rename_i stake stored
    split
    · rename_i positive
      rw [Store.get_set, keyed organizer stake stored]
      split
      · rename_i same
        rw [same, stored, Option.map_some, rewarded, if_pos positive]
      · rfl
    · rename_i nothing
      split
      · rename_i same
        rw [same, stored, Option.map_some, rewarded, if_neg nothing]
      · rfl

/-- The loop rewards everybody who is listed, once. -/
theorem get_foldl_rewardStaker {organizers : List Address} (nodup : organizers.Nodup)
    (other : Address) :
    (organizers.foldl (rewardStaker totalReward totalStaked) stakes).get other =
      if other ∈ organizers then (stakes.get other).map (rewarded totalReward totalStaked)
      else stakes.get other := by
  induction organizers generalizing stakes with
  | nil => rfl
  | cons first rest inductionHypothesis =>
    obtain ⟨unlisted, others⟩ := List.nodup_cons.mp nodup
    have round := get_rewardStaker totalReward totalStaked keyed first
    have stillKeyed : ∀ organizer stake,
        (rewardStaker totalReward totalStaked stakes first).get organizer = some stake →
          stake.organizer = organizer := by
      intro organizer stake stored
      rw [round] at stored
      split at stored
      · obtain ⟨before, found, rfl⟩ := Option.map_eq_some_iff.mp stored
        exact rewarded_organizer.trans (keyed organizer before found)
      · exact keyed organizer stake stored
    rw [List.foldl_cons, inductionHypothesis stillKeyed others, round]
    by_cases same : other = first
    · subst same
      simp [unlisted]
    · simp [same]

end Shares

/-! ### What keeps the records in order -/

section Order

variable {staking next : Staking} {action : StakingAction host} {organizer : Address}
  {stake : OrganizerStake} (inOrder : staking.InOrder)

include inOrder

theorem InOrder.enter (absent : staking.stakes.get stake.organizer = none)
    (positive : 0 < stake.amount) (nonneg : 0 ≤ stake.rewardBalance)
    (fits : InI128 (staking.totalStaked + stake.amount)) (tokens : Tokens) :
    (staking.enter stake tokens).InOrder := by
  have unlisted : stake.organizer ∉ staking.stakers := by
    rw [inOrder.listed, absent]
    exact Bool.false_ne_true
  have stakers : (staking.enter stake tokens).stakers = staking.stakers ++ [stake.organizer] :=
    if_neg unlisted
  refine ⟨?_, ?_, ?_, ?_, fits.2⟩
  · exact Store.forall_set inOrder.held ⟨rfl, positive, nonneg⟩
  · rw [stakers]
    refine List.nodup_append.mpr ⟨inOrder.nodup, List.nodup_singleton _, ?_⟩
    rintro other listed _ last rfl
    exact unlisted (List.mem_singleton.mp last ▸ listed)
  · intro other
    rw [stakers, List.mem_append, List.mem_singleton, inOrder.listed other]
    show _ ↔ ((staking.stakes.set stake.organizer stake).get other).isSome = true
    rw [Store.get_set]
    split
    · rename_i same
      simp [same]
    · rename_i different
      simp [different]
  · show staking.totalStaked + stake.amount =
      ∑ᶠ other, amountOf ((staking.stakes.set stake.organizer stake).get other)
    rw [Store.finsum_set staking.stakes rfl, absent, ← inOrder.total]
    exact congrArg (staking.totalStaked + ·) (sub_zero stake.amount).symm

/-- The total stays what the other stakes come to. -/
theorem InOrder.total_leave (stored : staking.stakes.get organizer = some stake) :
    saturatingI128 (staking.totalStaked - stake.amount) =
      ∑ᶠ other, amountOf ((staking.stakes.remove organizer).get other) := by
  have rest : ∑ᶠ other, amountOf ((staking.stakes.remove organizer).get other) =
      staking.totalStaked - stake.amount := by
    rw [Store.finsum_remove staking.stakes rfl, stored, inOrder.total]
    rfl
  have nonneg : 0 ≤ ∑ᶠ other, amountOf ((staking.stakes.remove organizer).get other) := by
    refine finsum_nonneg fun other => ?_
    rw [Store.get_remove]
    split
    · exact le_rfl
    · rcases found : staking.stakes.get other with _ | record
      · exact le_rfl
      · exact (inOrder.held other record found).positive.le
  have fits := inOrder.fits
  have positive := (inOrder.held organizer stake stored).positive
  rw [rest] at nonneg ⊢
  rw [saturatingI128_of_nonneg nonneg]
  omega

theorem InOrder.leave (stored : staking.stakes.get organizer = some stake) (tokens : Tokens) :
    (staking.leave organizer stake.amount tokens).InOrder := by
  refine ⟨?_, inOrder.nodup.filter _, ?_, inOrder.total_leave stored, ?_⟩
  · intro other record found
    change (staking.stakes.remove organizer).get other = some record at found
    rw [Store.get_remove] at found
    split at found
    · cases found
    · exact inOrder.held other record found
  · intro other
    show other ∈ staking.stakers.filter _ ↔
      ((staking.stakes.remove organizer).get other).isSome = true
    rw [List.mem_filter, inOrder.listed other, Store.get_remove]
    split
    · rename_i same
      simp [same]
    · rename_i different
      simp [different]
  · show saturatingI128 _ < 2 ^ 127
    unfold saturatingI128
    omega

/-- Everybody has a share. -/
theorem InOrder.get_rewardAll (totalReward : Int) (tokens : Tokens) (other : Address) :
    (staking.rewardAll totalReward tokens).stakes.get other =
      (staking.stakes.get other).map (rewarded totalReward staking.totalStaked) := by
  show (staking.stakers.foldl _ staking.stakes).get other = _
  rw [get_foldl_rewardStaker totalReward staking.totalStaked
    (fun organizer stake stored => (inOrder.held organizer stake stored).keyed) inOrder.nodup]
  split
  · rfl
  · rename_i unlisted
    rw [inOrder.listed, Option.not_isSome_iff_eq_none] at unlisted
    rw [unlisted]
    rfl

/-- The total is positive where it is not zero. -/
theorem InOrder.total_pos (nonzero : staking.totalStaked ≠ 0) : 0 < staking.totalStaked := by
  refine lt_of_le_of_ne ?_ nonzero.symm
  rw [inOrder.total]
  refine finsum_nonneg fun other => ?_
  rcases found : staking.stakes.get other with _ | record
  · exact le_rfl
  · exact (inOrder.held other record found).positive.le

theorem InOrder.rewardAll {totalReward : Int} (positive : 0 < totalReward)
    (nonzero : staking.totalStaked ≠ 0) (tokens : Tokens) :
    (staking.rewardAll totalReward tokens).InOrder := by
  have get := inOrder.get_rewardAll totalReward tokens
  refine ⟨?_, inOrder.nodup, ?_, ?_, inOrder.fits⟩
  · intro other record stored
    rw [get] at stored
    obtain ⟨before, found, rfl⟩ := Option.map_eq_some_iff.mp stored
    have held := inOrder.held other before found
    have share := (rewardShare_bounds positive (inOrder.total_pos nonzero) held.positive).1
    exact ⟨rewarded_organizer.trans held.keyed, held.positive.trans_eq rewarded_amount.symm,
      (rewarded_bounds held.nonneg share).1⟩
  · intro other
    rw [get, Option.isSome_map]
    exact inOrder.listed other
  · refine inOrder.total.trans (finsum_congr fun other => ?_)
    rw [get]
    cases staking.stakes.get other with
    | none => rfl
    | some before => exact rewarded_amount.symm

theorem InOrder.claim (stored : staking.stakes.get organizer = some stake) (tokens : Tokens) :
    (({ staking with tokens } : Staking).setOrganizerStake (claimReward stake)).InOrder := by
  have held := inOrder.held organizer stake stored
  have own : (claimReward stake).organizer = organizer := held.keyed
  have get (other : Address) : (({ staking with tokens } : Staking).setOrganizerStake
      (claimReward stake)).stakes.get other =
        if other = organizer then some (claimReward stake) else staking.stakes.get other := by
    rw [← own]
    rfl
  refine ⟨?_, inOrder.nodup, ?_, ?_, inOrder.fits⟩
  · intro other record found
    rw [get] at found
    split at found
    · rename_i same
      cases found
      exact ⟨own.trans same.symm, held.positive, le_rfl⟩
    · exact inOrder.held other record found
  · intro other
    rw [get]
    refine (inOrder.listed other).trans ?_
    split
    · rename_i same
      simp [same, stored]
    · rfl
  · show staking.totalStaked = ∑ᶠ other,
      amountOf ((staking.stakes.set (claimReward stake).organizer (claimReward stake)).get other)
    rw [own, Store.finsum_set staking.stakes rfl, stored, ← inOrder.total]
    show _ = staking.totalStaked + (stake.amount - stake.amount)
    rw [sub_self, add_zero]

omit inOrder in
theorem Turn.keeps_inOrder (turn : Turn staking action next) (inOrder : staking.InOrder) :
    next.InOrder := by
  cases turn with
  | kept _ _ _ same =>
    rw [same]
    exact ⟨inOrder.held, inOrder.nodup, inOrder.listed, inOrder.total, inOrder.fits⟩
  | moved called same =>
    rw [same]
    exact ⟨inOrder.held, inOrder.nodup, inOrder.listed, inOrder.total, inOrder.fits⟩
  | staked called outsider positive absent fits same =>
    rw [same]
    exact inOrder.enter absent positive le_rfl fits _
  | unstaked called outsider stored same =>
    rw [same]
    exact inOrder.leave stored _
  | rewarded called outsider positive configured nonzero same =>
    rw [same]
    exact inOrder.rewardAll positive nonzero _
  | claimed called outsider stored same =>
    rw [same]
    exact inOrder.claim stored _

end Order

theorem fresh_inOrder : fresh.InOrder where
  held _ _ absurdity := by cases absurdity
  nodup := List.nodup_nil
  listed _ := iff_of_false List.not_mem_nil Bool.false_ne_true
  total := finsum_zero.symm
  fits := by decide

/-- The records are in order in every state of every run. -/
theorem run_inOrder {actions : List (StakingAction host)} :
    (runActions step fresh actions).InOrder :=
  run_invariant InOrder (fun staking action => (step_turn staking action).keeps_inOrder) fresh
    actions fresh_inOrder

/-- In every state of every run, the list of stakers names those with a stake, each once, and the
total is the sum of their stakes, which are positive. -/
theorem run_records_exact (actions : List (StakingAction host)) :
    let staking := runActions step fresh actions
    staking.stakers.Nodup ∧
      (∀ organizer, organizer ∈ staking.stakers ↔ 0 < amountOf (staking.stakes.get organizer)) ∧
      staking.totalStaked = ∑ᶠ organizer, amountOf (staking.stakes.get organizer) := by
  have inOrder : (runActions step fresh actions).InOrder := run_inOrder
  refine ⟨inOrder.nodup, fun organizer => ?_, inOrder.total⟩
  rw [inOrder.listed]
  cases stored : (runActions step fresh actions).stakes.get organizer with
  | none => simp [amountOf]
  | some stake => simpa [amountOf] using (inOrder.held organizer stake stored).positive

end Staking

end Agora.EventRegistry

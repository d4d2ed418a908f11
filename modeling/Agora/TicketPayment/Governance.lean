/-
This file models the governance, and the proposals and milestones of the escrow.

A proposal to withdraw from an escrow is recorded, approved and executed without any
effect on balances. A release of milestones needs an escrow state, which no entry
point creates.
-/

import Agora.TicketPayment.Change

namespace Agora.TicketPayment

open Soroban

variable {Registry : Type} {host : Host}

/-! ### Proposals -/

def proposalLifetime : Nat := 604800

def votingPeriod : Nat := 172800

def isGovernor (governance : Governance) (address : Address) : Bool :=
  (governance.governor.get address).getD false

def setProposal (proposal : ParameterProposal) (governance : Governance) : Governance :=
  { governance with proposal := governance.proposal.set proposal.id proposal }

/-- Record a new proposal under the next number, with the proposer's vote. -/
def openProposal (env : Env host) (proposer : Address) (change : ParameterChange) :
    Entry Registry Nat := do
  let world ← get
  let id := world.governance.proposalCount + 1
  -- the source adds in u64
  require (env.timestamp + proposalLifetime < 2 ^ 64) .trap
  modify (·.withGovernance fun governance => setProposal
    { id, proposer, change, status := .pending, createdAt := env.timestamp
      expiresAt := env.timestamp + proposalLifetime, voteCount := 1, voters := [proposer] }
    { governance with proposalCount := id })
  pure id

def proposeParameterChange (env : Env host) (proposer : Address) (change : ParameterChange) :
    Entry Registry Nat := do
  requireAuth env proposer
  let world ← get
  require (isGovernor world.governance proposer = true) (.error .notGovernor)
  openProposal env proposer change

def getProposal (id : Nat) : Entry Registry ParameterProposal := do
  let world ← get
  orFault (world.governance.proposal.get id) (.error .invalidProposal)

/-- The proposal with one more vote. -/
def ParameterProposal.votedBy (proposal : ParameterProposal) (voter : Address) :
    ParameterProposal :=
  { proposal with voters := proposal.voters ++ [voter], voteCount := proposal.voteCount + 1 }

def voteOnProposal (env : Env host) (voter : Address) (proposalId : Nat) :
    Entry Registry Unit := do
  requireAuth env voter
  let world ← get
  require (isGovernor world.governance voter = true) (.error .notGovernor)
  let proposal ← getProposal proposalId
  require (env.timestamp ≤ proposal.expiresAt) (.error .proposalExpired)
  require (proposal.status = .pending) (.error .proposalNotActive)
  require (voter ∉ proposal.voters) (.error .alreadyVoted)
  modify (·.withGovernance (setProposal (proposal.votedBy voter)))

def addGovernor (governor : Address) (governance : Governance) : Governance :=
  if isGovernor governance governor then governance
  else
    { governance with
      governor := governance.governor.set governor true
      totalGovernors := governance.totalGovernors + 1 }

def removeGovernor (governor : Address) (governance : Governance) : Governance :=
  if isGovernor governance governor then
    { governance with
      governor := governance.governor.set governor false
      totalGovernors := governance.totalGovernors - 1 }
  else governance

def maxSlippageBps : Nat := 5000

/-- The effect of a proposal. The bounds that the setters check are not checked here, except
for the slippage. -/
def applyChange (change : ParameterChange) : Entry Registry Unit :=
  match change with
  | .addGovernor governor => modify (·.withGovernance (addGovernor governor))
  | .removeGovernor governor => do
    let world ← get
    require (1 < world.governance.totalGovernors) (.error .cannotRemoveLastGovernor)
    modify (·.withGovernance (removeGovernor governor))
  | .addTokenToWhitelist token => modify (·.withSettings fun settings =>
      { settings with tokenWhitelist := settings.tokenWhitelist.set token () })
  | .removeTokenFromWhitelist token => modify (·.withSettings fun settings =>
      { settings with tokenWhitelist := settings.tokenWhitelist.remove token })
  | .updateWithdrawalCap token cap => modify (·.withSettings fun settings =>
      { settings with withdrawalCap := settings.withdrawalCap.set token cap })
  | .updateSlippage bps => do
    require (bps ≤ maxSlippageBps) (.error .invalidSlippageBps)
    modify (·.withSettings fun settings => { settings with slippageBps := some bps })
  | .updateTransferFee eventId fee => modify (·.withSettings fun settings =>
      { settings with transferFee := settings.transferFee.set eventId fee })
  | .escrowWithdrawal _ _ => throw (.error .invalidPaymentStatus)

def executeProposal (env : Env host) (executor : Address) (proposalId : Nat) :
    Entry Registry Unit := do
  requireAuth env executor
  let proposal ← getProposal proposalId
  require (env.timestamp ≤ proposal.expiresAt) (.error .proposalExpired)
  require (proposal.status = .pending) (.error .proposalNotActive)
  require (proposal.createdAt + votingPeriod ≤ env.timestamp) (.error .votingPeriodNotMet)
  let world ← get
  require (world.governance.totalGovernors / 2 + 1 ≤ proposal.voteCount)
    (.error .insufficientVotes)
  applyChange proposal.change
  modify (·.withGovernance (setProposal { proposal with status := .executed }))

/-! ### Escrow proposals -/

def proposeEscrowWithdrawal [RegistryApi Registry] (env : Env host) (eventId : EventId)
    (amount : Int) :
    Entry Registry Nat := do
  requireInitialized
  let event ← getEvent eventId
  requireAuth env event.organizerAddress
  require (0 < amount) (.error .arithmeticError)
  openProposal env event.organizerAddress (.escrowWithdrawal eventId amount)

/-- A second approval by the same admin succeeds without effect. -/
def approveEscrowWithdrawal (env : Env host) (proposalId : Nat) : Entry Registry Unit := do
  let admin ← requireAdmin env
  let proposal ← getProposal proposalId
  require (proposal.status = .pending) (.error .proposalNotActive)
  require (env.timestamp ≤ proposal.expiresAt) (.error .proposalExpired)
  if admin ∈ proposal.voters then pure ()
  else modify (·.withGovernance (setProposal (proposal.votedBy admin)))

/-- The execution of any proposal with two votes marks it as executed and pays nothing. -/
def executeEscrowWithdrawal (env : Env host) (proposalId : Nat) : Entry Registry Unit := do
  let _ ← requireAdmin env
  let proposal ← getProposal proposalId
  require (proposal.status = .pending) (.error .proposalNotActive)
  require (env.timestamp ≤ proposal.expiresAt) (.error .proposalExpired)
  require (2 ≤ proposal.voteCount) (.error .insufficientVotes)
  modify (·.withGovernance (setProposal { proposal with status := .executed }))

/-! ### Milestones of the escrow -/

/-- The stored milestones from an index on. A gap ends them, except before the first. -/
def escrowMilestonesFrom (milestones : Store (EventId × Nat) EscrowMilestone)
    (eventId : EventId) : Nat → Nat → List EscrowMilestone
  | 0, _ => []
  | fuel + 1, index =>
    match milestones.get (eventId, index) with
    | some milestone =>
      milestone :: escrowMilestonesFrom milestones eventId fuel (index + 1)
    | none => if index = 0 then escrowMilestonesFrom milestones eventId fuel 1 else []

/-- The source counts up to the largest u32. -/
def getEscrowMilestones (world : World Registry) (eventId : EventId) : List EscrowMilestone :=
  escrowMilestonesFrom world.escrowMilestone eventId (2 ^ 32 - 1) 0

/-- What a release adds up over the milestones not reached before. -/
structure MilestoneTotals where
  released : Int
  state : EscrowState
  newlyReached : Nat

def milestoneTurn (event : EventInfo) (balance : EventBalance) (totals : MilestoneTotals)
    (milestone : EscrowMilestone) : Entry Registry MilestoneTotals :=
  if milestone.released = false ∧ milestone.salesThreshold ≤ event.currentSupply then do
    let amount ← checked (mulDiv balance.organizerAmount milestone.releasePercent 10000)
    if 0 < amount then do
      let released ← checked (checkedAdd totals.released amount)
      let total ← checked (checkedAdd totals.state.totalReleased amount)
      pure ⟨released, { totals.state with totalReleased := total }, totals.newlyReached + 1⟩
    else pure { totals with newlyReached := totals.newlyReached + 1 }
  else pure totals

/-- The balance is reduced and no token is sent. -/
def releaseMilestoneEscrow [RegistryApi Registry] (env : Env host)
    (eventId : EventId) : Entry Registry Int := do
  let event ← getEvent eventId
  require (event.isActive = false ∧ event.status ≠ .active) (.error .eventInactive)
  requireAuth env event.organizerAddress
  let world ← get
  let state ← orFault (world.escrowState.get eventId) (.error .escrowNotInitialized)
  let balance := world.books.getEventBalance eventId
  let totals ← ((getEscrowMilestones world eventId).drop state.milestonesReached).foldlM
    (milestoneTurn event balance) ⟨0, state, 0⟩
  if totals.released = 0 then pure 0
  else do
    let organizer ← checked (checkedSub balance.organizerAmount totals.released)
    let withdrawn ← checked (checkedAdd balance.totalWithdrawn totals.released)
    setEventBalance eventId
      { balance with organizerAmount := organizer, totalWithdrawn := withdrawn }
    modify fun world =>
      { world with
        escrowState := world.escrowState.set eventId
          { totals.state with
            milestonesReached := totals.state.milestonesReached + totals.newlyReached } }
    pure totals.released

/-! ### What they do -/

/-- The governance with a new proposal. -/
def enroll (timestamp : Nat) (proposer : Address) (change : ParameterChange)
    (governance : Governance) : Governance :=
  setProposal
    { id := governance.proposalCount + 1, proposer, change, status := .pending
      createdAt := timestamp, expiresAt := timestamp + proposalLifetime, voteCount := 1
      voters := [proposer] }
    { governance with proposalCount := governance.proposalCount + 1 }

/-- What a change of parameters does to the seats of the governors. -/
def seat (change : ParameterChange) (governance : Governance) : Governance :=
  match change with
  | .addGovernor governor => addGovernor governor governance
  | .removeGovernor governor => removeGovernor governor governance
  | _ => governance

/-- The governance after a proposal was executed. -/
def carryOut (proposal : ParameterProposal) (governance : Governance) : Governance :=
  setProposal { proposal with status := .executed } (seat proposal.change governance)

/-- A proposal that takes votes, with a voter who has not voted yet. -/
structure VoteOf (timestamp : Nat) (world : World Registry) (proposalId : Nat) (voter : Address)
    (proposal : ParameterProposal) : Prop where
  stored : world.governance.proposal.get proposalId = some proposal
  pending : proposal.status = .pending
  inTime : timestamp ≤ proposal.expiresAt
  unvoted : voter ∉ proposal.voters

/-- What a successful execution has checked. -/
structure ExecutionOf (timestamp : Nat) (world : World Registry) (proposalId : Nat)
    (proposal : ParameterProposal) : Prop where
  stored : world.governance.proposal.get proposalId = some proposal
  pending : proposal.status = .pending
  inTime : timestamp ≤ proposal.expiresAt
  ripe : proposal.createdAt + votingPeriod ≤ timestamp
  enough : world.governance.totalGovernors / 2 + 1 ≤ proposal.voteCount
  remaining : ∀ governor, proposal.change = .removeGovernor governor →
    1 < world.governance.totalGovernors
  notEscrow : ∀ eventId amount, proposal.change ≠ .escrowWithdrawal eventId amount

/-- The state is as the change wants it. -/
def InForce (world : World Registry) : ParameterChange → Prop
  | .addGovernor governor => isGovernor world.governance governor = true
  | .removeGovernor governor => isGovernor world.governance governor = false
  | .addTokenToWhitelist token => isTokenWhitelisted world token = true
  | .removeTokenFromWhitelist token => isTokenWhitelisted world token = false
  | .updateWithdrawalCap token cap => world.settings.withdrawalCap.get token = some cap
  | .updateSlippage bps => world.settings.slippageBps = some bps
  | .updateTransferFee eventId fee => world.settings.transferFee.get eventId = some fee
  | .escrowWithdrawal _ _ => False

section Seats

variable (governance : Governance) (governor other : Address)

theorem isGovernor_addGovernor :
    isGovernor (addGovernor governor governance) other =
      (decide (other = governor) || isGovernor governance other) := by
  unfold addGovernor
  split
  · rename_i sits
    by_cases same : other = governor
    · rw [same, sits, Bool.or_true]
    · simp [same]
  · simp only [isGovernor, Store.get_set]
    by_cases same : other = governor
    · simp [same]
    · simp [same]

theorem isGovernor_removeGovernor :
    isGovernor (removeGovernor governor governance) other =
      (!decide (other = governor) && isGovernor governance other) := by
  unfold removeGovernor
  split
  · simp only [isGovernor, Store.get_set]
    by_cases same : other = governor
    · simp [same]
    · simp [same]
  · rename_i absent
    by_cases same : other = governor
    · simpa [same] using absent
    · simp [same]

end Seats

section Ensure

variable {world : World Registry} {env : Env host} {eventId : EventId} {proposer : Address}
  {change : ParameterChange} {proposalId : Nat}

theorem openProposal_ensures :
    Ensures (openProposal env proposer change) world fun id next =>
      id = world.governance.proposalCount + 1 ∧
        Does host { governance := enroll env.timestamp proposer change } world next := by
  simp only [openProposal, ensures_rules]
  intro _
  exact ⟨trivial, .withGovernance _ rfl⟩

theorem proposeParameterChange_ensures :
    Ensures (proposeParameterChange env proposer change) world fun id next =>
      isGovernor world.governance proposer = true ∧ id = world.governance.proposalCount + 1 ∧
        Does host { governance := enroll env.timestamp proposer change } world next := by
  simp only [proposeParameterChange, ensures_rules, ensures_checks]
  intro _ governs
  refine openProposal_ensures.mono ?_
  intro id next opened
  exact ⟨governs, opened⟩

theorem voteOnProposal_ensures {voter : Address} :
    Ensures (voteOnProposal env voter proposalId) world fun _ next => ∃ proposal,
      isGovernor world.governance voter = true ∧
        VoteOf env.timestamp world proposalId voter proposal ∧
        Does host { governance := setProposal (proposal.votedBy voter) } world next := by
  simp only [voteOnProposal, getProposal, ensures_rules, ensures_checks]
  intro _ governs proposal stored inTime pending unvoted
  exact ⟨proposal, governs, ⟨stored, pending, inTime, unvoted⟩, .withGovernance _ rfl⟩

theorem applyChange_checks :
    Ensures (applyChange change) world fun _ _ =>
      (∀ governor, change = .removeGovernor governor → 1 < world.governance.totalGovernors) ∧
        ∀ eventId amount, change ≠ .escrowWithdrawal eventId amount := by
  cases change <;>
    simp [applyChange, ensures_bind, ensures_get, ensures_require, ensures_modify, ensures_throw]

/-- A change that is applied is in force. -/
theorem applyChange_ensures (host : Host) :
    Ensures (applyChange change) world fun _ next =>
      Does host { governance := seat change } world next ∧ InForce next change := by
  cases change with
  | addGovernor governor =>
    rw [applyChange, ensures_modify]
    refine ⟨.withGovernance _ rfl, ?_⟩
    show isGovernor (addGovernor governor world.governance) governor = true
    rw [isGovernor_addGovernor, decide_eq_true rfl, Bool.true_or]
  | removeGovernor governor =>
    simp only [applyChange, ensures_rules]
    intro _
    refine ⟨.withGovernance _ rfl, ?_⟩
    show isGovernor (removeGovernor governor world.governance) governor = false
    rw [isGovernor_removeGovernor, decide_eq_true rfl, Bool.not_true, Bool.false_and]
  | addTokenToWhitelist token =>
    rw [applyChange, ensures_modify]
    refine ⟨.withSettings _, ?_⟩
    exact congrArg Option.isSome (Store.get_set_self _ token ())
  | removeTokenFromWhitelist token =>
    rw [applyChange, ensures_modify]
    refine ⟨.withSettings _, ?_⟩
    exact congrArg Option.isSome ((Store.get_remove _).trans (if_pos rfl))
  | updateWithdrawalCap token cap =>
    rw [applyChange, ensures_modify]
    exact ⟨.withSettings _, Store.get_set_self _ token cap⟩
  | updateSlippage bps =>
    simp only [applyChange, ensures_rules]
    intro _
    exact ⟨.withSettings _, rfl⟩
  | updateTransferFee eventId fee =>
    rw [applyChange, ensures_modify]
    exact ⟨.withSettings _, Store.get_set_self _ eventId fee⟩
  | escrowWithdrawal => rw [applyChange, ensures_throw]; trivial

theorem InForce.setProposal {world : World Registry} {change : ParameterChange}
    (inForce : InForce world change) (proposal : ParameterProposal) :
    InForce (world.withGovernance (setProposal proposal)) change := by
  cases change <;> exact inForce

theorem executeProposal_ensures {executor : Address} :
    Ensures (executeProposal env executor proposalId) world fun _ next => ∃ proposal,
      ExecutionOf env.timestamp world proposalId proposal ∧ InForce next proposal.change ∧
        Does host { governance := carryOut proposal } world next := by
  simp only [executeProposal, getProposal, ensures_bind, ensures_checks, ensures_get,
    ensures_require, ensures_orFault]
  intro _ proposal stored inTime pending ripe enough
  refine ((applyChange_ensures host).and
    applyChange_checks).mono ?_
  rintro _ applied ⟨⟨appliedDoes, inForce⟩, remaining, notEscrow⟩
  rw [ensures_modify]
  have marked : Does host _ applied _ :=
    Does.withGovernance (setProposal { proposal with status := .executed }) rfl
  exact ⟨proposal, ⟨stored, pending, inTime, ripe, enough, remaining, notEscrow⟩,
    inForce.setProposal _, appliedDoes.trans marked⟩

theorem proposeEscrowWithdrawal_ensures [RegistryApi Registry] {amount : Int} :
    Ensures (proposeEscrowWithdrawal env eventId amount) world fun _ next => ∃ organizer,
      world.settings.initialized = true ∧ Does host
        { governance := enroll env.timestamp organizer (.escrowWithdrawal eventId amount) }
        world next := by
  simp only [proposeEscrowWithdrawal, ensures_rules, ensures_checks, ensures_getEvent]
  intro initialized _ event _ _ _
  refine openProposal_ensures.mono ?_
  rintro _ next ⟨_, does⟩
  exact ⟨event.organizerAddress, initialized, does⟩

theorem approveEscrowWithdrawal_ensures :
    Ensures (approveEscrowWithdrawal env proposalId) world fun _ next =>
      Does host .nothing world next ∨ ∃ admin proposal, world.settings.admin = some admin ∧
        VoteOf env.timestamp world proposalId admin proposal ∧
        Does host { governance := setProposal (proposal.votedBy admin) } world next := by
  simp only [approveEscrowWithdrawal, getProposal, ensures_rules, ensures_checks]
  intro admin adminEq _ proposal stored pending inTime
  exact ⟨fun _ => .inl (Does.refl world), fun unvoted => .inr ⟨admin, proposal, adminEq,
    ⟨stored, pending, inTime, unvoted⟩, .withGovernance _ rfl⟩⟩

theorem executeEscrowWithdrawal_ensures :
    Ensures (executeEscrowWithdrawal env proposalId) world fun _ next => ∃ proposal,
      world.governance.proposal.get proposalId = some proposal ∧ 2 ≤ proposal.voteCount ∧
        Does host { governance := setProposal { proposal with status := .executed } } world
          next := by
  simp only [executeEscrowWithdrawal, getProposal, ensures_rules, ensures_checks]
  intro _ _ _ proposal stored _ _ enough
  exact ⟨proposal, stored, enough, .withGovernance _ rfl⟩

/-- No milestone is released for an event without an escrow state. -/
theorem releaseMilestoneEscrow_ensures [RegistryApi Registry]
    (uninitialized : world.escrowState.get eventId = none) :
    Ensures (releaseMilestoneEscrow env eventId) world fun _ _ => False := by
  simp only [releaseMilestoneEscrow, ensures_rules, ensures_getEvent, ensures_checks]
  intro _ _ _ _ _ state initialized
  rw [uninitialized] at initialized
  cases initialized

end Ensure

end Agora.TicketPayment

/-
This file models the governance of the registry: the administrators, who propose, approve
and execute changes of the configuration, and the one administrator beside them for whom
most entry points ask.

A change is checked when it is proposed, against the administrators of that time, and is
applied when it is executed, to the administrators of a later time. The approvals are stored
with the proposal. The proposals that are still open are listed a second time, and the entry
point that sets the fee searches this list. The functions of the source that propose one kind
of change do nothing else and are not modelled apart.

`step_turn` says once what a call can do; the files on the proposals, the administrators and
the approvals are about these turns only.
-/

import Agora.EventRegistry.Stock

namespace Agora.EventRegistry

open Soroban

/-! ### Data -/

structure MultiSigConfig where
  admins : List Address
  threshold : Nat
  deriving DecidableEq, Repr

inductive ParameterChange where
  | addAdmin (admin : Address)
  | removeAdmin (admin : Address)
  | setThreshold (threshold : Nat)
  | updatePlatformWallet (wallet : Address)
  | setPlatformFee (fee : Nat)
  | setMinStakeAmount (amount : Int)
  deriving DecidableEq, Repr

structure Proposal where
  proposalId : Nat
  proposer : Address
  change : ParameterChange
  approvals : List Address
  executed : Bool
  cancelled : Bool
  createdAt : Nat
  expiresAt : Nat
  deriving DecidableEq, Repr

/-- What the registry stores for its governance. -/
structure MultiSig where
  initialized : Bool
  admin : Option Address
  pendingAdmin : Option Address
  config : Option MultiSigConfig
  platformWallet : Option Address
  platformFee : Nat
  minStakeAmount : Int
  proposalCounter : Nat
  proposals : Store Nat Proposal
  activeProposals : List Nat

/-- Neither executed nor cancelled. -/
def Proposal.Open (proposal : Proposal) : Prop :=
  proposal.executed = false ∧ proposal.cancelled = false

instance (proposal : Proposal) : Decidable proposal.Open :=
  inferInstanceAs (Decidable (_ ∧ _))

/-- Open, not expired, and with as many approvals as the configuration asks for. -/
structure Proposal.Ready (proposal : Proposal) (config : MultiSigConfig) (timestamp : Nat) :
    Prop where
  isOpen : proposal.Open
  inTime : timestamp ≤ proposal.expiresAt
  approved : config.threshold ≤ proposal.approvals.length

instance (proposal : Proposal) (config : MultiSigConfig) (timestamp : Nat) :
    Decidable (proposal.Ready config timestamp) :=
  decidable_of_iff (proposal.Open ∧ timestamp ≤ proposal.expiresAt ∧
      config.threshold ≤ proposal.approvals.length)
    ⟨fun ⟨isOpen, inTime, approved⟩ => ⟨isOpen, inTime, approved⟩,
      fun ready => ⟨ready.isOpen, ready.inTime, ready.approved⟩⟩

/-- The configuration after a change of it. -/
def MultiSigConfig.apply (config : MultiSigConfig) : ParameterChange → MultiSigConfig
  | .addAdmin admin => { config with admins := config.admins ++ [admin] }
  | .removeAdmin admin =>
    let admins := config.admins.filter (· ≠ admin)
    { admins
      threshold := if admins.length < config.threshold then admins.length else config.threshold }
  | .setThreshold threshold => { config with threshold }
  | .updatePlatformWallet _ => config
  | .setPlatformFee _ => config
  | .setMinStakeAmount _ => config

namespace MultiSig

def fresh : MultiSig where
  initialized := false
  admin := none
  pendingAdmin := none
  config := none
  platformWallet := none
  platformFee := 0
  minStakeAmount := 0
  proposalCounter := 0
  proposals := .empty
  activeProposals := []

/-! ### Storing proposals -/

section Proposals

variable (multiSig : MultiSig)

def setProposal (proposal : Proposal) : MultiSig :=
  { multiSig with proposals := multiSig.proposals.set proposal.proposalId proposal }

def addActiveProposal (proposalId : Nat) : MultiSig :=
  { multiSig with
    activeProposals :=
      if proposalId ∈ multiSig.activeProposals then multiSig.activeProposals
      else multiSig.activeProposals ++ [proposalId] }

def removeActiveProposal (proposalId : Nat) : MultiSig :=
  { multiSig with activeProposals := multiSig.activeProposals.filter (· ≠ proposalId) }

/-- A new proposal is stored and listed, and the next one gets the next number. -/
def enroll (proposal : Proposal) : MultiSig :=
  (({ multiSig with proposalCounter := proposal.proposalId + 1 } : MultiSig).setProposal
    proposal).addActiveProposal proposal.proposalId

def markExecuted (proposalId : Nat) (proposal : Proposal) : MultiSig :=
  (multiSig.setProposal { proposal with executed := true }).removeActiveProposal proposalId

def markCancelled (proposalId : Nat) (proposal : Proposal) : MultiSig :=
  (multiSig.setProposal { proposal with cancelled := true }).removeActiveProposal proposalId

/-- What a change does when it is executed. A new administrator becomes the one administrator
as well; an administrator who is removed stays it. -/
def applyChange (config : MultiSigConfig) (change : ParameterChange) : MultiSig :=
  match change with
  | .addAdmin admin => { multiSig with config := some (config.apply change), admin := some admin }
  | .removeAdmin _ => { multiSig with config := some (config.apply change) }
  | .setThreshold _ => { multiSig with config := some (config.apply change) }
  | .updatePlatformWallet wallet => { multiSig with platformWallet := some wallet }
  | .setPlatformFee fee => { multiSig with platformFee := fee }
  | .setMinStakeAmount amount => { multiSig with minStakeAmount := amount }

/-- The proposal has run out and nobody executed or cancelled it. -/
def Expired (timestamp proposalId : Nat) : Prop :=
  ∃ proposal ∈ multiSig.proposals.get proposalId,
    proposal.expiresAt < timestamp ∧ proposal.Open

instance (timestamp proposalId : Nat) : Decidable (multiSig.Expired timestamp proposalId) :=
  inferInstanceAs (Decidable (∃ proposal ∈ multiSig.proposals.get proposalId, _))

/-- The first listed proposal that is ready to set this fee. -/
def approvedFeeProposal (config : MultiSigConfig) (timestamp fee : Nat) : Option Nat :=
  multiSig.activeProposals.find? fun proposalId =>
    decide (∃ proposal ∈ multiSig.proposals.get proposalId,
      proposal.Ready config timestamp ∧ proposal.change = .setPlatformFee fee)

end Proposals

/-! ### Entry points -/

/-- An entry point of the governance. -/
abbrev Entry (Value : Type) := Transaction MultiSig (Fault EventRegistryError) Value

variable (invocation : Invocation)

def validateAddress (address : Address) : Entry Unit :=
  require (address ≠ invocation.contract) (.error .invalidAddress)

/-- The one administrator signed. -/
def requireAdmin : Entry Unit := do
  let multiSig ← get
  let admin ← orFault multiSig.admin (.error .notInitialized)
  require (invocation.signed admin = true) .trap

/-- One of the administrators of the configuration signed. -/
def requireMember (member : Address) : Entry MultiSigConfig := do
  require (invocation.signed member = true) .trap
  let multiSig ← get
  let config ← orFault multiSig.config (.error .notInitialized)
  require (member ∈ config.admins) (.error .unauthorized)
  pure config

def getProposal (proposalId : Nat) : Entry Proposal := do
  let multiSig ← get
  orFault (multiSig.proposals.get proposalId) (.error .multisigError)

/-- The source's `initialize`, without the list of payment tokens that it starts. -/
def initializeRegistry (admin platformWallet : Address) (platformFeePercent : Nat)
    (usdcToken : Address) : Entry Unit := do
  let multiSig ← get
  require (multiSig.initialized = false) (.error .alreadyInitialized)
  validateAddress invocation admin
  validateAddress invocation platformWallet
  validateAddress invocation usdcToken
  require (platformFeePercent ≤ 10000) (.error .invalidFeePercent)
  modify fun multiSig =>
    { multiSig with
      initialized := true
      admin := some admin
      config := some ⟨[admin], 1⟩
      platformWallet := some platformWallet
      platformFee := platformFeePercent }

def validateChange (config : MultiSigConfig) : ParameterChange → Entry Unit
  | .addAdmin admin => do
    validateAddress invocation admin
    require (admin ∉ config.admins) (.error .unauthorized)
  | .removeAdmin admin => do
    require (admin ∈ config.admins) (.error .unauthorized)
    require (1 < config.admins.length) (.error .unauthorized)
  | .setThreshold threshold => do
    require (threshold ≠ 0) (.error .invalidThreshold)
    require (threshold ≤ config.admins.length) (.error .invalidThreshold)
  | .updatePlatformWallet wallet => validateAddress invocation wallet
  | .setPlatformFee fee => require (fee ≤ 10000) (.error .invalidFeePercent)
  | .setMinStakeAmount amount => require (0 < amount) (.error .invalidStakeAmount)

def defaultExpiry : Nat := 100800

/-- The proposer approves their own proposal. -/
def newProposal (proposalId : Nat) (proposer : Address) (change : ParameterChange)
    (expiry : Nat) : Proposal where
  proposalId := proposalId
  proposer := proposer
  change := change
  approvals := [proposer]
  executed := false
  cancelled := false
  createdAt := invocation.timestamp
  expiresAt := invocation.timestamp + expiry

def proposeParameterChange (proposer : Address) (change : ParameterChange)
    (expiryLedgers : Nat) : Entry Nat := do
  let config ← requireMember invocation proposer
  validateChange invocation config change
  let multiSig ← get
  let proposalId := multiSig.proposalCounter
  -- the source adds in u64, here and for the expiry
  require (proposalId + 1 < 2 ^ 64) .trap
  let expiry := if expiryLedgers = 0 then defaultExpiry else expiryLedgers
  require (invocation.timestamp + expiry < 2 ^ 64) .trap
  modify fun multiSig => multiSig.enroll (newProposal invocation proposalId proposer change expiry)
  pure proposalId

/-- A second approval by the same administrator changes nothing. -/
def approveProposal (approver : Address) (proposalId : Nat) : Entry Unit := do
  let _ ← requireMember invocation approver
  let proposal ← getProposal proposalId
  require (invocation.timestamp ≤ proposal.expiresAt) (.error .proposalExpired)
  require (proposal.executed = false) (.error .propAlreadyExecuted)
  require (proposal.cancelled = false) (.error .propAlreadyCanceled)
  if approver ∈ proposal.approvals then pure ()
  else
    modify fun multiSig =>
      multiSig.setProposal { proposal with approvals := proposal.approvals ++ [approver] }

def executeProposal (executor : Address) (proposalId : Nat) : Entry Unit := do
  let config ← requireMember invocation executor
  let proposal ← getProposal proposalId
  require (proposal.executed = false) (.error .propAlreadyExecuted)
  require (proposal.cancelled = false) (.error .propAlreadyCanceled)
  require (invocation.timestamp ≤ proposal.expiresAt) (.error .proposalExpired)
  require (config.threshold ≤ proposal.approvals.length) (.error .multisigError)
  modify fun multiSig => multiSig.applyChange config proposal.change
  modify fun multiSig => multiSig.markExecuted proposalId proposal

/-- The proposer need not be an administrator any more. -/
def cancelProposal (proposer : Address) (proposalId : Nat) : Entry Unit := do
  require (invocation.signed proposer = true) .trap
  let proposal ← getProposal proposalId
  require (proposal.proposer = proposer) (.error .unauthorized)
  require (proposal.executed = false) (.error .propAlreadyExecuted)
  require (proposal.cancelled = false) (.error .propAlreadyCanceled)
  modify fun multiSig => multiSig.markCancelled proposalId proposal

/-- One round of the sweep takes a proposal that has expired off the list. -/
def sweepProposal (timestamp : Nat) (swept : MultiSig × Nat) (proposalId : Nat) :
    MultiSig × Nat :=
  if swept.1.Expired timestamp proposalId then
    (swept.1.removeActiveProposal proposalId, swept.2 + 1)
  else swept

/-- The list is read once and then edited while it is swept. -/
def cleanupExpiredProposals : Entry Nat := do
  requireAdmin invocation
  let multiSig ← get
  let swept := multiSig.activeProposals.foldl (sweepProposal invocation.timestamp) (multiSig, 0)
  modify fun _ => swept.1
  pure swept.2

/-- With a threshold above one the administrator needs a proposal that was approved. -/
def setPlatformFee (newFeePercent : Nat) : Entry Unit := do
  requireAdmin invocation
  require (newFeePercent ≤ 10000) (.error .invalidFeePercent)
  let multiSig ← get
  let config ← orFault multiSig.config (.error .notInitialized)
  if 1 < config.threshold then
    let proposalId ← orFault
      (multiSig.approvedFeeProposal config invocation.timestamp newFeePercent)
      (.error .multisigError)
    let proposal ← orFault (multiSig.proposals.get proposalId) .trap
    modify fun multiSig => multiSig.markExecuted proposalId proposal
  modify fun multiSig => { multiSig with platformFee := newFeePercent }

def proposeAdmin (newAdmin : Address) : Entry Unit := do
  requireAdmin invocation
  validateAddress invocation newAdmin
  modify fun multiSig => { multiSig with pendingAdmin := some newAdmin }

/-- The configuration is not asked. -/
def acceptAdmin : Entry Unit := do
  let multiSig ← get
  let proposedAdmin ← orFault multiSig.pendingAdmin (.error .unauthorized)
  require (invocation.signed proposedAdmin = true) .trap
  let _ ← orFault multiSig.admin (.error .notInitialized)
  modify fun multiSig => { multiSig with admin := some proposedAdmin, pendingAdmin := none }

def cancelAdminProposal : Entry Unit := do
  requireAdmin invocation
  let multiSig ← get
  let _ ← orFault multiSig.pendingAdmin (.error .unauthorized)
  modify fun multiSig => { multiSig with pendingAdmin := none }

/-- The source's `set_staking_config`, of which the governance shares the minimum. -/
def setStakingConfig (minAmount : Int) : Entry Unit := do
  requireAdmin invocation
  require (0 < minAmount) (.error .invalidStakeAmount)
  modify fun multiSig => { multiSig with minStakeAmount := minAmount }

end MultiSig

/-! ### The machine -/

/-- The entry points that write what the governance stores. -/
inductive MultiSigCall where
  | initializeRegistry (admin platformWallet : Address) (platformFeePercent : Nat)
      (usdcToken : Address)
  | proposeParameterChange (proposer : Address) (change : ParameterChange) (expiryLedgers : Nat)
  | approveProposal (approver : Address) (proposalId : Nat)
  | executeProposal (executor : Address) (proposalId : Nat)
  | cancelProposal (proposer : Address) (proposalId : Nat)
  | cleanupExpiredProposals
  | setPlatformFee (newFeePercent : Nat)
  | proposeAdmin (newAdmin : Address)
  | acceptAdmin
  | cancelAdminProposal
  | setStakingConfig (minAmount : Int)
  deriving DecidableEq

/-- The proposal that a call asks to execute by its number. -/
def MultiSigCall.executes : MultiSigCall → Option Nat
  | .executeProposal _ proposalId => some proposalId
  | _ => none

/-- The answers of the calls are left aside. -/
def MultiSigCall.entry (invocation : Invocation) : MultiSigCall → MultiSig.Entry Unit
  | .initializeRegistry admin platformWallet platformFeePercent usdcToken =>
    MultiSig.initializeRegistry invocation admin platformWallet platformFeePercent usdcToken
  | .proposeParameterChange proposer change expiryLedgers => do
    let _ ← MultiSig.proposeParameterChange invocation proposer change expiryLedgers
  | .approveProposal approver proposalId =>
    MultiSig.approveProposal invocation approver proposalId
  | .executeProposal executor proposalId =>
    MultiSig.executeProposal invocation executor proposalId
  | .cancelProposal proposer proposalId => MultiSig.cancelProposal invocation proposer proposalId
  | .cleanupExpiredProposals => do
    let _ ← MultiSig.cleanupExpiredProposals invocation
  | .setPlatformFee newFeePercent => MultiSig.setPlatformFee invocation newFeePercent
  | .proposeAdmin newAdmin => MultiSig.proposeAdmin invocation newAdmin
  | .acceptAdmin => MultiSig.acceptAdmin invocation
  | .cancelAdminProposal => MultiSig.cancelAdminProposal invocation
  | .setStakingConfig minAmount => MultiSig.setStakingConfig invocation minAmount

namespace MultiSig

def step (multiSig : MultiSig) (action : Invocation × MultiSigCall) : MultiSig :=
  commit (action.2.entry action.1) multiSig

/-! ### What a call does -/

/-- A proposal that is stored and ready under the configuration of the moment. -/
structure Due (multiSig : MultiSig) (timestamp proposalId : Nat) (config : MultiSigConfig)
    (proposal : Proposal) : Prop where
  configured : multiSig.config = some config
  stored : multiSig.proposals.get proposalId = some proposal
  ready : proposal.Ready config timestamp

/-- What a call does to the governance. -/
inductive Turn (invocation : Invocation) (multiSig : MultiSig) (call : MultiSigCall)
    (next : MultiSig) : Prop
  | kept (pendingAdmin : Option Address) (platformFee : Nat) (minStakeAmount : Int)
      (same : next = { multiSig with pendingAdmin, platformFee, minStakeAmount })
  | opened {admin platformWallet : Address} {platformFee : Nat}
      (first : multiSig.initialized = false)
      (same : next = { multiSig with
        initialized := true
        admin := some admin
        config := some ⟨[admin], 1⟩
        platformWallet := some platformWallet
        platformFee := platformFee })
  | proposed {proposer : Address} {change : ParameterChange} {expiry : Nat}
      {config : MultiSigConfig} (configured : multiSig.config = some config)
      (member : proposer ∈ config.admins) (positive : change ≠ .setThreshold 0)
      (same : next = multiSig.enroll
        (newProposal invocation multiSig.proposalCounter proposer change expiry))
  | approved {approver : Address} {proposalId : Nat} {config : MultiSigConfig}
      {proposal : Proposal} (configured : multiSig.config = some config)
      (member : approver ∈ config.admins)
      (stored : multiSig.proposals.get proposalId = some proposal) (isOpen : proposal.Open)
      (unapproved : approver ∉ proposal.approvals)
      (same : next =
        multiSig.setProposal { proposal with approvals := proposal.approvals ++ [approver] })
  | executed {executor : Address} {proposalId : Nat} {config : MultiSigConfig}
      {proposal : Proposal} (called : call = .executeProposal executor proposalId)
      (due : multiSig.Due invocation.timestamp proposalId config proposal)
      (same : next = (multiSig.applyChange config proposal.change).markExecuted proposalId proposal)
  | feeExecuted {fee proposalId : Nat} {config : MultiSigConfig} {proposal : Proposal}
      (called : call = .setPlatformFee fee)
      (due : multiSig.Due invocation.timestamp proposalId config proposal)
      (same : next = { multiSig.markExecuted proposalId proposal with platformFee := fee })
  | cancelled {proposalId : Nat} {proposal : Proposal}
      (stored : multiSig.proposals.get proposalId = some proposal) (isOpen : proposal.Open)
      (same : next = multiSig.markCancelled proposalId proposal)
  | swept (same : next = { multiSig with
      activeProposals := multiSig.activeProposals.filter
        fun proposalId => ¬multiSig.Expired invocation.timestamp proposalId })
  | handedOver {admin : Address} (called : call = .acceptAdmin)
      (pending : multiSig.pendingAdmin = some admin) (signed : invocation.signed admin = true)
      (headed : multiSig.admin.isSome = true)
      (same : next = { multiSig with admin := some admin, pendingAdmin := none })

section Turns

variable {multiSig : MultiSig} {call : MultiSigCall} {invocation : Invocation}
  {change : ParameterChange} {proposalId : Nat}

theorem Turn.refl : Turn invocation multiSig call multiSig :=
  .kept multiSig.pendingAdmin multiSig.platformFee multiSig.minStakeAmount rfl

theorem requireMember_ensures {member : Address} :
    Ensures (requireMember invocation member) multiSig fun config next =>
      next = multiSig ∧ multiSig.config = some config ∧ member ∈ config.admins := by
  simp only [requireMember, ensures_rules]
  intro _ config configured member
  exact ⟨trivial, configured, member⟩

/-- A threshold of zero is never proposed, and the check changes nothing. -/
theorem validateChange_ensures {config : MultiSigConfig} :
    Ensures (validateChange invocation config change) multiSig fun _ next =>
      next = multiSig ∧ change ≠ .setThreshold 0 := by
  cases change with
  | setThreshold threshold =>
    simp only [validateChange, ensures_rules]
    intro positive _
    refine ⟨trivial, fun absurdity => positive ?_⟩
    cases absurdity
    rfl
  | _ =>
    simp only [validateChange, validateAddress, ensures_rules]
    intros
    exact ⟨trivial, by simp⟩

theorem proposeParameterChange_turn {proposer : Address} {expiryLedgers : Nat} :
    Ensures (proposeParameterChange invocation proposer change expiryLedgers) multiSig
      fun _ next =>
        Turn invocation multiSig (.proposeParameterChange proposer change expiryLedgers) next := by
  refine requireMember_ensures.bind ?_
  rintro config _ ⟨rfl, configured, member⟩
  refine validateChange_ensures.bind ?_
  rintro _ _ ⟨rfl, positive⟩
  simp only [ensures_rules]
  intro _ _
  exact .proposed configured member positive rfl

theorem approveProposal_turn {approver : Address} :
    Ensures (approveProposal invocation approver proposalId) multiSig
      fun _ next => Turn invocation multiSig (.approveProposal approver proposalId) next := by
  refine requireMember_ensures.bind ?_
  rintro config _ ⟨rfl, configured, member⟩
  simp only [getProposal, ensures_rules]
  intro proposal stored _ unexecuted uncancelled
  exact ⟨fun _ => .refl, fun unapproved =>
    .approved configured member stored ⟨unexecuted, uncancelled⟩ unapproved rfl⟩

/-- An execution applies the change of a proposal that is due. -/
theorem executeProposal_ensures {executor : Address} :
    Ensures (executeProposal invocation executor proposalId) multiSig fun _ next =>
      ∃ config proposal, multiSig.Due invocation.timestamp proposalId config proposal ∧
        next = (multiSig.applyChange config proposal.change).markExecuted proposalId proposal := by
  refine requireMember_ensures.bind ?_
  rintro config _ ⟨rfl, configured, _⟩
  simp only [getProposal, ensures_rules]
  intro proposal stored unexecuted uncancelled inTime approved
  exact ⟨config, proposal, ⟨configured, stored, ⟨unexecuted, uncancelled⟩, inTime, approved⟩, rfl⟩

/-- A sweep over any ids takes those off the list that have expired. -/
theorem foldl_sweepProposal (timestamp : Nat) (ids : List Nat) (multiSig : MultiSig)
    (removed : Nat) :
    (ids.foldl (sweepProposal timestamp) (multiSig, removed)).1 =
      { multiSig with
        activeProposals := multiSig.activeProposals.filter
          fun proposalId => ¬(proposalId ∈ ids ∧ multiSig.Expired timestamp proposalId) } := by
  induction ids generalizing multiSig removed with
  | nil => simp
  | cons first rest inductionHypothesis =>
    rw [List.foldl_cons]
    by_cases expired : multiSig.Expired timestamp first
    · rw [sweepProposal, if_pos expired, inductionHypothesis]
      simp only [removeActiveProposal, List.filter_filter]
      congr 1
      refine List.filter_congr fun proposalId _ => ?_
      by_cases same : proposalId = first
      · simp [same, expired]
      · simp [same, Expired]
    · rw [sweepProposal, if_neg expired, inductionHypothesis]
      congr 1
      refine List.filter_congr fun proposalId _ => ?_
      by_cases same : proposalId = first
      · simp [same, expired]
      · simp [same]

theorem cleanupExpiredProposals_turn :
    Ensures (cleanupExpiredProposals invocation) multiSig
      fun _ next => Turn invocation multiSig .cleanupExpiredProposals next := by
  simp only [cleanupExpiredProposals, requireAdmin, ensures_rules]
  intro _ _ _
  refine .swept ?_
  rw [foldl_sweepProposal]
  congr 1
  refine List.filter_congr fun proposalId listed => ?_
  simp [listed]

/-- The fee is set by the administrator alone where one approval is enough, and otherwise with
the proposal that the search finds. -/
theorem setPlatformFee_ensures {fee : Nat} :
    Ensures (setPlatformFee invocation fee) multiSig fun _ next =>
      ∃ config, multiSig.config = some config ∧
        (config.threshold ≤ 1 ∧ next = { multiSig with platformFee := fee } ∨
          1 < config.threshold ∧ ∃ proposalId proposal,
            multiSig.approvedFeeProposal config invocation.timestamp fee = some proposalId ∧
            multiSig.Due invocation.timestamp proposalId config proposal ∧
            next = { multiSig.markExecuted proposalId proposal with platformFee := fee }) := by
  simp only [setPlatformFee, requireAdmin, ensures_rules]
  intro _ _ _ _ config configured
  refine ⟨fun several proposalId found proposal stored => ?_, fun single => ?_⟩
  · -- the search finds a proposal that is due
    have finds := List.find?_some found
    obtain ⟨_, member, ready, _⟩ := of_decide_eq_true finds
    cases (Option.mem_def.mp member).symm.trans stored
    exact ⟨config, configured, .inr ⟨several, proposalId, proposal, found,
      ⟨configured, stored, ready⟩, rfl⟩⟩
  · exact ⟨config, configured, .inl ⟨Nat.le_of_not_lt single, trivial⟩⟩

/-- Every call takes the governance through one of the turns. -/
theorem step_turn (multiSig : MultiSig) (action : Invocation × MultiSigCall) :
    Turn action.1 multiSig action.2 (step multiSig action) := by
  obtain ⟨invocation, call⟩ := action
  refine commit_of_ensures .refl ?_
  cases call with
  | initializeRegistry admin platformWallet platformFeePercent usdcToken =>
    simp only [MultiSigCall.entry, initializeRegistry, validateAddress, ensures_rules]
    intro first _ _ _ _
    exact .opened first rfl
  | proposeParameterChange proposer change expiryLedgers =>
    rw [MultiSigCall.entry, ensures_bind]
    refine proposeParameterChange_turn.mono ?_
    intro _ _ turn
    exact (ensures_pure ()).mpr turn
  | approveProposal approver proposalId => exact approveProposal_turn
  | executeProposal executor proposalId =>
    refine executeProposal_ensures.mono ?_
    rintro _ _ ⟨config, proposal, due, same⟩
    exact .executed rfl due same
  | cancelProposal proposer proposalId =>
    simp only [MultiSigCall.entry, cancelProposal, getProposal, ensures_rules]
    intro _ proposal stored _ unexecuted uncancelled
    exact .cancelled stored ⟨unexecuted, uncancelled⟩ rfl
  | cleanupExpiredProposals =>
    rw [MultiSigCall.entry, ensures_bind]
    refine cleanupExpiredProposals_turn.mono ?_
    intro _ _ turn
    exact (ensures_pure ()).mpr turn
  | setPlatformFee newFeePercent =>
    refine setPlatformFee_ensures.mono ?_
    rintro _ _ ⟨config, _, ⟨_, same⟩ | ⟨_, proposalId, proposal, _, due, same⟩⟩
    · exact .kept multiSig.pendingAdmin newFeePercent multiSig.minStakeAmount same
    · exact .feeExecuted rfl due same
  | proposeAdmin newAdmin =>
    simp only [MultiSigCall.entry, proposeAdmin, requireAdmin, validateAddress, ensures_rules]
    intro _ _ _ _
    exact .kept (some newAdmin) multiSig.platformFee multiSig.minStakeAmount rfl
  | acceptAdmin =>
    simp only [MultiSigCall.entry, acceptAdmin, ensures_rules]
    intro admin pending signed _ headed
    exact .handedOver rfl pending signed (Option.isSome_of_eq_some headed) rfl
  | cancelAdminProposal =>
    simp only [MultiSigCall.entry, cancelAdminProposal, requireAdmin, ensures_rules]
    intro _ _ _ _ _
    exact .kept none multiSig.platformFee multiSig.minStakeAmount rfl
  | setStakingConfig minAmount =>
    simp only [MultiSigCall.entry, setStakingConfig, requireAdmin, ensures_rules]
    intro _ _ _ _
    exact .kept multiSig.pendingAdmin multiSig.platformFee minAmount rfl

end Turns

/-! ### A small council -/

/-- The registry is initialised, and everybody signs. -/
def opening : Invocation × MultiSigCall :=
  (everybodySigns, .initializeRegistry adminAddress ⟨"wallet"⟩ 500 usdcAddress)

def proposing (change : ParameterChange) : Invocation × MultiSigCall :=
  (everybodySigns, .proposeParameterChange adminAddress change 0)

def approving (approver : Address) (proposalId : Nat) : Invocation × MultiSigCall :=
  (everybodySigns, .approveProposal approver proposalId)

def executing (proposalId : Nat) : Invocation × MultiSigCall :=
  (everybodySigns, .executeProposal adminAddress proposalId)

/-- A second administrator is added by the first proposal. -/
def twoAdmins : List (Invocation × MultiSigCall) :=
  [opening, proposing (.addAdmin aliceAddress), executing 0]

end MultiSig

end Agora.EventRegistry

/-
This file follows the proposals of the governance through their lives. A proposal is filed
under the next free number, collects approvals while it is open, and is executed or cancelled
once, after which nothing about it changes.

What is stored with a proposal and the list of the open ones are written by five entry points,
one of which finds its proposal by a search of the list, and one of which edits the list while
it sweeps it. `Turn.moves` says what a call does to one proposal, and `Listed` what the list is
at a given time. The time enters where a sweep takes an expired proposal off the list: it must
not go back.
-/

import Agora.EventRegistry.MultiSig

namespace Agora.EventRegistry.MultiSig

open Soroban

/-! ### Changes -/

section Changes

variable (multiSig : MultiSig) (config : MultiSigConfig) (change : ParameterChange)

@[simp]
theorem initialized_applyChange :
    (multiSig.applyChange config change).initialized = multiSig.initialized := by
  cases change <;> rfl

@[simp]
theorem proposals_applyChange :
    (multiSig.applyChange config change).proposals = multiSig.proposals := by
  cases change <;> rfl

@[simp]
theorem proposalCounter_applyChange :
    (multiSig.applyChange config change).proposalCounter = multiSig.proposalCounter := by
  cases change <;> rfl

@[simp]
theorem activeProposals_applyChange :
    (multiSig.applyChange config change).activeProposals = multiSig.activeProposals := by
  cases change <;> rfl

/-- Only a new administrator moves the one administrator. -/
theorem admin_applyChange :
    (multiSig.applyChange config change).admin = multiSig.admin ∨
      ∃ admin, change = .addAdmin admin ∧
        (multiSig.applyChange config change).admin = some admin := by
  cases change with
  | addAdmin admin => exact .inr ⟨admin, rfl, rfl⟩
  | _ => exact .inl rfl

variable {multiSig config}

theorem config_applyChange (configured : multiSig.config = some config) :
    (multiSig.applyChange config change).config = some (config.apply change) := by
  cases change with
  | addAdmin | removeAdmin | setThreshold => rfl
  | _ => exact configured

end Changes

/-! ### Records in order -/

/-- A stored proposal carries its own number, lists nobody twice and is not executed and
cancelled at once. -/
structure Filed (counter proposalId : Nat) (proposal : Proposal) : Prop where
  keyed : proposal.proposalId = proposalId
  numbered : proposalId < counter
  distinct : proposal.approvals.Nodup
  positive : proposal.change ≠ .setThreshold 0
  exclusive : ¬(proposal.executed = true ∧ proposal.cancelled = true)

def WellFiled (counter : Nat) (proposals : Store Nat Proposal) : Prop :=
  ∀ proposalId proposal, proposals.get proposalId = some proposal →
    Filed counter proposalId proposal

/-- The stored proposals are filed, and the configuration and the one administrator are there
from the initialisation on. -/
structure InOrder (multiSig : MultiSig) : Prop where
  filed : WellFiled multiSig.proposalCounter multiSig.proposals
  opened : multiSig.initialized = multiSig.config.isSome
  headed : multiSig.admin.isSome = multiSig.config.isSome
  unopened : multiSig.config = none → ∀ proposalId, multiSig.proposals.get proposalId = none

section Filing

variable {counter proposalId : Nat} {proposal : Proposal} {proposals : Store Nat Proposal}

theorem newProposal_filed (invocation : Invocation) {counter : Nat} (proposer : Address)
    {change : ParameterChange} (positive : change ≠ .setThreshold 0) (expiry : Nat) :
    Filed (counter + 1) counter (newProposal invocation counter proposer change expiry) where
  keyed := rfl
  numbered := Nat.lt_succ_self counter
  distinct := List.nodup_singleton proposer
  positive := positive
  exclusive both := by cases both.1

section

variable (filed : Filed counter proposalId proposal)

include filed

theorem Filed.later : Filed (counter + 1) proposalId proposal :=
  { filed with numbered := Nat.lt_succ_of_lt filed.numbered }

theorem Filed.approve {approver : Address} (unapproved : approver ∉ proposal.approvals) :
    Filed counter proposalId { proposal with approvals := proposal.approvals ++ [approver] } :=
  { filed with
    distinct := List.nodup_append.mpr ⟨filed.distinct, List.nodup_singleton approver, by
      rintro earlier listed _ last rfl
      exact unapproved (List.mem_singleton.mp last ▸ listed)⟩ }

theorem Filed.execute (isOpen : proposal.Open) :
    Filed counter proposalId { proposal with executed := true } :=
  { filed with exclusive := fun both => Bool.false_ne_true (isOpen.2.symm.trans both.2) }

theorem Filed.cancel (isOpen : proposal.Open) :
    Filed counter proposalId { proposal with cancelled := true } :=
  { filed with exclusive := fun both => Bool.false_ne_true (isOpen.1.symm.trans both.1) }

end

theorem WellFiled.set (wellFiled : WellFiled counter proposals)
    (filed : Filed counter proposalId proposal) :
    WellFiled counter (proposals.set proposal.proposalId proposal) := by
  intro other stored found
  rw [Store.get_set, filed.keyed] at found
  split at found
  · rename_i same
    cases found
    exact same ▸ filed
  · exact wellFiled other stored found

end Filing

section Order

variable {multiSig next : MultiSig} {call : MultiSigCall} {invocation : Invocation}

variable {config : MultiSigConfig} {proposalId : Nat} {proposal : Proposal}

/-- A stored proposal is written anew. -/
theorem InOrder.setProposal (inOrder : multiSig.InOrder)
    (configured : multiSig.config = some config)
    (filed : Filed multiSig.proposalCounter proposalId proposal) :
    (multiSig.setProposal proposal).InOrder where
  filed := inOrder.filed.set filed
  opened := inOrder.opened
  headed := inOrder.headed
  unopened absent := by cases configured.symm.trans absent

/-- The configuration is there once a proposal is stored. -/
theorem InOrder.configured_of_stored (inOrder : multiSig.InOrder)
    (stored : multiSig.proposals.get proposalId = some proposal) :
    ∃ config, multiSig.config = some config := by
  rcases configured : multiSig.config with _ | config
  · cases (inOrder.unopened configured proposalId).symm.trans stored
  · exact ⟨config, rfl⟩

theorem InOrder.applyChange (inOrder : multiSig.InOrder)
    (configured : multiSig.config = some config) {change : ParameterChange} :
    (multiSig.applyChange config change).InOrder where
  filed := by
    rw [proposals_applyChange, proposalCounter_applyChange]
    exact inOrder.filed
  opened := by
    rw [initialized_applyChange, config_applyChange change configured, inOrder.opened, configured]
    rfl
  headed := by
    rw [config_applyChange change configured]
    obtain same | ⟨admin, _, same⟩ := admin_applyChange multiSig config change
    · rw [same, inOrder.headed, configured]
      rfl
    · rw [same]
      rfl
  unopened absent := by cases (config_applyChange change configured).symm.trans absent

theorem Turn.keeps_inOrder (turn : Turn invocation multiSig call next)
    (inOrder : multiSig.InOrder) : next.InOrder := by
  cases turn with
  | kept _ _ _ same =>
    rw [same]
    exact ⟨inOrder.filed, inOrder.opened, inOrder.headed, inOrder.unopened⟩
  | opened first same =>
    rw [same]
    exact ⟨inOrder.filed, rfl, rfl, fun absent => by cases absent⟩
  | @proposed proposer _ expiry _ configured member positive same =>
    have counted : ({ multiSig with
        proposalCounter := multiSig.proposalCounter + 1 } : MultiSig).InOrder :=
      ⟨fun id stored found => (inOrder.filed id stored found).later, inOrder.opened,
        inOrder.headed, inOrder.unopened⟩
    have stored := counted.setProposal configured
      (newProposal_filed invocation proposer positive expiry)
    rw [same]
    exact ⟨stored.filed, stored.opened, stored.headed, stored.unopened⟩
  | approved configured member stored isOpen unapproved same =>
    rw [same]
    exact inOrder.setProposal configured ((inOrder.filed _ _ stored).approve unapproved)
  | @executed _ proposalId config proposal called due same =>
    have filed : Filed (multiSig.applyChange config proposal.change).proposalCounter proposalId
        { proposal with executed := true } := by
      rw [proposalCounter_applyChange]
      exact (inOrder.filed _ _ due.stored).execute due.ready.isOpen
    have changed := (inOrder.applyChange due.configured).setProposal
      (config_applyChange proposal.change due.configured) filed
    rw [same]
    exact ⟨changed.filed, changed.opened, changed.headed, changed.unopened⟩
  | feeExecuted called due same =>
    have marked := inOrder.setProposal due.configured
      ((inOrder.filed _ _ due.stored).execute due.ready.isOpen)
    rw [same]
    exact ⟨marked.filed, marked.opened, marked.headed, marked.unopened⟩
  | cancelled stored isOpen same =>
    obtain ⟨config, configured⟩ := inOrder.configured_of_stored stored
    have marked := inOrder.setProposal configured ((inOrder.filed _ _ stored).cancel isOpen)
    rw [same]
    exact ⟨marked.filed, marked.opened, marked.headed, marked.unopened⟩
  | swept same =>
    rw [same]
    exact ⟨inOrder.filed, inOrder.opened, inOrder.headed, inOrder.unopened⟩
  | handedOver called pending signed headed same =>
    rw [same]
    exact ⟨inOrder.filed, inOrder.opened, headed.symm.trans inOrder.headed, inOrder.unopened⟩

theorem fresh_inOrder : fresh.InOrder :=
  ⟨fun _ _ absurdity => (by cases absurdity), rfl, rfl, fun _ _ => rfl⟩

/-- The records are in order in every state of every run. -/
theorem run_inOrder (actions : List (Invocation × MultiSigCall)) :
    (runActions step fresh actions).InOrder :=
  run_invariant InOrder (fun multiSig action => (step_turn multiSig action).keeps_inOrder) fresh
    actions fresh_inOrder

end Order

/-! ### One proposal -/

/-- What a call does to the proposal of one number. -/
inductive Moves (timestamp : Nat) (multiSig next : MultiSig) (proposalId : Nat) : Prop
  | kept (same : next.proposals.get proposalId = multiSig.proposals.get proposalId)
  | filed {proposal : Proposal} (absent : multiSig.proposals.get proposalId = none)
      (stored : next.proposals.get proposalId = some proposal) (isOpen : proposal.Open)
  | approved {proposal : Proposal} {approvals : List Address}
      (before : multiSig.proposals.get proposalId = some proposal) (isOpen : proposal.Open)
      (stored : next.proposals.get proposalId = some { proposal with approvals })
  | executed {config : MultiSigConfig} {proposal : Proposal}
      (due : multiSig.Due timestamp proposalId config proposal)
      (stored : next.proposals.get proposalId = some { proposal with executed := true })
  | cancelled {proposal : Proposal}
      (before : multiSig.proposals.get proposalId = some proposal) (isOpen : proposal.Open)
      (stored : next.proposals.get proposalId = some { proposal with cancelled := true })

section Moves

variable {multiSig next : MultiSig} {call : MultiSigCall} {invocation : Invocation}

/-- Where one proposal is written, the others stay. -/
theorem Moves.of_set {timestamp written proposalId : Nat} (record : Proposal)
    (same : next.proposals = multiSig.proposals.set record.proposalId record)
    (keyed : record.proposalId = written)
    (moves : next.proposals.get written = some record → Moves timestamp multiSig next written) :
    Moves timestamp multiSig next proposalId := by
  rw [keyed] at same
  by_cases here : proposalId = written
  · subst here
    exact moves (by rw [same, Store.get_set_self])
  · refine .kept ?_
    rw [same, Store.get_set, if_neg here]

/-- The next number is free. -/
theorem InOrder.counter_free (inOrder : multiSig.InOrder) :
    multiSig.proposals.get multiSig.proposalCounter = none := by
  rcases found : multiSig.proposals.get multiSig.proposalCounter with _ | proposal
  · rfl
  · exact absurd (inOrder.filed _ _ found).numbered (Nat.lt_irrefl _)

theorem Turn.moves (turn : Turn invocation multiSig call next) (inOrder : multiSig.InOrder)
    {proposalId : Nat} : Moves invocation.timestamp multiSig next proposalId := by
  cases turn with
  | kept _ _ _ same | opened _ same | swept same | handedOver _ _ _ _ same =>
    exact .kept (same ▸ rfl)
  | @proposed proposer change expiry _ configured member positive same =>
    exact .of_set (newProposal invocation multiSig.proposalCounter proposer change expiry)
      (by rw [same]; rfl) rfl fun stored =>
        .filed inOrder.counter_free stored ⟨rfl, rfl⟩
  | @approved approver _ _ proposal configured member before isOpen unapproved same =>
    exact .of_set { proposal with approvals := proposal.approvals ++ [approver] }
      (by rw [same]; rfl) (inOrder.filed _ _ before).keyed fun stored =>
        .approved before isOpen stored
  | @executed _ _ config proposal called due same =>
    refine .of_set { proposal with executed := true } ?_ (inOrder.filed _ _ due.stored).keyed
      fun stored => .executed due stored
    rw [same, ← proposals_applyChange multiSig config proposal.change]
    rfl
  | @feeExecuted _ _ _ proposal called due same =>
    exact .of_set { proposal with executed := true } (by rw [same]; rfl)
      (inOrder.filed _ _ due.stored).keyed fun stored => .executed due stored
  | @cancelled _ proposal before isOpen same =>
    exact .of_set { proposal with cancelled := true } (by rw [same]; rfl)
      (inOrder.filed _ _ before).keyed fun stored => .cancelled before isOpen stored

end Moves

/-! ### The end of a proposal -/

/-- The proposal is stored, and executed or cancelled. -/
def Settled (multiSig : MultiSig) (proposalId : Nat) : Prop :=
  ∃ proposal, multiSig.proposals.get proposalId = some proposal ∧ ¬proposal.Open

variable {multiSig : MultiSig} {proposalId : Nat} {proposal : Proposal}

theorem Settled.not_open (settled : multiSig.Settled proposalId)
    (stored : multiSig.proposals.get proposalId = some proposal) : ¬proposal.Open := by
  obtain ⟨record, found, closed⟩ := settled
  cases found.symm.trans stored
  exact closed

/-- Nothing happens to a proposal that is settled. -/
theorem Settled.step (inOrder : multiSig.InOrder) (settled : multiSig.Settled proposalId)
    (action : Invocation × MultiSigCall) : (multiSig.step action).Settled proposalId := by
  cases (step_turn multiSig action).moves inOrder with
  | kept same =>
    obtain ⟨proposal, stored, closed⟩ := settled
    exact ⟨proposal, same.trans stored, closed⟩
  | filed absent _ _ =>
    obtain ⟨proposal, stored, _⟩ := settled
    cases absent.symm.trans stored
  | approved before isOpen _ | cancelled before isOpen _ =>
    exact absurd isOpen (settled.not_open before)
  | executed due _ => exact absurd due.ready.isOpen (settled.not_open due.stored)

/-- The proposal that a call applies: the one that it names, or the one that the search for the
fee finds. -/
def applied (multiSig : MultiSig) (action : Invocation × MultiSigCall) : Option Nat :=
  if accepted (action.2.entry action.1) multiSig = true then
    match action.2 with
    | .executeProposal _ proposalId => some proposalId
    | .setPlatformFee fee =>
      multiSig.config.bind fun config =>
        if 1 < config.threshold then
          multiSig.approvedFeeProposal config action.1.timestamp fee
        else none
    | _ => none
  else none

theorem get_markExecuted {multiSig : MultiSig} (keyed : proposal.proposalId = proposalId) :
    (multiSig.markExecuted proposalId proposal).proposals.get proposalId =
      some { proposal with executed := true } := by
  subst keyed
  exact Store.get_set_self multiSig.proposals proposal.proposalId _

variable {action : Invocation × MultiSigCall}

/-- What is applied is due, and is marked. -/
theorem applied_due (inOrder : multiSig.InOrder)
    (applies : multiSig.applied action = some proposalId) :
    ∃ config proposal, multiSig.Due action.1.timestamp proposalId config proposal ∧
      (multiSig.step action).proposals.get proposalId =
        some { proposal with executed := true } := by
  obtain ⟨invocation, call⟩ := action
  unfold applied at applies
  split at applies
  · rename_i success
    obtain ⟨refused, _⟩ | ⟨_, value, run⟩ :=
      commit_cases_accepted (call.entry invocation) multiSig
    · cases refused.symm.trans success
    · cases call with
      | executeProposal executor named =>
        cases applies
        obtain ⟨config, proposal, due, same⟩ := executeProposal_ensures value _ run
        refine ⟨config, proposal, due, ?_⟩
        rw [MultiSig.step, same]
        exact get_markExecuted (inOrder.filed _ _ due.stored).keyed
      | setPlatformFee fee =>
        obtain ⟨config, configured, ⟨single, _⟩ | ⟨several, found, proposal, search, due, same⟩⟩ :=
          setPlatformFee_ensures value _ run
        all_goals change multiSig.config.bind _ = some proposalId at applies
        · rw [configured, Option.bind_some, if_neg (Nat.not_lt.mpr single)] at applies
          cases applies
        · rw [configured, Option.bind_some, if_pos several, search] at applies
          cases applies
          refine ⟨config, proposal, due, ?_⟩
          rw [MultiSig.step, same]
          exact get_markExecuted (inOrder.filed _ _ due.stored).keyed
      | _ => cases applies
  · cases applies

/-- A proposal is not settled when it is applied, and settled afterwards. -/
theorem applied_settles (inOrder : multiSig.InOrder)
    (applies : multiSig.applied action = some proposalId) :
    ¬multiSig.Settled proposalId ∧ (multiSig.step action).Settled proposalId := by
  obtain ⟨config, proposal, due, marked⟩ := applied_due inOrder applies
  refine ⟨fun settled => settled.not_open due.stored due.ready.isOpen, _, marked, ?_⟩
  intro isOpen
  cases isOpen.1

/-! ### The list of open proposals -/

/-- The list names nobody twice, names open proposals only, and at this time names all of them
that have not expired. -/
structure Listed (now : Nat) (proposals : Store Nat Proposal) (active : List Nat) : Prop where
  nodup : active.Nodup
  isOpen : ∀ proposalId ∈ active, ∃ proposal,
    proposals.get proposalId = some proposal ∧ proposal.Open
  complete : ∀ proposalId proposal, proposals.get proposalId = some proposal → proposal.Open →
    now ≤ proposal.expiresAt → proposalId ∈ active

section List

variable {now : Nat} {proposals : Store Nat Proposal} {active : List Nat}
  (listed : Listed now proposals active)

include listed

/-- Time only takes obligations away from the list. -/
theorem Listed.later {later : Nat} (le : now ≤ later) : Listed later proposals active :=
  { listed with
    complete := fun id proposal stored isOpen inTime =>
      listed.complete id proposal stored isOpen (le.trans inTime) }

variable {record : Proposal}

/-- A new proposal is stored and listed. -/
theorem Listed.file (absent : proposals.get proposalId = none) (isOpen : record.Open) :
    Listed now (proposals.set proposalId record) (active ++ [proposalId]) where
  nodup := by
    refine List.nodup_append.mpr ⟨listed.nodup, List.nodup_singleton proposalId, ?_⟩
    rintro id member _ last rfl
    obtain ⟨proposal, stored, _⟩ := listed.isOpen id member
    cases absent.symm.trans (List.mem_singleton.mp last ▸ stored)
  isOpen := by
    intro id member
    rw [Store.get_set]
    split
    · exact ⟨record, rfl, isOpen⟩
    · rename_i different
      obtain old | new := List.mem_append.mp member
      · exact listed.isOpen id old
      · exact absurd (List.mem_singleton.mp new) different
  complete := by
    intro id proposal stored stillOpen inTime
    rw [Store.get_set] at stored
    split at stored
    · rename_i same
      exact List.mem_append_right _ (List.mem_singleton.mpr same)
    · exact List.mem_append_left _ (listed.complete id proposal stored stillOpen inTime)

/-- An open proposal is written anew and stays open. -/
theorem Listed.rewrite {proposal : Proposal} (stored : proposals.get proposalId = some proposal)
    (wasOpen : proposal.Open) (isOpen : record.Open)
    (expiry : record.expiresAt = proposal.expiresAt) :
    Listed now (proposals.set proposalId record) active where
  nodup := listed.nodup
  isOpen := by
    intro id member
    rw [Store.get_set]
    split
    · exact ⟨record, rfl, isOpen⟩
    · exact listed.isOpen id member
  complete := Store.forall_set listed.complete fun _ inTime =>
    listed.complete proposalId proposal stored wasOpen (expiry ▸ inTime)

/-- A proposal is closed and leaves the list. -/
theorem Listed.close (closed : ¬record.Open) :
    Listed now (proposals.set proposalId record) (active.filter (· ≠ proposalId)) where
  nodup := listed.nodup.filter _
  isOpen := by
    intro id member
    obtain ⟨old, different⟩ := List.mem_filter.mp member
    rw [Store.get_set, if_neg (of_decide_eq_true different)]
    exact listed.isOpen id old
  complete := by
    intro id proposal stored stillOpen inTime
    rw [Store.get_set] at stored
    split at stored
    · cases stored
      exact absurd stillOpen closed
    · rename_i different
      exact List.mem_filter.mpr ⟨listed.complete id proposal stored stillOpen inTime,
        decide_eq_true different⟩

end List

theorem Turn.keeps_listed {next : MultiSig} {call : MultiSigCall} {invocation : Invocation}
    (turn : Turn invocation multiSig call next) (inOrder : multiSig.InOrder)
    (listed : Listed invocation.timestamp multiSig.proposals multiSig.activeProposals) :
    Listed invocation.timestamp next.proposals next.activeProposals := by
  cases turn with
  | kept _ _ _ same | opened _ same | handedOver _ _ _ _ same => exact same ▸ listed
  | @proposed proposer change expiry _ configured member positive same =>
    have absent : multiSig.proposals.get multiSig.proposalCounter = none :=
      inOrder.counter_free
    have unlisted : multiSig.proposalCounter ∉ multiSig.activeProposals := by
      intro named
      obtain ⟨proposal, stored, _⟩ := listed.isOpen _ named
      cases absent.symm.trans stored
    rw [same]
    show Listed _ _ (if multiSig.proposalCounter ∈ multiSig.activeProposals then _ else _)
    rw [if_neg unlisted]
    exact listed.file absent ⟨rfl, rfl⟩
  | approved configured member stored isOpen unapproved same =>
    rw [same]
    show Listed _ (multiSig.proposals.set _ _) multiSig.activeProposals
    rw [show Proposal.proposalId _ = _ from (inOrder.filed _ _ stored).keyed]
    exact listed.rewrite stored isOpen isOpen rfl
  | @executed _ _ config proposal called due same =>
    rw [same]
    show Listed _
      ((multiSig.applyChange config proposal.change).proposals.set proposal.proposalId _)
      ((multiSig.applyChange config proposal.change).activeProposals.filter _)
    rw [proposals_applyChange, activeProposals_applyChange, (inOrder.filed _ _ due.stored).keyed]
    exact listed.close fun isOpen => by cases isOpen.1
  | @feeExecuted _ _ _ proposal called due same =>
    rw [same]
    show Listed _ (multiSig.proposals.set proposal.proposalId _) (multiSig.activeProposals.filter _)
    rw [(inOrder.filed _ _ due.stored).keyed]
    exact listed.close fun isOpen => by cases isOpen.1
  | @cancelled _ proposal stored isOpen same =>
    rw [same]
    show Listed _ (multiSig.proposals.set proposal.proposalId _) (multiSig.activeProposals.filter _)
    rw [(inOrder.filed _ _ stored).keyed]
    exact listed.close fun isOpen => by cases isOpen.2
  | swept same =>
    rw [same]
    refine ⟨listed.nodup.filter _, fun id member => ?_, fun id proposal stored isOpen inTime => ?_⟩
    · exact listed.isOpen id (List.mem_filter.mp member).1
    · refine List.mem_filter.mpr
        ⟨listed.complete id proposal stored isOpen inTime, decide_eq_true ?_⟩
      rintro ⟨other, found, late, _⟩
      cases (Option.mem_def.mp found).symm.trans stored
      exact Nat.not_lt.mpr inTime late

variable {actions : List (Invocation × MultiSigCall)}

/-- The list is kept through a run in which the time does not go back. -/
theorem run_listed {now later : Nat} (inOrder : multiSig.InOrder)
    (listed : Listed now multiSig.proposals multiSig.activeProposals)
    (clock : (now :: actions.map (·.1.timestamp)).Pairwise (· ≤ ·))
    (last : ∀ time ∈ now :: actions.map (·.1.timestamp), time ≤ later) :
    Listed later (runActions step multiSig actions).proposals
      (runActions step multiSig actions).activeProposals := by
  induction actions generalizing multiSig now with
  | nil => exact listed.later (last now (List.mem_singleton_self now))
  | cons action rest inductionHypothesis =>
    obtain ⟨first, others⟩ := List.pairwise_cons.mp clock
    have turn := step_turn multiSig action
    have here := listed.later (first action.1.timestamp List.mem_cons_self)
    exact inductionHypothesis (turn.keeps_inOrder inOrder) (turn.keeps_listed inOrder here) others
      fun time member => last time (List.mem_cons_of_mem now member)

/-! ### The life of a proposal -/

/-- What holds of the proposals in a run. -/
structure Lifecycle (actions : List (Invocation × MultiSigCall)) : Prop where
  /-- No proposal is applied twice. -/
  once : (runOutputs step applied fresh actions).Nodup
  /-- A proposal that is applied is not cancelled and has not expired. -/
  inTime : ∀ multiSig action proposalId, StepOf step fresh actions multiSig action →
    multiSig.applied action = some proposalId →
      ∃ proposal, multiSig.proposals.get proposalId = some proposal ∧
        proposal.cancelled = false ∧ action.1.timestamp ≤ proposal.expiresAt
  /-- No proposal is applied once it was cancelled. -/
  cancelled : ∀ earlier later proposalId proposal, actions = earlier ++ later →
    (runActions step fresh earlier).proposals.get proposalId = some proposal →
    proposal.cancelled = true →
      proposalId ∉ runOutputs step applied (runActions step fresh earlier) later
  /-- No proposal is executed and cancelled. -/
  exclusive : ∀ proposalId proposal,
    (runActions step fresh actions).proposals.get proposalId = some proposal →
      ¬(proposal.executed = true ∧ proposal.cancelled = true)
  /-- The list has no duplicates. -/
  nodup : (runActions step fresh actions).activeProposals.Nodup
  /-- The list names proposals that are neither executed nor cancelled. -/
  isOpen : ∀ proposalId ∈ (runActions step fresh actions).activeProposals, ∃ proposal,
    (runActions step fresh actions).proposals.get proposalId = some proposal ∧
      proposal.executed = false ∧ proposal.cancelled = false
  /-- The list names all of these that have not expired by the time of the last call. -/
  complete : ∀ now proposalId proposal, (∀ action ∈ actions, action.1.timestamp ≤ now) →
    (runActions step fresh actions).proposals.get proposalId = some proposal →
    proposal.executed = false → proposal.cancelled = false → now ≤ proposal.expiresAt →
      proposalId ∈ (runActions step fresh actions).activeProposals

theorem run_listed_fresh {now : Nat} (clock : (actions.map (·.1.timestamp)).Pairwise (· ≤ ·))
    (last : ∀ action ∈ actions, action.1.timestamp ≤ now) :
    Listed now (runActions step fresh actions).proposals
      (runActions step fresh actions).activeProposals := by
  have empty : Listed 0 fresh.proposals fresh.activeProposals :=
    ⟨List.nodup_nil, fun _ absurdity => (by cases absurdity),
      fun _ _ absurdity => (by cases absurdity)⟩
  refine run_listed fresh_inOrder empty
    (List.pairwise_cons.mpr ⟨fun time _ => Nat.zero_le time, clock⟩) ?_
  intro time member
  rcases List.mem_cons.mp member with rfl | later
  · exact Nat.zero_le now
  · obtain ⟨action, taken, rfl⟩ := List.mem_map.mp later
    exact last action taken

/-- In every run in which the time does not go back the proposals live as they should. -/
theorem proposal_lifecycle (actions : List (Invocation × MultiSigCall))
    (clock : (actions.map (·.1.timestamp)).Pairwise (· ≤ ·)) : Lifecycle actions := by
  have keeps (multiSig : MultiSig) (action : Invocation × MultiSigCall)
      (inOrder : multiSig.InOrder) : (step multiSig action).InOrder :=
    (step_turn multiSig action).keeps_inOrder inOrder
  have stays (multiSig : MultiSig) (action : Invocation × MultiSigCall) (proposalId : Nat)
      (inOrder : multiSig.InOrder) (settled : multiSig.Settled proposalId) :
      (step multiSig action).Settled proposalId := settled.step inOrder action
  have ends (multiSig : MultiSig) (action : Invocation × MultiSigCall) (proposalId : Nat)
      (inOrder : multiSig.InOrder) (applies : multiSig.applied action = some proposalId) :
      ¬multiSig.Settled proposalId ∧ (step multiSig action).Settled proposalId :=
    applied_settles inOrder applies
  -- a time that no call of the run comes after
  have listed : Listed (actions.map (·.1.timestamp)).sum (runActions step fresh actions).proposals
      (runActions step fresh actions).activeProposals :=
    run_listed_fresh clock fun action taken =>
      List.single_le_sum (fun _ _ => Nat.zero_le _) _ (List.mem_map_of_mem taken)
  constructor
  · exact runOutputs_nodup InOrder Settled keeps stays ends fresh_inOrder
  · rintro _ action proposalId ⟨earlier, later, _, rfl⟩ applies
    obtain ⟨_, proposal, due, _⟩ := applied_due (run_inOrder earlier) applies
    exact ⟨proposal, due.stored, due.ready.isOpen.2, due.ready.inTime⟩
  · intro earlier later proposalId proposal _ stored isCancelled
    refine notMem_runOutputs InOrder Settled keeps stays ends (run_inOrder earlier)
      ⟨proposal, stored, fun isOpen => ?_⟩
    cases isOpen.2.symm.trans isCancelled
  · intro proposalId proposal stored
    exact ((run_inOrder actions).filed proposalId proposal stored).exclusive
  · exact listed.nodup
  · exact listed.isOpen
  · intro now proposalId proposal last stored unexecuted uncancelled inTime
    exact (run_listed_fresh clock last).complete proposalId proposal stored
      ⟨unexecuted, uncancelled⟩ inTime

/-- Three proposals are executed, the last of them by the call that sets the fee, the fourth is
cancelled, and the fifth expires before the list is swept. -/
theorem busy_council_lifecycle :
    let actions := twoAdmins ++ [proposing (.setThreshold 2), executing 1,
      proposing (.setPlatformFee 100), approving aliceAddress 2,
      (everybodySigns, .setPlatformFee 100), proposing (.removeAdmin aliceAddress),
      (everybodySigns, .cancelProposal adminAddress 3), proposing (.setThreshold 1),
      ({ everybodySigns with timestamp := 200000 }, .cleanupExpiredProposals)]
    runOutputs step applied fresh actions = [0, 1, 2] ∧
      (runActions step fresh actions).activeProposals = [] ∧ Lifecycle actions :=
  ⟨by decide, by decide, proposal_lifecycle _ (by decide)⟩

end Agora.EventRegistry.MultiSig

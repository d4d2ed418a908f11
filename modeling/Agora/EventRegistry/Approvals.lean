/-
This file asks whether a proposal takes effect only with the approvals of administrators.

Whoever approves is an administrator at that time, and is asked once. But the approvals stay
with the proposal when an administrator is removed, and both entry points that execute a
proposal count them all.
-/

import Mathlib.Data.Finset.Card
import Mathlib.Data.List.Basic
import Agora.EventRegistry.Admins

namespace Agora.EventRegistry

open Soroban

/-- The administrator whom a change removes. -/
def ParameterChange.removes : ParameterChange → Option Address
  | .removeAdmin admin => some admin
  | _ => none

namespace MultiSig

def IsExecuted (multiSig : MultiSig) (proposalId : Nat) : Prop :=
  ∃ proposal ∈ multiSig.proposals.get proposalId, proposal.executed = true

instance (multiSig : MultiSig) (proposalId : Nat) : Decidable (multiSig.IsExecuted proposalId) :=
  inferInstanceAs (Decidable (∃ _ ∈ _, _))

/-- The condition on a call: nobody is removed whose approval stands with another open
proposal. -/
def KeepsApprovals (multiSig : MultiSig) (action : Invocation × MultiSigCall) : Prop :=
  ∀ proposalId ∈ action.2.executes, ∀ config ∈ multiSig.config,
    ∀ proposal ∈ multiSig.proposals.get proposalId, proposal.Ready config action.1.timestamp →
      ∀ admin ∈ proposal.change.removes, ∀ other < multiSig.proposalCounter, other ≠ proposalId →
        ∀ pending ∈ multiSig.proposals.get other, pending.Open → admin ∉ pending.approvals

instance (multiSig : MultiSig) (action : Invocation × MultiSigCall) :
    Decidable (multiSig.KeepsApprovals action) :=
  inferInstanceAs (Decidable (∀ _ ∈ _, _))

/-- Every open proposal is approved by administrators only. -/
def Current (config : Option MultiSigConfig) (proposals : Store Nat Proposal) : Prop :=
  ∀ current ∈ config, ∀ proposalId proposal, proposals.get proposalId = some proposal →
    proposal.Open → ∀ approver ∈ proposal.approvals, approver ∈ current.admins

variable {record : Proposal}

theorem Current.set {config : Option MultiSigConfig} {proposals : Store Nat Proposal}
    (current : Current config proposals)
    (fits : record.Open → ∀ configured ∈ config, ∀ approver ∈ record.approvals,
      approver ∈ configured.admins) {proposalId : Nat} :
    Current config (proposals.set proposalId record) := by
  intro configured known
  exact Store.forall_set (current configured known) fun isOpen => fits isOpen configured known

variable {multiSig : MultiSig} {proposalId : Nat}

/-- The configuration changes, and the proposal that changed it is closed. -/
theorem Current.execute (inOrder : multiSig.InOrder)
    (current : Current multiSig.config multiSig.proposals) {config : MultiSigConfig}
    (configured : multiSig.config = some config) {change : ParameterChange}
    (kept : ∀ admin ∈ change.removes, ∀ other < multiSig.proposalCounter, other ≠ proposalId →
      ∀ pending ∈ multiSig.proposals.get other, pending.Open → admin ∉ pending.approvals)
    (closed : ¬record.Open) :
    Current (some (config.apply change)) (multiSig.proposals.set proposalId record) := by
  intro after known other proposal stored isOpen approver approves
  cases known
  rw [Store.get_set] at stored
  split at stored
  · cases stored
    exact absurd isOpen closed
  · rename_i different
    have listed := current config configured other proposal stored isOpen approver approves
    refine mem_apply listed ?_
    rintro rfl
    exact kept approver rfl other (inOrder.filed other proposal stored).numbered different proposal
      stored isOpen approves

variable {next : MultiSig}

theorem Turn.keeps_current {action : Invocation × MultiSigCall}
    (turn : Turn action.1 multiSig action.2 next) (keeps : multiSig.KeepsApprovals action)
    (inOrder : multiSig.InOrder) (current : Current multiSig.config multiSig.proposals) :
    Current next.config next.proposals := by
  cases turn with
  | kept _ _ _ same | swept same | handedOver _ _ _ _ same => exact same ▸ current
  | opened first same =>
    have unconfigured : multiSig.config = none :=
      Option.not_isSome_iff_eq_none.mp fun configured =>
        Bool.false_ne_true (first.symm.trans (inOrder.opened.trans configured))
    rw [same]
    intro _ _ proposalId proposal stored
    cases (inOrder.unopened unconfigured proposalId).symm.trans stored
  | @proposed proposer _ _ config configured member _ same =>
    rw [same]
    refine current.set (fun _ known configuredNow approver approves => ?_)
    cases configured.symm.trans configuredNow
    exact List.mem_singleton.mp approves ▸ member
  | @approved approver proposalId config proposal configured member stored isOpen _ same =>
    rw [same]
    refine current.set (fun _ known configuredNow other approves => ?_)
    cases configured.symm.trans configuredNow
    rcases List.mem_append.mp approves with earlier | last
    · exact current config configured proposalId proposal stored isOpen other earlier
    · exact List.mem_singleton.mp last ▸ member
  | @executed _ proposalId config proposal called due same =>
    have kept := keeps proposalId (by rw [called]; rfl) config due.configured proposal due.stored
      due.ready
    rw [same]
    show Current (multiSig.applyChange config proposal.change).config
      ((multiSig.applyChange config proposal.change).proposals.set proposal.proposalId _)
    rw [config_applyChange proposal.change due.configured, proposals_applyChange,
      (inOrder.filed _ _ due.stored).keyed]
    exact current.execute inOrder due.configured kept fun isOpen => by cases isOpen.1
  | @feeExecuted _ _ _ proposal called due same =>
    rw [same]
    exact current.set (fun isOpen => by cases isOpen.1)
  | @cancelled _ proposal stored isOpen same =>
    rw [same]
    exact current.set (fun isOpen => by cases isOpen.2)

/-- A call that marks a proposal as executed finds it due. -/
theorem Turn.marks {call : MultiSigCall} {invocation : Invocation}
    (turn : Turn invocation multiSig call next) (inOrder : multiSig.InOrder)
    (before : ¬multiSig.IsExecuted proposalId) (after : next.IsExecuted proposalId) :
    ∃ config proposal, multiSig.Due invocation.timestamp proposalId config proposal ∧
      next.proposals.get proposalId = some { proposal with executed := true } := by
  obtain ⟨marked, found, executed⟩ := after
  cases turn.moves inOrder with
  | kept same => exact absurd ⟨marked, same ▸ found, executed⟩ before
  | filed _ stored isOpen =>
    cases (Option.mem_def.mp found).symm.trans stored
    cases isOpen.1.symm.trans executed
  | approved _ isOpen stored =>
    cases (Option.mem_def.mp found).symm.trans stored
    cases isOpen.1.symm.trans executed
  | executed due stored => exact ⟨_, _, due, stored⟩
  | cancelled _ isOpen stored =>
    cases (Option.mem_def.mp found).symm.trans stored
    cases isOpen.1.symm.trans executed

/-- In every run of such calls a proposal is marked as executed only when as many different
administrators of the moment approved it as the configuration asks for. -/
theorem executed_by_current_admins (actions : List (Invocation × MultiSigCall))
    (keeps : Respects step KeepsApprovals fresh actions) (multiSig : MultiSig)
    (action : Invocation × MultiSigCall) (taken : StepOf step fresh actions multiSig action)
    (proposalId : Nat) (before : ¬multiSig.IsExecuted proposalId)
    (after : (multiSig.step action).IsExecuted proposalId) :
    ∃ config proposal, multiSig.config = some config ∧
      (multiSig.step action).proposals.get proposalId = some proposal ∧
      config.threshold ≤ (proposal.approvals.toFinset ∩ config.admins.toFinset).card := by
  obtain ⟨earlier, later, rfl, rfl⟩ := taken
  have inOrder := run_inOrder earlier
  have current : Current (runActions step fresh earlier).config
      (runActions step fresh earlier).proposals := by
    refine (respects_invariant
      (fun multiSig => multiSig.InOrder ∧ Current multiSig.config multiSig.proposals) ?_ fresh
      earlier (respects_append.mp keeps).1
      ⟨fresh_inOrder, fun _ absurdity => by cases absurdity⟩).2
    rintro multiSig action keeps ⟨inOrder, current⟩
    have turn := step_turn multiSig action
    exact ⟨turn.keeps_inOrder inOrder, turn.keeps_current keeps inOrder current⟩
  obtain ⟨config, proposal, due, marked⟩ := (step_turn _ action).marks inOrder before after
  refine ⟨config, _, due.configured, marked, ?_⟩
  have listed : proposal.approvals.toFinset ⊆ config.admins.toFinset := by
    intro approver approves
    exact List.mem_toFinset.mpr (current config due.configured proposalId proposal due.stored
      due.ready.isOpen approver (List.mem_toFinset.mp approves))
  show _ ≤ (proposal.approvals.toFinset ∩ _).card
  rw [Finset.inter_eq_left.mpr listed,
    List.toFinset_card_of_nodup (inOrder.filed _ _ due.stored).distinct]
  exact due.ready.approved

/-- Both administrators have to approve, and do. -/
def feeApproved : List (Invocation × MultiSigCall) :=
  twoAdmins ++ [proposing (.setThreshold 2), executing 1, proposing (.setPlatformFee 100),
    approving aliceAddress 2]

/-- The fee is set with a proposal that both administrators approved. -/
theorem fee_set_by_both_admins :
    let multiSig := runActions step fresh feeApproved
    let next := multiSig.step (everybodySigns, .setPlatformFee 100)
    ∃ config proposal, multiSig.config = some config ∧ next.proposals.get 2 = some proposal ∧
      config.threshold ≤ (proposal.approvals.toFinset ∩ config.admins.toFinset).card :=
  executed_by_current_admins (feeApproved ++ [(everybodySigns, .setPlatformFee 100)])
    (by decide +kernel) (runActions step fresh feeApproved) (everybodySigns, .setPlatformFee 100)
    ⟨feeApproved, [], rfl, rfl⟩ 2 (by decide +kernel) (by decide +kernel)

/-- Of three administrators two have to approve. One of the two who approved a new fee is removed
before the fee is executed. -/
def approverRemoved : List (Invocation × MultiSigCall) :=
  twoAdmins ++ [proposing (.addAdmin bobAddress), executing 1, proposing (.setThreshold 2),
    executing 2, proposing (.setPlatformFee 100), approving aliceAddress 3,
    proposing (.removeAdmin aliceAddress), approving bobAddress 4, executing 4]

/-- The approval of the administrator who was removed counts, in both entry points. -/
theorem removed_approver_counts :
    let multiSig := runActions step fresh approverRemoved
    let named := multiSig.step (executing 3)
    let searched := multiSig.step (everybodySigns, .setPlatformFee 100)
    ¬multiSig.IsExecuted 3 ∧ named.IsExecuted 3 ∧ searched.IsExecuted 3 ∧
      multiSig.config = some ⟨[adminAddress, bobAddress], 2⟩ ∧
      (multiSig.proposals.get 3).map (·.approvals) = some [adminAddress, aliceAddress] := by
  decide +kernel

end MultiSig

end Agora.EventRegistry

/-
This file asks whether the administrators of the registry stay in order: whether the
configuration names at least one of them, nobody twice, and asks for a number of approvals
that they can give; and whether the one administrator is among them.

Both fail, because an execution does not ask again what the proposal asked. A second proposal
to add the same administrator lists them twice, two removals that were each allowed leave
nobody, and a threshold outlives the administrators it was proposed for. And an administrator
who is removed, or to whom the office was handed over, need not be in the configuration.
`WellFormed.apply_iff` says that nothing else can go wrong in an execution.
-/

import Agora.EventRegistry.Proposals

namespace Agora.EventRegistry

open Soroban

/-! ### The configuration -/

structure MultiSigConfig.WellFormed (config : MultiSigConfig) : Prop where
  nonempty : config.admins ≠ []
  nodup : config.admins.Nodup
  positive : 1 ≤ config.threshold
  bounded : config.threshold ≤ config.admins.length

/-- What has to hold of the administrators for the change to leave them in order. -/
def MultiSigConfig.Fits (config : MultiSigConfig) : ParameterChange → Prop
  | .addAdmin admin => admin ∉ config.admins
  | .removeAdmin admin => ∃ other ∈ config.admins, other ≠ admin
  | .setThreshold threshold => threshold ≤ config.admins.length
  | .updatePlatformWallet _ => True
  | .setPlatformFee _ => True
  | .setMinStakeAmount _ => True

instance (config : MultiSigConfig) : ∀ change, Decidable (config.Fits change)
  | .addAdmin admin => inferInstanceAs (Decidable (admin ∉ config.admins))
  | .removeAdmin admin => inferInstanceAs (Decidable (∃ other ∈ config.admins, other ≠ admin))
  | .setThreshold threshold => inferInstanceAs (Decidable (threshold ≤ config.admins.length))
  | .updatePlatformWallet _ => isTrue trivial
  | .setPlatformFee _ => isTrue trivial
  | .setMinStakeAmount _ => isTrue trivial

namespace MultiSigConfig

variable {config : MultiSigConfig}

theorem WellFormed.addAdmin_iff (wellFormed : config.WellFormed) (admin : Address) :
    (config.apply (.addAdmin admin)).WellFormed ↔ admin ∉ config.admins := by
  constructor
  · intro after listed
    exact (List.nodup_append.mp after.nodup).2.2 admin listed admin (List.mem_singleton_self admin)
      rfl
  · intro unlisted
    refine ⟨List.append_ne_nil_of_right_ne_nil _ (List.cons_ne_nil _ _), ?_, wellFormed.positive,
      ?_⟩
    · exact List.nodup_append.mpr ⟨wellFormed.nodup, List.nodup_singleton admin,
        fun earlier listed _ last same => unlisted (List.mem_singleton.mp last ▸ same ▸ listed)⟩
    · show config.threshold ≤ (config.admins ++ [admin]).length
      rw [List.length_append]
      exact Nat.le_add_right_of_le wellFormed.bounded

/-- The threshold goes down with the administrators, and only to zero when nobody is left. -/
theorem WellFormed.removeAdmin_iff (wellFormed : config.WellFormed) (admin : Address) :
    (config.apply (.removeAdmin admin)).WellFormed ↔ ∃ other ∈ config.admins, other ≠ admin := by
  constructor
  · intro after
    obtain ⟨other, left⟩ := List.exists_mem_of_ne_nil _ after.nonempty
    have kept := List.mem_filter.mp left
    exact ⟨other, kept.1, of_decide_eq_true kept.2⟩
  · rintro ⟨other, listed, different⟩
    have left : other ∈ config.admins.filter (· ≠ admin) :=
      List.mem_filter.mpr ⟨listed, decide_eq_true different⟩
    refine ⟨List.ne_nil_of_mem left, wellFormed.nodup.filter _, ?_, ?_⟩
    · show 1 ≤ if _ then _ else config.threshold
      split
      · exact List.length_pos_of_mem left
      · exact wellFormed.positive
    · show (if _ then _ else config.threshold) ≤ _
      split
      · exact le_rfl
      · exact Nat.le_of_not_lt ‹_›

/-- An execution leaves the administrators in order exactly when the change still fits them. -/
theorem WellFormed.apply_iff (wellFormed : config.WellFormed) {change : ParameterChange}
    (positive : change ≠ .setThreshold 0) :
    (config.apply change).WellFormed ↔ config.Fits change := by
  cases change with
  | addAdmin admin => exact wellFormed.addAdmin_iff admin
  | removeAdmin admin => exact wellFormed.removeAdmin_iff admin
  | setThreshold threshold =>
    refine ⟨fun after => after.bounded, fun bounded => ?_⟩
    refine ⟨wellFormed.nonempty, wellFormed.nodup, Nat.one_le_iff_ne_zero.mpr ?_, bounded⟩
    rintro rfl
    exact positive rfl
  | _ => exact ⟨fun _ => trivial, fun _ => wellFormed⟩

end MultiSigConfig

namespace MultiSig

/-- The condition on a call: a change that is executed fits the administrators of the moment. -/
def KeepsConfig (multiSig : MultiSig) (action : Invocation × MultiSigCall) : Prop :=
  ∀ proposalId ∈ action.2.executes, ∀ config ∈ multiSig.config,
    ∀ proposal ∈ multiSig.proposals.get proposalId,
      proposal.Ready config action.1.timestamp → config.Fits proposal.change

instance (multiSig : MultiSig) (action : Invocation × MultiSigCall) :
    Decidable (multiSig.KeepsConfig action) :=
  inferInstanceAs (Decidable (∀ _ ∈ _, _))

/-- The configuration, where there is one, is in order. -/
def Configured (multiSig : MultiSig) : Prop :=
  ∀ config, multiSig.config = some config → config.WellFormed

variable {multiSig next : MultiSig} {action : Invocation × MultiSigCall}

theorem Turn.keeps_configured (turn : Turn action.1 multiSig action.2 next)
    (keeps : multiSig.KeepsConfig action) (inOrder : multiSig.InOrder)
    (wellFormed : multiSig.Configured) : next.Configured := by
  cases turn with
  | kept _ _ _ same | proposed _ _ _ same | approved _ _ _ _ _ same | feeExecuted _ _ same
  | cancelled _ _ same | swept same | handedOver _ _ _ _ same =>
    exact same ▸ wellFormed
  | @opened admin _ _ _ same =>
    rw [same]
    intro _ configured
    cases configured
    exact ⟨List.cons_ne_nil _ _, List.nodup_singleton admin, le_rfl, le_rfl⟩
  | @executed executor proposalId config proposal called due same =>
    have fits := keeps proposalId (by rw [called]; rfl) config due.configured proposal due.stored
      due.ready
    have positive := (inOrder.filed proposalId proposal due.stored).positive
    rw [same]
    intro after configured
    rw [show (MultiSig.markExecuted _ _ _).config = _ from
      config_applyChange proposal.change due.configured] at configured
    cases configured
    exact ((wellFormed config due.configured).apply_iff positive).mpr fits

/-- In every run in which every change that is executed still fits the administrators, the
configuration names somebody, nobody twice, and asks for a number of approvals that they can
give. -/
theorem config_wellFormed (actions : List (Invocation × MultiSigCall))
    (keeps : Respects step KeepsConfig fresh actions)
    (initialized : (runActions step fresh actions).initialized = true) :
    ∃ config, (runActions step fresh actions).config = some config ∧ config.admins ≠ [] ∧
      config.admins.Nodup ∧ 1 ≤ config.threshold ∧ config.threshold ≤ config.admins.length := by
  have both : (runActions step fresh actions).InOrder ∧
      (runActions step fresh actions).Configured := by
    refine respects_invariant (fun multiSig => multiSig.InOrder ∧ multiSig.Configured) ?_ fresh
      actions keeps ⟨fresh_inOrder, fun _ absurdity => by cases absurdity⟩
    rintro multiSig action keeps ⟨inOrder, wellFormed⟩
    have turn := step_turn multiSig action
    exact ⟨turn.keeps_inOrder inOrder, turn.keeps_configured keeps inOrder wellFormed⟩
  obtain ⟨config, configured⟩ := Option.isSome_iff_exists.mp (both.1.opened.symm.trans initialized)
  have wellFormed := both.2 config configured
  exact ⟨config, configured, wellFormed.nonempty, wellFormed.nodup, wellFormed.positive,
    wellFormed.bounded⟩

/-- A second administrator is added, and both have to approve from then on. -/
theorem two_admins_wellFormed :
    let multiSig := runActions step fresh
      (twoAdmins ++ [proposing (.setThreshold 2), executing 1])
    multiSig.initialized = true ∧ ∃ config, multiSig.config = some config ∧ config.admins ≠ [] ∧
      config.admins.Nodup ∧ 1 ≤ config.threshold ∧ config.threshold ≤ config.admins.length :=
  ⟨by decide, config_wellFormed _ (by decide) (by decide)⟩

/-- Two proposals add the same administrator; two proposals remove one administrator each and
leave nobody; and a threshold of two is executed after one of two administrators was removed. -/
theorem reordered_proposals_break_config :
    let twice := runActions step fresh [opening, proposing (.addAdmin aliceAddress),
      proposing (.addAdmin aliceAddress), executing 0, executing 1]
    let nobody := runActions step fresh (twoAdmins ++ [proposing (.removeAdmin aliceAddress),
      proposing (.removeAdmin adminAddress), executing 1, executing 2])
    let stuck := runActions step fresh (twoAdmins ++ [proposing (.setThreshold 2),
      proposing (.removeAdmin aliceAddress), executing 2, executing 1])
    twice.config = some ⟨[adminAddress, aliceAddress, aliceAddress], 1⟩ ∧
      nobody.config = some ⟨[], 0⟩ ∧ stuck.config = some ⟨[adminAddress], 2⟩ := by
  decide

/-! ### The one administrator -/

variable {config : MultiSigConfig} {change : ParameterChange} {admin : Address}

/-- An administrator stays listed unless the change removes them. -/
theorem mem_apply (listed : admin ∈ config.admins) (stays : change ≠ .removeAdmin admin) :
    admin ∈ (config.apply change).admins := by
  cases change with
  | addAdmin other => exact List.mem_append_left _ listed
  | removeAdmin other =>
    refine List.mem_filter.mpr ⟨listed, decide_eq_true ?_⟩
    rintro rfl
    exact stays rfl
  | _ => exact listed

/-- The entry points of the administrator open for the stored administrator alone. -/
theorem accepted_requireAdmin (headed : multiSig.admin = some admin) (invocation : Invocation) :
    accepted (requireAdmin invocation) multiSig = invocation.signed admin := by
  rw [Bool.eq_iff_iff, accepted_eq_true_iff]
  simp only [requireAdmin, succeeds_rules, headed]
  simp

/-- The condition on a call: no change is executed that removes the one administrator, and the
office is handed over to somebody in the configuration only. -/
def KeepsAdmin (multiSig : MultiSig) (action : Invocation × MultiSigCall) : Prop :=
  (∀ proposalId ∈ action.2.executes, ∀ config ∈ multiSig.config,
    ∀ proposal ∈ multiSig.proposals.get proposalId, proposal.Ready config action.1.timestamp →
      ∀ admin ∈ multiSig.admin, proposal.change ≠ .removeAdmin admin) ∧
  (action.2 = .acceptAdmin → ∀ admin ∈ multiSig.pendingAdmin, action.1.signed admin = true →
    ∀ config ∈ multiSig.config, admin ∈ config.admins)

instance (multiSig : MultiSig) (action : Invocation × MultiSigCall) :
    Decidable (multiSig.KeepsAdmin action) :=
  inferInstanceAs (Decidable (_ ∧ _))

/-- The one administrator is in the configuration. -/
def AdminListed (multiSig : MultiSig) : Prop :=
  ∀ admin config, multiSig.admin = some admin → multiSig.config = some config →
    admin ∈ config.admins

theorem AdminListed.execute (adminListed : multiSig.AdminListed)
    (configured : multiSig.config = some config)
    (stays : ∀ admin ∈ multiSig.admin, change ≠ .removeAdmin admin) :
    (multiSig.applyChange config change).AdminListed := by
  intro admin after headed changed
  cases (config_applyChange change configured).symm.trans changed
  obtain same | ⟨added, rfl, same⟩ := admin_applyChange multiSig config change
  · have before := same.symm.trans headed
    exact mem_apply (adminListed admin config before configured) (stays admin before)
  · cases same.symm.trans headed
    exact List.mem_append_right _ (List.mem_singleton_self admin)

theorem Turn.keeps_adminListed (turn : Turn action.1 multiSig action.2 next)
    (keeps : multiSig.KeepsAdmin action) (adminListed : multiSig.AdminListed) :
    next.AdminListed := by
  cases turn with
  | kept _ _ _ same | proposed _ _ _ same | approved _ _ _ _ _ same | feeExecuted _ _ same
  | cancelled _ _ same | swept same =>
    exact same ▸ adminListed
  | opened _ same =>
    rw [same]
    intro _ _ headed configured
    cases headed
    cases configured
    exact List.mem_singleton_self _
  | @executed executor proposalId config proposal called due same =>
    have stays := keeps.1 proposalId (by rw [called]; rfl) config due.configured proposal
      due.stored due.ready
    exact same ▸ adminListed.execute due.configured stays
  | @handedOver proposed called pending signed _ same =>
    rw [same]
    intro _ config headed configured
    cases headed
    exact keeps.2 called proposed pending signed config configured

/-- In every run of such calls the administrator for whom the entry points ask is in the
configuration. -/
theorem admin_is_member (actions : List (Invocation × MultiSigCall))
    (keeps : Respects step KeepsAdmin fresh actions)
    (initialized : (runActions step fresh actions).initialized = true) :
    ∃ admin config, (runActions step fresh actions).config = some config ∧
      admin ∈ config.admins ∧ ∀ invocation,
        accepted (requireAdmin invocation) (runActions step fresh actions) =
          invocation.signed admin := by
  have adminListed : (runActions step fresh actions).AdminListed :=
    respects_invariant AdminListed
      (fun multiSig action keeps => (step_turn multiSig action).keeps_adminListed keeps) fresh
      actions keeps fun _ _ absurdity => by cases absurdity
  have inOrder := run_inOrder actions
  have configured := inOrder.opened.symm.trans initialized
  obtain ⟨config, configEq⟩ := Option.isSome_iff_exists.mp configured
  obtain ⟨admin, adminEq⟩ := Option.isSome_iff_exists.mp (inOrder.headed.trans configured)
  exact ⟨admin, config, configEq, adminListed admin config adminEq configEq,
    accepted_requireAdmin adminEq⟩

/-- The second administrator removes the first, and stays the one administrator. -/
theorem remaining_admin_is_member :
    let multiSig := runActions step fresh
      (twoAdmins ++ [proposing (.removeAdmin adminAddress), executing 1])
    multiSig.initialized = true ∧ ∃ admin config, multiSig.config = some config ∧
      admin ∈ config.admins ∧ ∀ invocation,
        accepted (requireAdmin invocation) multiSig = invocation.signed admin :=
  ⟨by decide, admin_is_member _ (by decide) (by decide)⟩

/-- The second administrator is removed and stays the one administrator; and the office is handed
over to somebody who was never in the configuration. -/
theorem removed_admin_keeps_power :
    let removed := runActions step fresh
      (twoAdmins ++ [proposing (.removeAdmin aliceAddress), executing 1])
    let outsider := runActions step fresh [opening,
      (everybodySigns, .proposeAdmin aliceAddress), (everybodySigns, .acceptAdmin)]
    (removed.admin = some aliceAddress ∧ removed.config = some ⟨[adminAddress], 1⟩) ∧
      outsider.admin = some aliceAddress ∧ outsider.config = some ⟨[adminAddress], 1⟩ := by
  decide

end MultiSig

end Agora.EventRegistry

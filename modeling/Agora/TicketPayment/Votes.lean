/-
This file asks what the vote on a proposal guarantees: that a proposal is executed only
after a full vote, and that those who carried it govern when it is executed.

Neither holds of every run. The entry points for withdrawals from escrow work on any
proposal: one lets the admin vote without a seat, the other marks a proposal with two
votes as executed, at once and without effect. A governor who loses the seat keeps the
votes already given. Runs that stay clear of the two have both guarantees.

A step touches at most one proposal, and `Turn` says once how.
-/

import Agora.TicketPayment.Governors

namespace Agora.TicketPayment

open Soroban EventRegistry

variable {Registry : Type} {host : Host}

/-! ### What a step does to a proposal -/

/-- What a step can make of a stored proposal, with what is known when it does. -/
inductive Turn (world : World Registry) (id : Nat) (proposal : ParameterProposal) :
    Action host Registry → ParameterProposal → Prop
  | kept (action : Action host Registry) : Turn world id proposal action proposal
  | voted (env : Env host) (voter : Address)
      (governs : isGovernor world.governance voter = true)
      (of : VoteOf env.timestamp world id voter proposal) :
      Turn world id proposal (.call env (.configure (.voteOnProposal voter id)))
        (proposal.votedBy voter)
  | approved (env : Env host) (admin : Address) (adminEq : world.settings.admin = some admin)
      (of : VoteOf env.timestamp world id admin proposal) :
      Turn world id proposal (.call env (.configure (.approveEscrowWithdrawal id)))
        (proposal.votedBy admin)
  | executed (env : Env host) (executor : Address)
      (of : ExecutionOf env.timestamp world id proposal) :
      Turn world id proposal (.call env (.configure (.executeProposal executor id)))
        { proposal with status := .executed }
  | escrowExecuted (env : Env host) (enough : 2 ≤ proposal.voteCount) :
      Turn world id proposal (.call env (.configure (.executeEscrowWithdrawal id)))
        { proposal with status := .executed }

theorem get_setProposal (written : ParameterProposal) (governance : Governance) (id : Nat) :
    (setProposal written governance).proposal.get id =
      if id = written.id then some written else governance.proposal.get id :=
  Store.get_set _

variable {world : World Registry} {id : Nat} {proposal : ParameterProposal}
  {action : Action host Registry}

/-- A write to one proposal is a turn of that proposal and keeps every other. -/
theorem turn_setProposal {governance : Governance} {target : Nat}
    {before written : ParameterProposal} (stored : world.governance.proposal.get id = some proposal)
    (same : governance.proposal = world.governance.proposal)
    (found : world.governance.proposal.get target = some before) (keyed : written.id = target)
    (turn : Turn world target before action written) :
    ∃ next, (setProposal written governance).proposal.get id = some next ∧
      Turn world id proposal action next := by
  rw [get_setProposal, keyed, same]
  by_cases touched : id = target
  · subst touched
    cases stored.symm.trans found
    exact ⟨written, if_pos rfl, turn⟩
  · exact ⟨proposal, (if_neg touched).trans stored, .kept action⟩

variable {proposer : Address} {timestamp : Nat}

theorem turn_enroll (wellFiled : WellFiled world.governance)
    (stored : world.governance.proposal.get id = some proposal) {change : ParameterChange} :
    ∃ next, (enroll timestamp proposer change world.governance).proposal.get id = some next ∧
      Turn world id proposal action next := by
  have fresh : id ≠ world.governance.proposalCount + 1 :=
    Nat.ne_of_lt (Nat.lt_succ_of_le (wellFiled id proposal stored).numbered)
  refine ⟨proposal, ?_, .kept action⟩
  rw [enroll, get_setProposal, if_neg fresh]
  exact stored

theorem Configures.turn {env : Env host} {call : ConfigurationCall}
    {governance : Governance → Governance} {discounts : Discounts → Discounts} {initializes : Bool}
    (configures : Configures env world call governance discounts initializes)
    (wellFiled : WellFiled world.governance)
    (stored : world.governance.proposal.get id = some proposal) :
    ∃ next, (governance world.governance).proposal.get id = some next ∧
      Turn world id proposal (.call env (.configure call) : Action host Registry) next := by
  cases configures with
  | initialized | codeCreated | hashesAdded => exact ⟨proposal, stored, .kept _⟩
  | proposed | escrowProposed => exact turn_enroll wellFiled stored
  | voted voter target before governs of =>
    exact turn_setProposal stored rfl of.stored (wellFiled target before of.stored).keyed
      (.voted env voter governs of)
  | approved target admin before adminEq of =>
    exact turn_setProposal stored rfl of.stored (wellFiled target before of.stored).keyed
      (.approved env admin adminEq of)
  | executed executor target before of =>
    exact turn_setProposal stored (seat_proposals before.change _).1 of.stored
      (wellFiled target before of.stored).keyed (.executed env executor of)
  | escrowExecuted target before found enough =>
    exact turn_setProposal stored rfl found (wellFiled target before found).keyed
      (.escrowExecuted env enough)

/-- A stored proposal stays stored, and a step gives it one turn at most. -/
theorem step_turn [RegistryApi Registry] (escrow : world.escrowState = .empty)
    (wellFiled : WellFiled world.governance)
    (stored : world.governance.proposal.get id = some proposal) :
    ∃ next, (step world action).governance.proposal.get id = some next ∧
      Turn world id proposal action next := by
  obtain ⟨same, -⟩ | ⟨env, call, governance, discounts, initializes, rfl, configures, same, -⟩ :=
    step_governs escrow action
  · exact ⟨proposal, same ▸ stored, .kept action⟩
  · rw [same]
    exact configures.turn wellFiled stored

/-! ### Full votes -/

/-- The proposal is marked as executed. -/
def IsExecuted (world : World Registry) (id : Nat) : Prop :=
  (world.governance.proposal.get id).map (·.status) = some .executed

instance (world : World Registry) (id : Nat) : Decidable (IsExecuted world id) :=
  inferInstanceAs (Decidable (_ = _))

/-- The voters of the proposal, of whom there are none when it is not stored. -/
def votersOf (world : World Registry) (id : Nat) : List Address :=
  ((world.governance.proposal.get id).map (·.voters)).getD []

/-- The entry points for escrow stay away from the vote on a proposal: an execution finds less
than two votes, and an approval comes from an admin who governs or has voted before. -/
def FairVote (id : Nat) (world : World Registry) : Action host Registry → Prop
  | .call _ (.configure (.executeEscrowWithdrawal target)) =>
    target = id → ∀ proposal, world.governance.proposal.get id = some proposal →
      proposal.voteCount < 2
  | .call _ (.configure (.approveEscrowWithdrawal target)) =>
    target = id → ∀ admin, world.settings.admin = some admin →
      isGovernor world.governance admin = true ∨ admin ∈ votersOf world id
  | _ => True

/-- In one of the steps of the run the address votes on the proposal, and governs then. -/
def VotesAsGovernor [RegistryApi Registry] (id : Nat) (start : World Registry)
    (actions : List (Action host Registry)) (voter : Address) : Prop :=
  ∃ world action, StepOf step start actions world action ∧ voter ∉ votersOf world id ∧
    voter ∈ votersOf (step world action) id ∧ isGovernor world.governance voter = true

/-- The proposal is stored with the terms under which it was made. -/
structure Tabled (timestamp : Nat) (change : ParameterChange) (proposal : ParameterProposal) :
    Prop where
  createdAt : proposal.createdAt = timestamp
  expiresAt : proposal.expiresAt = timestamp + proposalLifetime
  change : proposal.change = change

variable {change : ParameterChange}

theorem Turn.tabled {next : ParameterProposal} (turn : Turn world id proposal action next)
    (tabled : Tabled timestamp change proposal) :
    Tabled timestamp change next := by
  cases turn <;> exact ⟨tabled.createdAt, tabled.expiresAt, tabled.change⟩

/-- What holds of a proposal from its creation on. -/
structure Underway (host : Host) (id timestamp : Nat) (change : ParameterChange)
    (world : World Registry) : Prop where
  wellformed : Wellformed host world
  governed : Governed world
  stored : ∃ proposal, world.governance.proposal.get id = some proposal ∧
    Tabled timestamp change proposal

section Underway

theorem Underway.step [RegistryApi Registry] (underway : Underway host id timestamp change world)
    (action : Action host Registry) : Underway host id timestamp change (step world action) := by
  obtain ⟨wellformed, governed, proposal, stored, tabled⟩ := underway
  obtain ⟨next, nextStored, turn⟩ := step_turn wellformed.escrowState governed.proposals stored
  exact ⟨step_wellformed world action wellformed, step_governed wellformed.escrowState action
    governed, next, nextStored, turn.tabled tabled⟩

theorem votersOf_of_stored (stored : world.governance.proposal.get id = some proposal) :
    votersOf world id = proposal.voters := by
  rw [votersOf, stored]
  rfl

theorem isExecuted_iff_of_stored (stored : world.governance.proposal.get id = some proposal) :
    IsExecuted world id ↔ proposal.status = .executed := by
  rw [IsExecuted, stored]
  exact Option.some_inj

variable [RegistryApi Registry]

/-- Who is counted as a voter in a fair step governs then. -/
theorem Underway.vote_of_governor (underway : Underway host id timestamp change world)
    (fair : FairVote id world action) {voter : Address} (unvoted : voter ∉ votersOf world id)
    (votes : voter ∈ votersOf (TicketPayment.step world action) id) :
    isGovernor world.governance voter = true := by
  obtain ⟨wellformed, governed, proposal, stored, -⟩ := underway
  obtain ⟨next, nextStored, turn⟩ := step_turn wellformed.escrowState governed.proposals stored
  rw [votersOf_of_stored nextStored] at votes
  rw [votersOf_of_stored stored] at unvoted
  cases turn with
  | kept | executed | escrowExecuted => exact absurd votes unvoted
  | voted env other governs of =>
    obtain before | same := List.mem_append.mp votes
    · exact absurd before unvoted
    · exact List.mem_singleton.mp same ▸ governs
  | approved env admin adminEq of =>
    obtain before | same := List.mem_append.mp votes
    · exact absurd before unvoted
    · obtain governs | already := fair rfl admin adminEq
      · exact List.mem_singleton.mp same ▸ governs
      · rw [votersOf_of_stored stored] at already
        exact absurd already of.unvoted

/-- What an execution of the proposal tells about the vote. -/
structure FullVote (world : World Registry) (id timestamp : Nat) (change : ParameterChange)
    (action : Action host Registry) (proposal : ParameterProposal) : Prop where
  tabled : Tabled timestamp change proposal
  of : ∃ env executor, action = .call env (.configure (.executeProposal executor id)) ∧
    ExecutionOf env.timestamp world id proposal
  inForce : InForce (TicketPayment.step world action) change

/-- A fair step that marks the proposal as executed carries out its change after a full vote. -/
theorem Underway.execution (underway : Underway host id timestamp change world)
    (fair : FairVote id world action) (pending : ¬IsExecuted world id)
    (executed : IsExecuted (TicketPayment.step world action) id) :
    ∃ proposal, FullVote world id timestamp change action proposal := by
  obtain ⟨wellformed, governed, proposal, stored, tabled⟩ := underway
  obtain ⟨next, nextStored, turn⟩ := step_turn wellformed.escrowState governed.proposals stored
  cases turn with
  | kept | voted | approved =>
    -- these turns leave the status as it is
    exact absurd ((isExecuted_iff_of_stored stored).mpr
      ((isExecuted_iff_of_stored nextStored).mp executed)) pending
  | escrowExecuted env enough => exact absurd (fair rfl proposal stored) (Nat.not_lt.mpr enough)
  | executed env executor of =>
    refine ⟨proposal, tabled, ⟨env, executor, rfl, of⟩, ?_⟩
    obtain ⟨fault, -, unchanged⟩ | ⟨value, run⟩ :=
      commit_cases (executeProposal env executor id) world
    · exact absurd (unchanged ▸ executed) pending
    · obtain ⟨same, sameOf, inForce, -⟩ := executeProposal_ensures value _ run
      cases stored.symm.trans sameOf.stored
      exact tabled.change ▸ inForce

end Underway

variable [RegistryApi Registry] {registry : Registry}

/-- A proposal is underway as soon as it is made. -/
theorem underway_of_creation {before : List (Action host Registry)}
    {creation : Env host} {opened : World Registry}
    (created : (proposeParameterChange creation proposer change).run (reached registry before) =
      .ok (id, opened)) :
    Underway host id creation.timestamp change opened ∧ votersOf opened id = [proposer] ∧
      isGovernor (reached registry before).governance proposer = true := by
  have next : opened = step (reached registry before)
      (.call creation (.configure (.proposeParameterChange proposer change))) := by
    simp only [step, callStep, configureStep, commit, created]
  obtain ⟨governs, rfl, does⟩ := proposeParameterChange_ensures _ _ created
  have wellformed := reached_wellformed registry before
  have governed := step_governed wellformed.escrowState
    (.call creation (.configure (.proposeParameterChange proposer change)))
    (reached_governed registry before)
  rw [← next] at governed
  have enrolled := congrArg (fun governance : Governance => governance.proposal.get
    ((reached registry before).governance.proposalCount + 1)) does.governance
  have stored := enrolled.trans ((get_setProposal _ _ _).trans (if_pos rfl))
  exact ⟨⟨next ▸ step_wellformed _ _ wellformed, governed, _, stored, rfl, rfl, rfl⟩,
    votersOf_of_stored stored, governs⟩

/-- A proposal made by a governor, on whose vote the entry points for escrow have no influence,
is executed only by a step of `execute_proposal` two days after its creation and before it
expires, with the votes of a majority, each given by a governor, and its change is in force then. -/
theorem executed_after_full_vote (registry : Registry) (before : List (Action host Registry))
    (creation : Env host) (proposer : Address) (change : ParameterChange) (id : Nat)
    (opened : World Registry)
    (created : (proposeParameterChange creation proposer change).run (reached registry before) =
      .ok (id, opened))
    (earlier : List (Action host Registry)) (action : Action host Registry)
    (fair : Respects step (FairVote id) opened (earlier ++ [action]))
    (pending : ¬IsExecuted (runActions step opened earlier) id)
    (executed : IsExecuted (step (runActions step opened earlier) action) id) :
    ∃ env executor proposal,
      action = .call env (.configure (.executeProposal executor id)) ∧
      (runActions step opened earlier).governance.proposal.get id = some proposal ∧
      (creation.timestamp + 172800 ≤ env.timestamp ∧ env.timestamp ≤ proposal.expiresAt) ∧
      (runActions step opened earlier).governance.totalGovernors / 2 + 1 ≤ proposal.voteCount ∧
      (∀ voter ∈ proposal.voters,
        voter = proposer ∧ isGovernor (reached registry before).governance proposer = true ∨
          VotesAsGovernor id opened earlier voter) ∧
      proposal.change = change ∧ InForce (step (runActions step opened earlier) action) change := by
  obtain ⟨start, firstVoter, governs⟩ := underway_of_creation created
  obtain ⟨fairBefore, fairLast, -⟩ := respects_append.mp fair
  have underway : ∀ actions, Underway host id creation.timestamp change
      (runActions step opened actions) := fun actions =>
    run_invariant _ (fun _ action underway => underway.step action) opened actions start
  obtain ⟨proposal, tabled, ⟨env, executor, rfl, of⟩, inForce⟩ :=
    (underway earlier).execution fairLast pending executed
  refine ⟨env, executor, proposal, rfl, of.stored, ⟨tabled.createdAt ▸ of.ripe, of.inTime⟩,
    of.enough, fun voter voted => ?_, tabled.change, inForce⟩
  by_cases first : voter ∈ votersOf opened id
  · rw [firstVoter, List.mem_singleton] at first
    exact .inl ⟨first, governs⟩
  · rw [← votersOf_of_stored of.stored] at voted
    obtain ⟨world, turn, taken, unvoted, votes⟩ :=
      exists_stepOf_becomes (fun world => voter ∈ votersOf world id) first voted
    have during : Underway host id creation.timestamp change world := by
      obtain ⟨passed, -, -, rfl⟩ := taken
      exact underway passed
    exact .inr ⟨world, turn, taken, unvoted, votes,
      during.vote_of_governor (fairBefore.stepOf taken) unvoted votes⟩

/-- The admin proposes another governor. -/
def bobProposed : List (Action EventRegistry.stage EventRegistry.Registry) :=
  setUp ++
    [.call (allSign 1) (.configure
      (.proposeParameterChange adminAddress (.addGovernor bobAddress)))]

def bobExecuted : Action EventRegistry.stage EventRegistry.Registry :=
  .call (allSign 200000) (.configure (.executeProposal aliceAddress 1))

/-- Two days later the only governor has a majority. -/
theorem bob_governs_after_full_vote :
    IsExecuted (step (reached (registryWith concert) bobProposed) bobExecuted) 1 ∧
      InForce (step (reached (registryWith concert) bobProposed) bobExecuted)
        (.addGovernor bobAddress) := by
  have executed : IsExecuted (step (reached (registryWith concert) bobProposed) bobExecuted) 1 := by
    decide
  obtain ⟨-, -, -, -, -, -, -, -, -, inForce⟩ := executed_after_full_vote (registryWith concert)
    setUp (allSign 1) adminAddress (.addGovernor bobAddress) 1
    (reached (registryWith concert) bobProposed) (run_eq_of_commit (by decide)) [] bobExecuted
    ⟨trivial, trivial⟩ (by decide) executed
  exact ⟨executed, inForce⟩

/-- Bob governs with the admin, and proposes a slippage. -/
def slippageProposed : List (Action EventRegistry.stage EventRegistry.Registry) :=
  bobProposed ++
    [bobExecuted,
      .call (allSign 300000) (.configure
        (.proposeParameterChange bobAddress (.updateSlippage 100))),
      .call (allSign 300001) (.configure (.approveEscrowWithdrawal 2))]

/-- The admin executes the proposal a second after approving it, and the slippage stays as it
was. -/
theorem parameter_change_executed_as_escrow_withdrawal :
    let approved := reached (registryWith concert) slippageProposed
    let next := step approved (.call (allSign 300002) (.configure (.executeEscrowWithdrawal 2)))
    approved.governance.proposal.get 2 =
        some ⟨2, bobAddress, .updateSlippage 100, .pending, 300000, 904800, 2,
          [bobAddress, adminAddress]⟩ ∧
      IsExecuted next 2 ∧ ¬300000 + 172800 ≤ 300002 ∧
      ¬InForce next (.updateSlippage 100) := by
  refine ⟨rfl, rfl, by decide, ?_⟩
  intro inForce
  cases inForce

/-! ### Majorities -/

/-- The proposal waits for `execute_proposal`, which refuses withdrawals from escrow. -/
def ParameterProposal.Awaits (proposal : ParameterProposal) : Prop :=
  proposal.status = .pending ∧ ∀ eventId amount, proposal.change ≠ .escrowWithdrawal eventId amount

/-- The voters of every proposal that waits govern. -/
def VotersSit (governance : Governance) : Prop :=
  ∀ id proposal, governance.proposal.get id = some proposal → proposal.Awaits →
    ∀ voter ∈ proposal.voters, isGovernor governance voter = true

/-- Votes and seats stay together: the admin approves a proposal that waits only when governing
or having voted before, and a governor is removed only when without a vote on any other such
proposal. -/
def KeepsMajorities (world : World Registry) : Action host Registry → Prop
  | .call _ (.configure (.approveEscrowWithdrawal id)) =>
    ∀ admin proposal, world.settings.admin = some admin →
      world.governance.proposal.get id = some proposal → proposal.Awaits →
      isGovernor world.governance admin = true ∨ admin ∈ proposal.voters
  | .call _ (.configure (.executeProposal _ id)) =>
    ∀ proposal governor, world.governance.proposal.get id = some proposal →
      proposal.change = .removeGovernor governor →
      ∀ other waiting, other ≠ id → world.governance.proposal.get other = some waiting →
        waiting.Awaits → governor ∉ waiting.voters
  | _ => True

section Sit

variable {governance : Governance}

theorem VotersSit.setProposal (sit : VotersSit governance) {written : ParameterProposal}
    (voters : written.Awaits → ∀ voter ∈ written.voters, isGovernor governance voter = true) :
    VotersSit (setProposal written governance) := by
  intro id proposal stored awaits
  rw [get_setProposal] at stored
  split at stored
  · cases stored
    exact voters awaits
  · exact sit id proposal stored awaits

theorem VotersSit.enroll (sit : VotersSit governance) (timestamp : Nat)
    (governs : (∀ eventId amount,
      change ≠ .escrowWithdrawal eventId amount) → isGovernor governance proposer = true) :
    VotersSit (enroll timestamp proposer change governance) := by
  have counted : VotersSit { governance with proposalCount := governance.proposalCount + 1 } := sit
  refine counted.setProposal fun awaits voter voted => ?_
  rw [List.mem_singleton.mp voted]
  exact governs awaits.2

theorem VotersSit.votedBy (sit : VotersSit governance) {id : Nat}
    (stored : governance.proposal.get id = some proposal) {voter : Address}
    (governs : proposal.Awaits → isGovernor governance voter = true) :
    VotersSit (TicketPayment.setProposal (proposal.votedBy voter) governance) := by
  refine sit.setProposal fun awaits other voted => ?_
  obtain before | same := List.mem_append.mp voted
  · exact sit id proposal stored awaits other before
  · rw [List.mem_singleton.mp same]
    exact governs awaits

theorem VotersSit.executed (sit : VotersSit governance) {proposal : ParameterProposal} :
    VotersSit (TicketPayment.setProposal { proposal with status := .executed } governance) :=
  sit.setProposal fun awaits => by cases awaits.1

/-- Who sits keeps the seat unless removed. -/
theorem isGovernor_seat {address : Address} (sits : isGovernor governance address = true)
    (stays : change ≠ .removeGovernor address) :
    isGovernor (seat change governance) address = true := by
  cases change with
  | addGovernor governor => rw [seat, isGovernor_addGovernor, sits, Bool.or_true]
  | removeGovernor governor =>
    have other : address ≠ governor := fun same => stays (same ▸ rfl)
    rw [seat, isGovernor_removeGovernor, sits, decide_eq_false other]
    rfl
  | _ => exact sits

theorem VotersSit.carryOut (sit : VotersSit governance) {id : Nat} (keyed : proposal.id = id)
    (safe : ∀ governor, proposal.change = .removeGovernor governor →
      ∀ other waiting, other ≠ id → governance.proposal.get other = some waiting →
        waiting.Awaits → governor ∉ waiting.voters) : VotersSit (carryOut proposal governance) := by
  intro other waiting stored awaits voter voted
  rw [TicketPayment.carryOut, get_setProposal, (seat_proposals proposal.change governance).1]
    at stored
  split at stored
  · cases stored
    cases awaits.1
  · rename_i different
    refine isGovernor_seat (sit other waiting stored awaits voter voted) fun removes => ?_
    exact safe voter removes other waiting (keyed ▸ different) stored awaits voted

end Sit

theorem step_votersSit (escrow : world.escrowState = .empty) (governed : Governed world)
    (keeps : KeepsMajorities world action) (sit : VotersSit world.governance) :
    VotersSit (step world action).governance := by
  obtain ⟨same, -⟩ | ⟨env, call, governance, discounts, initializes, rfl, configures, same, -⟩ :=
    step_governs escrow action
  · rw [same]
    exact sit
  rw [same]
  cases configures with
  | initialized config uninitialized =>
    rw [governed.vacant uninitialized]
    intro id proposal stored
    cases stored
  | codeCreated | hashesAdded => exact sit
  | proposed proposer change governs => exact sit.enroll _ fun _ => governs
  | escrowProposed eventId amount organizer =>
    exact sit.enroll _ fun other => absurd rfl (other _ _)
  | voted voter id proposal governs of => exact sit.votedBy of.stored fun _ => governs
  | approved id admin proposal adminEq of =>
    refine sit.votedBy of.stored fun awaits => ?_
    exact (keeps admin proposal adminEq of.stored awaits).resolve_right of.unvoted
  | executed executor id proposal of =>
    exact sit.carryOut (governed.proposals id proposal of.stored).keyed fun governor removes =>
      keeps proposal governor of.stored removes
  | escrowExecuted id proposal stored => exact sit.executed

theorem reached_votersSit {actions : List (Action host Registry)}
    (keeps : Respects step KeepsMajorities (.fresh registry) actions) :
    VotersSit (reached registry actions).governance :=
  (reached_invariant (fun world => Governed world ∧ VotersSit world.governance)
    (fun _ action keeps wellformed both => ⟨step_governed wellformed.escrowState action both.1,
      step_votersSit wellformed.escrowState both.1 keeps both.2⟩)
    keeps ⟨governed_fresh, fun _ _ stored => by cases stored⟩).2

/-- Where votes and seats stay together, the voters of a proposal that is executed include a
majority of the sitting governors. -/
theorem executed_by_sitting_majority (registry : Registry) (actions : List (Action host Registry))
    (keeps : Respects step KeepsMajorities (.fresh registry) actions) (env : Env host)
    (executor : Address) (id : Nat) :
    Ensures (executeProposal env executor id) (reached registry actions) fun _ _ =>
      ∃ proposal, (reached registry actions).governance.proposal.get id = some proposal ∧
        (reached registry actions).governance.totalGovernors / 2 + 1 ≤
          (proposal.voters.filter (isGovernor (reached registry actions).governance)).length := by
  refine executeProposal_ensures.mono ?_
  rintro _ _ ⟨proposal, of, -⟩
  have everyone := reached_votersSit keeps id proposal of.stored ⟨of.pending, of.notEscrow⟩
  have filed := (reached_governed registry actions).proposals id proposal of.stored
  refine ⟨proposal, of.stored, ?_⟩
  rw [List.filter_eq_self.mpr everyone, ← filed.counted]
  exact of.enough

/-- The vote of the admin makes Bob a governor. -/
theorem bob_governs_by_majority :
    Respects step KeepsMajorities (.fresh (registryWith concert)) bobProposed ∧
      Ensures (executeProposal (allSign 200000) aliceAddress 1)
        (reached (registryWith concert) bobProposed) fun _ _ =>
          ∃ proposal, (reached (registryWith concert) bobProposed).governance.proposal.get 1 =
            some proposal ∧ (reached (registryWith concert) bobProposed).governance.totalGovernors /
              2 + 1 ≤ (proposal.voters.filter (isGovernor
                (reached (registryWith concert) bobProposed).governance)).length :=
  have keeps : Respects step KeepsMajorities (.fresh (registryWith concert)) bobProposed :=
    ⟨trivial, trivial, trivial, trivial, trivial, trivial, trivial⟩
  ⟨keeps, executed_by_sitting_majority (registryWith concert) bobProposed keeps (allSign 200000)
    aliceAddress 1⟩

/-- Bob and Alice govern with the admin. Bob votes for a slippage proposed by the admin, and
loses the seat to the votes of the other two before it is executed. -/
def bobRemoved : List (Action EventRegistry.stage EventRegistry.Registry) :=
  bobProposed ++
    [bobExecuted,
      .call (allSign 200001) (.configure
        (.proposeParameterChange adminAddress (.addGovernor aliceAddress))),
      .call (allSign 200002) (.configure (.voteOnProposal bobAddress 2)),
      .call (allSign 400000) (.configure (.executeProposal aliceAddress 2)),
      .call (allSign 400001) (.configure
        (.proposeParameterChange adminAddress (.updateSlippage 100))),
      .call (allSign 400002) (.configure (.voteOnProposal bobAddress 3)),
      .call (allSign 400003) (.configure
        (.proposeParameterChange adminAddress (.removeGovernor bobAddress))),
      .call (allSign 400004) (.configure (.voteOnProposal aliceAddress 4)),
      .call (allSign 600000) (.configure (.executeProposal aliceAddress 4))]

/-- The slippage takes effect, with one vote of a sitting governor where two are needed. -/
theorem executed_without_sitting_majority :
    let world := reached (registryWith concert) bobRemoved
    let next := step world (.call (allSign 600001) (.configure (.executeProposal aliceAddress 3)))
    IsExecuted next 3 ∧ next.settings.slippageBps = some 100 ∧
      votersOf world 3 = [adminAddress, bobAddress] ∧
      world.governance.totalGovernors / 2 + 1 = 2 ∧
      ((votersOf world 3).filter (isGovernor world.governance)).length = 1 := by
  decide +kernel

end Agora.TicketPayment

/-
This file proves the bookkeeping of the governance: the number of governors that the
contract keeps beside their seats is the number of seats taken, it never falls to zero,
and every stored proposal counts its voters, of whom none is listed twice.

Seats and votes are written by separate entry points, and two families of entry points
write the same proposals. What each of them writes is said in `Configures`, so that
everything here is about one governance and the next.
-/

import Agora.EventRegistry.System
import Agora.TicketPayment.Reachable

namespace Agora.TicketPayment

open Soroban EventRegistry

variable {Registry : Type} {host : Host}

/-! ### Seats -/

/-- The addresses that govern. -/
def governors (governance : Governance) : Set Address :=
  {address | isGovernor governance address = true}

section Seats

variable (governance : Governance) (governor : Address)

theorem governors_finite : (governors governance).Finite := by
  refine governance.governor.finite.subset fun address sits unbound => ?_
  have absent : isGovernor governance address = false := by rw [isGovernor, unbound]; rfl
  exact Bool.false_ne_true (absent.symm.trans sits)

theorem governors_addGovernor :
    governors (addGovernor governor governance) = insert governor (governors governance) := by
  ext address
  simp [governors, isGovernor_addGovernor]

theorem governors_removeGovernor :
    governors (removeGovernor governor governance) = governors governance \ {governor} := by
  ext address
  simp [governors, isGovernor_removeGovernor, and_comm]

/-- The stored number of governors is the number of seats taken. -/
def SeatsCounted (governance : Governance) : Prop :=
  governance.totalGovernors = (governors governance).ncard

variable {governance}

theorem SeatsCounted.addGovernor (counted : SeatsCounted governance) :
    SeatsCounted (addGovernor governor governance) := by
  unfold SeatsCounted at counted ⊢
  rw [governors_addGovernor]
  unfold TicketPayment.addGovernor
  split
  · rename_i sits
    rw [Set.insert_eq_of_mem (show governor ∈ governors governance from sits)]
    exact counted
  · rename_i absent
    rw [Set.ncard_insert_of_notMem (show governor ∉ governors governance from absent)
      (governors_finite governance), ← counted]

theorem SeatsCounted.removeGovernor (counted : SeatsCounted governance) :
    SeatsCounted (removeGovernor governor governance) := by
  unfold SeatsCounted at counted ⊢
  rw [governors_removeGovernor]
  unfold TicketPayment.removeGovernor
  split
  · rename_i sits
    rw [Set.ncard_sdiff_singleton_of_mem (show governor ∈ governors governance from sits),
      ← counted]
  · rename_i absent
    rw [Set.sdiff_singleton_eq_self (show governor ∉ governors governance from absent)]
    exact counted

variable {change : ParameterChange}

theorem SeatsCounted.seat (counted : SeatsCounted governance) :
    SeatsCounted (seat change governance) := by
  cases change with
  | addGovernor governor => exact counted.addGovernor governor
  | removeGovernor governor => exact counted.removeGovernor governor
  | _ => exact counted

/-- A seat is left when the last but one may be given up at most. -/
theorem totalGovernors_seat_pos
    (remaining : ∀ governor, change = .removeGovernor governor → 1 < governance.totalGovernors)
    (positive : 1 ≤ governance.totalGovernors) : 1 ≤ (seat change governance).totalGovernors := by
  cases change with
  | addGovernor governor =>
    simp only [TicketPayment.seat, TicketPayment.addGovernor]
    split
    · exact positive
    · exact Nat.le_add_left 1 _
  | removeGovernor governor =>
    have several := remaining governor rfl
    simp only [TicketPayment.seat, TicketPayment.removeGovernor]
    split
    · exact Nat.le_sub_one_of_lt several
    · exact positive
  | _ => exact positive

end Seats

/-! ### Proposals -/

/-- A stored proposal carries its own number, and counts each of its voters once. -/
structure Filed (governance : Governance) (id : Nat) (proposal : ParameterProposal) : Prop where
  keyed : proposal.id = id
  numbered : id ≤ governance.proposalCount
  nodup : proposal.voters.Nodup
  counted : proposal.voteCount = proposal.voters.length

/-- Every stored proposal is filed in good order. -/
def WellFiled (governance : Governance) : Prop :=
  ∀ id proposal, governance.proposal.get id = some proposal → Filed governance id proposal

variable {governance : Governance} {id : Nat} {proposal : ParameterProposal}

theorem Filed.votedBy (filed : Filed governance id proposal) {voter : Address}
    (unvoted : voter ∉ proposal.voters) :
    Filed governance id (proposal.votedBy voter) where
  keyed := filed.keyed
  numbered := filed.numbered
  nodup := List.nodup_append.mpr ⟨filed.nodup, List.nodup_singleton voter, by
    rintro earlier voted _ later rfl
    rw [List.mem_singleton] at later
    exact unvoted (later ▸ voted)⟩
  counted := by
    simp [ParameterProposal.votedBy, filed.counted]

theorem Filed.withStatus (filed : Filed governance id proposal) (status : ProposalStatus) :
    Filed governance id { proposal with status := status } :=
  ⟨filed.keyed, filed.numbered, filed.nodup, filed.counted⟩

theorem WellFiled.setProposal (wellFiled : WellFiled governance)
    (filed : Filed governance id proposal) : WellFiled (setProposal proposal governance) := by
  intro other stored found
  rw [TicketPayment.setProposal, Store.get_set, filed.keyed] at found
  split at found
  · rename_i same
    cases found
    exact same ▸ ⟨filed.keyed, filed.numbered, filed.nodup, filed.counted⟩
  · have before := wellFiled other stored found
    exact ⟨before.keyed, before.numbered, before.nodup, before.counted⟩

theorem WellFiled.enroll (wellFiled : WellFiled governance) {timestamp : Nat} {proposer : Address}
    {change : ParameterChange} : WellFiled (enroll timestamp proposer change governance) := by
  have counted : WellFiled { governance with proposalCount := governance.proposalCount + 1 } := by
    intro id proposal stored
    have before := wellFiled id proposal stored
    exact ⟨before.keyed, Nat.le_succ_of_le before.numbered, before.nodup, before.counted⟩
  exact counted.setProposal ⟨rfl, le_rfl, List.nodup_singleton proposer, rfl⟩

theorem seat_proposals (change : ParameterChange) (governance : Governance) :
    (seat change governance).proposal = governance.proposal ∧
      (seat change governance).proposalCount = governance.proposalCount := by
  cases change with
  | addGovernor governor => simp only [seat, addGovernor]; split <;> exact ⟨rfl, rfl⟩
  | removeGovernor governor => simp only [seat, removeGovernor]; split <;> exact ⟨rfl, rfl⟩
  | _ => exact ⟨rfl, rfl⟩

theorem WellFiled.seat (wellFiled : WellFiled governance) (change : ParameterChange) :
    WellFiled (seat change governance) := by
  obtain ⟨same, count⟩ := seat_proposals change governance
  intro id proposal stored
  have before := wellFiled id proposal (same ▸ stored)
  exact ⟨before.keyed, count ▸ before.numbered, before.nodup, before.counted⟩

theorem WellFiled.carryOut (wellFiled : WellFiled governance)
    (stored : governance.proposal.get id = some proposal) :
    WellFiled (carryOut proposal governance) := by
  have seated := wellFiled.seat proposal.change
  have kept := (seat_proposals proposal.change governance).1
  exact seated.setProposal ((seated id proposal (kept ▸ stored)).withStatus .executed)

/-! ### The governance over a run -/

/-- What a step does to the governance: nothing, or what a configuration call does. -/
def Governs (world : World Registry) (action : Action host Registry) (next : World Registry) :
    Prop :=
  (next.governance = world.governance ∧
      next.settings.initialized = world.settings.initialized) ∨
    ∃ env call governance discounts initializes, action = .call env (.configure call) ∧
      Configures env world call governance discounts initializes ∧
      next.governance = governance world.governance ∧
      next.settings.initialized = (world.settings.initialized || initializes)

variable {world : World Registry}

theorem step_governs [RegistryApi Registry] (escrow : world.escrowState = .empty)
    (action : Action host Registry) :
    Governs world action (step world action) := by
  obtain ⟨change, effect, does⟩ := step_takes escrow action
  cases effect with
  | configured env call governance discounts initializes configures =>
    exact .inr ⟨env, call, governance, discounts, initializes, rfl, configures, does.governance,
      does.initialized⟩
  | _ => exact .inl ⟨does.governance, does.initialized.trans (Bool.or_false _)⟩

/-- The governance of a contract that is not initialised. -/
def Governance.vacant : Governance := ⟨.empty, 0, .empty, 0⟩

structure Governed (world : World Registry) : Prop where
  seats : SeatsCounted world.governance
  proposals : WellFiled world.governance
  manned : world.settings.initialized = true → 1 ≤ world.governance.totalGovernors
  vacant : world.settings.initialized = false → world.governance = .vacant

theorem seatsCounted_vacant : SeatsCounted .vacant := by
  have empty : governors .vacant = ∅ := Set.eq_empty_of_forall_notMem fun _ => Bool.false_ne_true
  rw [SeatsCounted, empty, Set.ncard_empty]
  rfl

theorem seatsCounted_seatAdmin {admin : Address} : SeatsCounted (seatAdmin admin .vacant) :=
  seatsCounted_vacant.addGovernor admin

theorem wellFiled_vacant : WellFiled .vacant := by
  intro id proposal stored
  cases stored

theorem governed_fresh {registry : Registry} : Governed (.fresh registry) where
  seats := seatsCounted_vacant
  proposals := wellFiled_vacant
  manned := fun absurdity => by cases absurdity
  vacant _ := rfl

section Keep

variable {next : World Registry}

theorem Governed.initialized_of_governor (governed : Governed world) {governor : Address}
    (sits : isGovernor world.governance governor = true) : world.settings.initialized = true := by
  by_contra uninitialized
  rw [governed.vacant (Bool.eq_false_of_not_eq_true uninitialized)] at sits
  cases sits

theorem Governed.initialized_of_stored (governed : Governed world) {id : Nat}
    {proposal : ParameterProposal} (stored : world.governance.proposal.get id = some proposal) :
    world.settings.initialized = true := by
  by_contra uninitialized
  rw [governed.vacant (Bool.eq_false_of_not_eq_true uninitialized)] at stored
  cases stored

/-- Once the contract is initialised, it stays so, and the seats stay taken. -/
theorem Governed.of_manned (initialized : next.settings.initialized = true)
    (seats : SeatsCounted next.governance) (proposals : WellFiled next.governance)
    (manned : 1 ≤ next.governance.totalGovernors) : Governed next where
  seats := seats
  proposals := proposals
  manned _ := manned
  vacant uninitialized := by
    rw [initialized] at uninitialized
    cases uninitialized

theorem Governed.of_same (governed : Governed world) (same : next.governance = world.governance)
    (still : next.settings.initialized = world.settings.initialized) : Governed next where
  seats := same ▸ governed.seats
  proposals := same ▸ governed.proposals
  manned initialized := same ▸ governed.manned (still ▸ initialized)
  vacant uninitialized := same.trans (governed.vacant (still ▸ uninitialized))

/-- A write to a proposal leaves the seats as they are. -/
theorem Governed.of_proposals (governed : Governed world)
    (initialized : world.settings.initialized = true) {write : Governance → Governance}
    (same : next.governance = write world.governance)
    (still : next.settings.initialized = (world.settings.initialized || false))
    (proposals : WellFiled (write world.governance))
    (seats : (write world.governance).governor = world.governance.governor)
    (total : (write world.governance).totalGovernors = world.governance.totalGovernors) :
    Governed next := by
  rw [← same] at proposals seats total
  refine .of_manned (still.trans (by rw [initialized]; rfl)) ?_ proposals
    (total ▸ governed.manned initialized)
  have sitting : governors next.governance = governors world.governance := by
    simp only [governors, isGovernor, seats]
  rw [SeatsCounted, sitting, total]
  exact governed.seats

theorem Configures.governed {env : Env host} {call : ConfigurationCall}
    {governance : Governance → Governance} {discounts : Discounts → Discounts}
    {initializes : Bool} (configures : Configures env world call governance discounts initializes)
    (governed : Governed world) (same : next.governance = governance world.governance)
    (still : next.settings.initialized = (world.settings.initialized || initializes)) :
    Governed next := by
  have wellFiled := governed.proposals
  cases configures with
  | initialized config uninitialized =>
    rw [governed.vacant uninitialized] at same
    refine .of_manned (still.trans (Bool.or_true _)) ?_ ?_ ?_ <;> rw [same]
    · exact seatsCounted_seatAdmin
    · intro id proposal stored
      cases stored
    · exact le_rfl
  | codeCreated | hashesAdded => exact governed.of_same same (still.trans (Bool.or_false _))
  | proposed proposer change governs =>
    exact governed.of_proposals (governed.initialized_of_governor governs) same still
      wellFiled.enroll rfl rfl
  | escrowProposed eventId amount organizer initialized =>
    exact governed.of_proposals initialized same still wellFiled.enroll rfl rfl
  | voted voter id proposal governs of =>
    have filed := (wellFiled id proposal of.stored).votedBy of.unvoted
    exact governed.of_proposals (governed.initialized_of_governor governs) same still
      (wellFiled.setProposal filed) rfl rfl
  | approved id admin proposal adminEq of =>
    have filed := (wellFiled id proposal of.stored).votedBy of.unvoted
    exact governed.of_proposals (governed.initialized_of_stored of.stored) same still
      (wellFiled.setProposal filed) rfl rfl
  | escrowExecuted id proposal stored enough =>
    have filed := (wellFiled id proposal stored).withStatus .executed
    exact governed.of_proposals (governed.initialized_of_stored stored) same still
      (wellFiled.setProposal filed) rfl rfl
  | executed executor id proposal of =>
    have initialized := governed.initialized_of_stored of.stored
    refine .of_manned (still.trans (by rw [initialized]; rfl)) ?_ ?_ ?_ <;> rw [same]
    · exact governed.seats.seat
    · exact wellFiled.carryOut of.stored
    · exact totalGovernors_seat_pos of.remaining (governed.manned initialized)

end Keep

variable [RegistryApi Registry]

theorem step_governed (escrow : world.escrowState = .empty) (action : Action host Registry)
    (governed : Governed world) : Governed (step world action) := by
  obtain ⟨same, still⟩ | ⟨env, call, governance, discounts, initializes, -, configures, same, still⟩
    := step_governs escrow action
  · exact governed.of_same same still
  · exact configures.governed governed same still

theorem reached_governed (registry : Registry) (actions : List (Action host Registry)) :
    Governed (reached registry actions) :=
  reached_invariant Governed
    (fun _ action _ wellformed => step_governed wellformed.escrowState action)
    (respects_true _ actions) governed_fresh

/-- Once the contract is initialised, the stored number of governors is the number of seats
taken, which is at least one, and every proposal counts its voters, none of them twice. -/
theorem governance_bookkeeping (registry : Registry) (actions : List (Action host Registry))
    (initialized : (reached registry actions).settings.initialized = true) :
    let governance := (reached registry actions).governance
    (governance.totalGovernors = {address | isGovernor governance address = true}.ncard ∧
        1 ≤ governance.totalGovernors) ∧
      ∀ id proposal, governance.proposal.get id = some proposal →
        proposal.voters.Nodup ∧ proposal.voteCount = proposal.voters.length := by
  have governed := reached_governed registry actions
  refine ⟨⟨governed.seats, governed.manned initialized⟩, fun id proposal stored => ?_⟩
  have filed := governed.proposals id proposal stored
  exact ⟨filed.nodup, filed.counted⟩

/-- The admin proposes another governor. -/
theorem governance_bookkeeping_proposed :
    let proposed := setUp ++ [.call (allSign 1) (.configure
      (.proposeParameterChange adminAddress (.addGovernor bobAddress)))]
    (reached (registryWith concert) proposed).governance.totalGovernors = 1 ∧
      ∀ id proposal, (reached (registryWith concert) proposed).governance.proposal.get id =
        some proposal → proposal.voters.Nodup ∧ proposal.voteCount = proposal.voters.length :=
  ⟨rfl, (governance_bookkeeping (registryWith concert) _ rfl).2⟩

end Agora.TicketPayment

/-
This file says exactly when a withdrawal of the organizer succeeds and what it
releases, and asks whether a milestone plan that is met in full releases everything.

The registry accepts a plan whose shares add up to the whole revenue. The payment
contract does not add them: it takes the highest share among the milestones met as the
level of the release. A plan of several milestones therefore never releases the rest.

The milestones of the escrow are another mechanism. A release takes their shares from the
organizer's part and sends nothing, and it counts how many were met, not which.
-/

import Agora.EventRegistry.Registration
import Agora.EventRegistry.System

namespace Agora.TicketPayment

open Soroban EventRegistry

variable {Registry : Type} [RegistryApi Registry] {host : Host}

/-! ### Withdrawals that succeed -/

/-- What a withdrawal releases, if anything. The outer option is the checked arithmetic. -/
def releasable (event : EventInfo) (balance : EventBalance) : Option (Option Int) :=
  (checkedAdd balance.organizerAmount balance.totalWithdrawn).bind fun totalRevenue =>
    if totalRevenue = 0 then some none
    else (mulDiv totalRevenue (releasePercent event) maxBps).bind fun maxAllowed =>
      (checkedSub maxAllowed balance.totalWithdrawn).map fun available =>
        if available ≤ 0 then none else some (min available balance.organizerAmount)

/-- The contract can send the amount, and no counter leaves its range. -/
structure CanRelease (host : Host) (world : World Registry) (eventId : EventId)
    (token target : Address) (amount : Int) : Prop where
  moves : world.tokens.CanMove token host.contract target amount
  organizer : InI128 ((world.books.getEventBalance eventId).organizerAmount - amount)
  withdrawn : InI128 ((world.books.getEventBalance eventId).totalWithdrawn + amount)
  escrowTotal : InI128 (world.books.activeEscrowTotal + -amount)
  escrow : InI128 (world.books.getActiveEscrowByToken token + -amount)

/-- The state after the amount was released. -/
def World.withRelease (host : Host) (world : World Registry) (eventId : EventId)
    (token target : Address) (amount : Int) : World Registry :=
  (((world.pay host token target amount [.released eventId token]).withBalance eventId
    { world.books.getEventBalance eventId with
      organizerAmount := (world.books.getEventBalance eventId).organizerAmount - amount
      totalWithdrawn := (world.books.getEventBalance eventId).totalWithdrawn + amount
      }).addEscrowTotal (-amount)).addEscrow token (-amount)

variable {outcome : Int → World Registry → Prop}

omit [RegistryApi Registry] in
theorem releaseFunds_succeeds (eventId : EventId) (token target : Address) (amount : Int)
    (world : World Registry) :
    Succeeds (releaseFunds host eventId token target (world.books.getEventBalance eventId) amount)
        world outcome ↔
      CanRelease host world eventId token target amount ∧
        outcome amount (world.withRelease host eventId token target amount) := by
  simp only [releaseFunds, checked, subtractFromActiveEscrowTotal, subtractFromActiveEscrowByToken,
    succeeds_rules, succeeds_payOut, succeeds_setEventBalance, succeeds_addToActiveEscrowTotal,
    succeeds_addToActiveEscrowByToken, checkedSub, checkedAdd, checkedI128_eq_some]
  constructor
  · rintro ⟨moves, _, ⟨organizer, rfl⟩, _, ⟨withdrawn, rfl⟩, escrowTotal, escrow, holds⟩
    exact ⟨⟨moves, organizer, withdrawn, escrowTotal, escrow⟩, holds⟩
  · rintro ⟨can, holds⟩
    exact ⟨can.moves, _, ⟨can.organizer, rfl⟩, _, ⟨can.withdrawn, rfl⟩, can.escrowTotal,
      can.escrow, holds⟩

/-- What a withdrawal that is due does. -/
def Withdraws (host : Host) (world : World Registry) (eventId : EventId) (token : Address)
    (event : EventInfo) (outcome : Int → World Registry → Prop) : Option Int → Prop
  | none => outcome 0 world
  | some amount => CanRelease host world eventId token event.organizerAddress amount ∧
      outcome amount (world.withRelease host eventId token event.organizerAddress amount)

theorem withdrawOrganizerFunds_succeeds (env : Env host) (eventId : EventId) (token : Address)
    (world : World Registry) :
    Succeeds (withdrawOrganizerFunds env eventId token) world outcome ↔
      ∃ event, MayWithdraw env world eventId event ∧
        ∃ due, releasable event (world.books.getEventBalance eventId) = some due ∧
          Withdraws host world eventId token event outcome due := by
  simp only [withdrawOrganizerFunds, requireGoal, checked, succeeds_rules, succeeds_getEvent,
    succeeds_requireAuth, succeeds_requireUndisputed, releaseFunds_succeeds]
  constructor
  · rintro ⟨registry, event, found, signed, delayFits, delayed, undisputed, uncancelled, goal,
      totalRevenue, totalEq, rest⟩
    refine ⟨event, ⟨registry, found, signed, delayFits, delayed, undisputed, uncancelled, goal⟩, ?_⟩
    rw [releasable, totalEq, Option.bind_some]
    rcases rest with ⟨zero, holds⟩ | ⟨nonzero, maxAllowed, allowedEq, available, availableEq, rest⟩
    · rw [if_pos zero]
      exact ⟨none, rfl, holds⟩
    · rw [if_neg nonzero, allowedEq, Option.bind_some, availableEq, Option.map_some]
      rcases rest with ⟨nothing, holds⟩ | ⟨something, can, holds⟩
      · rw [if_pos nothing]
        exact ⟨none, rfl, holds⟩
      · rw [if_neg something]
        exact ⟨_, rfl, can, holds⟩
  · rintro ⟨event, may, due, dueEq, withdraws⟩
    obtain ⟨totalRevenue, totalEq, dueEq⟩ := Option.bind_eq_some_iff.mp dueEq
    refine ⟨may.registry, event, may.found, may.signed, may.delayFits, may.delayed,
      may.undisputed, may.uncancelled, may.goal, totalRevenue, totalEq, ?_⟩
    split at dueEq
    · rename_i zero
      cases dueEq
      exact .inl ⟨zero, withdraws⟩
    · rename_i nonzero
      obtain ⟨maxAllowed, allowedEq, dueEq⟩ := Option.bind_eq_some_iff.mp dueEq
      obtain ⟨available, availableEq, rfl⟩ := Option.map_eq_some_iff.mp dueEq
      refine .inr ⟨nonzero, maxAllowed, allowedEq, available, availableEq, ?_⟩
      split at withdraws
      · exact .inl ⟨‹_›, withdraws⟩
      · exact .inr ⟨‹_›, withdraws⟩

/-! ### Plans that are met -/

/-- The loop over milestones that are all met. -/
theorem highest_of_met {supply : Int} {plan : List Milestone}
    (met : ∀ milestone ∈ plan, milestone.salesThreshold ≤ supply) {start : Nat} :
    plan.foldl (fun highest milestone =>
      if milestone.salesThreshold ≤ supply ∧ highest < milestone.releasePercent then
        milestone.releasePercent
      else highest) start = plan.foldl (fun highest milestone =>
        max highest milestone.releasePercent) start := by
  refine List.foldl_ext _ _ start fun highest milestone member => ?_
  by_cases higher : highest < milestone.releasePercent
  · rw [if_pos ⟨met milestone member, higher⟩, max_eq_right higher.le]
  · rw [if_neg fun both => higher both.2, max_eq_left (not_lt.mp higher)]

/-- The highest share bounds all shares, and is one of them unless it is the start. -/
theorem foldl_max_spec (plan : List Milestone) (start : Nat) :
    start ≤ plan.foldl (fun highest milestone => max highest milestone.releasePercent) start ∧
    (∀ milestone ∈ plan, milestone.releasePercent ≤
      plan.foldl (fun highest milestone => max highest milestone.releasePercent) start) ∧
    (plan.foldl (fun highest milestone => max highest milestone.releasePercent) start = start ∨
      ∃ milestone ∈ plan, milestone.releasePercent =
        plan.foldl (fun highest milestone => max highest milestone.releasePercent) start) := by
  induction plan generalizing start with
  | nil => exact ⟨le_rfl, fun _ absurdity => absurd absurdity List.not_mem_nil, .inl rfl⟩
  | cons milestone rest inductionHypothesis =>
    obtain ⟨above, bounds, attained⟩ := inductionHypothesis (max start milestone.releasePercent)
    simp only [List.foldl_cons, List.forall_mem_cons, List.exists_mem_cons_iff]
    refine ⟨(le_max_left _ _).trans above, ⟨(le_max_right _ _).trans above, bounds⟩, ?_⟩
    rcases attained with same | inRest
    · rw [same]
      exact (max_choice start milestone.releasePercent).imp id fun right => .inl right.symm
    · exact .inr (.inr inRest)

variable {plan : List Milestone}

theorem releasePercent_le_sum {milestone : Milestone} (member : milestone ∈ plan) :
    milestone.releasePercent ≤ (plan.map (·.releasePercent)).sum :=
  List.le_sum_of_mem (List.mem_map_of_mem member)

variable {event : EventInfo}

/-- The level of the release of a plan that is met in full: at most the whole revenue, and the
whole only if a single milestone carries it. -/
theorem releasePercent_of_met (planned : event.milestonePlan = some plan)
    (bounded : (plan.map (·.releasePercent)).sum ≤ maxBps)
    (full : (plan.map (·.releasePercent)).sum = maxBps)
    (met : ∀ milestone ∈ plan, milestone.salesThreshold ≤ event.currentSupply) :
    releasePercent event ≤ maxBps ∧
      (releasePercent event = maxBps ↔
        ∃ milestone ∈ plan, milestone.releasePercent = maxBps) := by
  have nonempty : plan ≠ [] := by
    rintro rfl
    cases full
  have level : releasePercent event =
      plan.foldl (fun highest milestone => max highest milestone.releasePercent) 0 := by
    rw [← highest_of_met met, releasePercent, planned]
    cases plan with
    | nil => exact absurd rfl nonempty
    | cons _ _ => rfl
  obtain ⟨_, bounds, attained⟩ := foldl_max_spec plan 0
  rw [← level] at bounds attained
  have below : releasePercent event ≤ maxBps := by
    rcases attained with zero | ⟨milestone, member, same⟩
    · rw [zero]
      exact Nat.zero_le _
    · rw [← same]
      exact (releasePercent_le_sum member).trans bounded
  refine ⟨below, fun whole => ?_, fun ⟨milestone, member, whole⟩ => ?_⟩
  · rcases attained with zero | ⟨milestone, member, same⟩
    · rw [zero] at whole
      cases whole
    · exact ⟨milestone, member, same.trans whole⟩
  · exact below.antisymm (whole ▸ bounds milestone member)

/-- A share of the revenue reaches the whole of it only as the whole share, or where the books
show no revenue. -/
theorem le_share_iff (total : Int) {bps : Nat} (bounded : bps ≤ maxBps) :
    total ≤ (total * bps).tdiv maxBps ↔ total ≤ 0 ∨ bps = maxBps := by
  rcases lt_or_ge 0 total with positive | nonpositive
  · have whole : (0 : Int) < maxBps := by decide
    rw [Int.tdiv_eq_ediv_of_nonneg (Int.mul_nonneg positive.le (Int.natCast_nonneg _)),
      Int.le_ediv_iff_mul_le whole]
    constructor
    · intro reaches
      have := le_of_mul_le_mul_left reaches positive
      omega
    · rintro (absurdity | rfl)
      · exact absurd positive (not_lt.mpr absurdity)
      · exact le_rfl
  · refine iff_of_true ?_ (.inl nonpositive)
    have share := (tdiv_share_bounds (Int.neg_nonneg_of_nonpos nonpositive)
      (Int.natCast_nonneg bps) (Int.ofNat_le.mpr bounded)).2
    rw [Int.neg_mul, Int.neg_tdiv] at share
    omega

/-! ### Withdrawals under a plan that is met -/

/-- The withdrawal succeeds and sends the organizer everything the event still has for them. -/
def ReleasesAll (env : Env host) (world : World Registry) (eventId : EventId) (token : Address)
    (event : EventInfo) : Prop :=
  Succeeds (withdrawOrganizerFunds env eventId token) world fun amount next =>
    amount = (world.books.getEventBalance eventId).organizerAmount ∧
    (next.books.getEventBalance eventId).organizerAmount = 0 ∧
    next.tokens.balance token event.organizerAddress =
      world.tokens.balance token event.organizerAddress +
        (world.books.getEventBalance eventId).organizerAmount

/-- The arithmetic and the transfer of the withdrawal go through. -/
def Payable (host : Host) (world : World Registry) (eventId : EventId) (token : Address)
    (event : EventInfo) : Prop :=
  ∃ due, releasable event (world.books.getEventBalance eventId) = some due ∧
    ∀ amount ∈ due, CanRelease host world eventId token event.organizerAddress amount

omit [RegistryApi Registry] in
theorem withRelease_reads {host : Host} (world : World Registry) (eventId : EventId)
    (token : Address) {target : Address} (outside : target ≠ host.contract) (amount : Int) :
    ((world.withRelease host eventId token target amount).books.getEventBalance
        eventId).organizerAmount =
      (world.books.getEventBalance eventId).organizerAmount - amount ∧
    (world.withRelease host eventId token target amount).tokens.balance token target =
      world.tokens.balance token target + amount := by
  constructor
  · simp [World.withRelease, World.addEscrow, World.addEscrowTotal, World.withBalance,
      Books.getEventBalance]
  · simp [World.withRelease, World.addEscrow, World.addEscrowTotal, World.withBalance, World.pay,
      World.note, Tokens.move, Tokens.moved, outside]

variable {world : World Registry} {eventId : EventId} {env : Env host}

/-- A withdrawal that may be made releases everything exactly when what is due is everything. -/
theorem releasesAll_iff {token : Address} (may : MayWithdraw env world eventId event) :
    ReleasesAll env world eventId token event ↔
      ∃ due, releasable event (world.books.getEventBalance eventId) = some due ∧
        (∀ amount ∈ due, CanRelease host world eventId token event.organizerAddress amount) ∧
        due.getD 0 = (world.books.getEventBalance eventId).organizerAmount := by
  rw [ReleasesAll, withdrawOrganizerFunds_succeeds]
  have outside := ne_contract_of_signed env may.signed
  constructor
  · rintro ⟨other, mayOther, due, dueEq, withdraws⟩
    cases may.found.symm.trans mayOther.found
    refine ⟨due, dueEq, ?_⟩
    cases due with
    | none => exact ⟨fun _ absurdity => (nomatch absurdity), withdraws.1⟩
    | some amount =>
      obtain ⟨can, all, _⟩ := withdraws
      refine ⟨fun other same => ?_, all⟩
      cases same
      exact can
  · rintro ⟨due, dueEq, can, all⟩
    refine ⟨event, may, due, dueEq, ?_⟩
    cases due with
    | none =>
      have nothing : (world.books.getEventBalance eventId).organizerAmount = 0 := all.symm
      exact ⟨all, nothing, by rw [nothing, Int.add_zero]⟩
    | some amount =>
      obtain ⟨organizer, paid⟩ := withRelease_reads world eventId token outside amount
      obtain rfl : amount = _ := all
      exact ⟨can _ rfl, rfl, organizer.trans (Int.sub_self _), paid⟩

variable {balance : EventBalance}

/-- What is due is everything exactly when nothing is left, when a positive revenue is released
in full, or when the books show a negative revenue. -/
theorem due_eq_all_iff {due : Option Int} (bounded : releasePercent event ≤ maxBps)
    (dueEq : releasable event balance = some due) (nonneg : ∀ amount ∈ due, 0 ≤ amount) :
    due.getD 0 = balance.organizerAmount ↔
      balance.organizerAmount = 0 ∨ 0 < balance.organizerAmount ∧
        (balance.organizerAmount + balance.totalWithdrawn < 0 ∨
          0 < balance.organizerAmount + balance.totalWithdrawn ∧
            releasePercent event = maxBps) := by
  obtain ⟨totalRevenue, totalEq, dueEq⟩ := Option.bind_eq_some_iff.mp dueEq
  replace totalEq := eq_of_checkedAdd totalEq
  have share := le_share_iff totalRevenue bounded
  split at dueEq
  · cases dueEq
    rw [Option.getD_none]
    omega
  · obtain ⟨maxAllowed, allowedEq, dueEq⟩ := Option.bind_eq_some_iff.mp dueEq
    obtain ⟨available, availableEq, rfl⟩ := Option.map_eq_some_iff.mp dueEq
    rw [← eq_of_mulDiv allowedEq] at share
    replace availableEq := eq_of_checkedSub availableEq
    split at nonneg
    · rename_i nothing
      rw [if_pos nothing, Option.getD_none]
      omega
    · rename_i something
      rw [if_neg something, Option.getD_some]
      have amountNonneg := nonneg _ rfl
      omega

/-- For a plan that the registry accepted, whose shares add up to the whole revenue and whose
milestones are all met, a withdrawal that may be made releases all that is left exactly when it
can be paid and nothing is left or one milestone carries the whole share. (The books may also
show a negative revenue, where the level does not matter.) -/
theorem met_plan_releases_all_iff (platform : Platform) (signed : Address → Bool)
    (args : EventRegistrationArgs) (before registered : EventRegistry.Registry)
    (plan : List Milestone) (handedIn : args.milestonePlan = some plan)
    (accepted : (registerEvent platform signed args).run before = .ok ((), registered))
    (full : (plan.map (·.releasePercent)).sum = maxBps)
    (env : Env host) (world : World Registry) (eventId : EventId) (token : Address)
    (event : EventInfo) (planned : event.milestonePlan = some plan)
    (met : ∀ milestone ∈ plan, milestone.salesThreshold ≤ event.currentSupply)
    (may : MayWithdraw env world eventId event) :
    ReleasesAll env world eventId token event ↔
      Payable host world eventId token event ∧
        ((world.books.getEventBalance eventId).organizerAmount = 0 ∨
          0 < (world.books.getEventBalance eventId).organizerAmount ∧
            ((world.books.getEventBalance eventId).organizerAmount +
                (world.books.getEventBalance eventId).totalWithdrawn < 0 ∨
              0 < (world.books.getEventBalance eventId).organizerAmount +
                  (world.books.getEventBalance eventId).totalWithdrawn ∧
                ∃ milestone ∈ plan, milestone.releasePercent = maxBps)) := by
  have bounded := (EventRegistry.registerEvent_ensures () registered accepted).2.2.1 plan handedIn
  obtain ⟨below, whole⟩ := releasePercent_of_met planned bounded full met
  rw [releasesAll_iff may, ← whole]
  constructor
  · rintro ⟨due, dueEq, can, all⟩
    exact ⟨⟨due, dueEq, can⟩,
      (due_eq_all_iff below dueEq fun amount member => (can amount member).moves.1).mp all⟩
  · rintro ⟨⟨due, dueEq, can⟩, condition⟩
    exact ⟨due, dueEq, can,
      (due_eq_all_iff below dueEq fun amount member => (can amount member).moves.1).mpr condition⟩

/-- The concert, handed in with a milestone plan. -/
def concertArgs (plan : List Milestone) : EventRegistrationArgs where
  eventId := "concert"
  organizerAddress := organizerAddress
  paymentAddress := organizerAddress
  metadataCid := EventRegistry.cidV0 ++ List.replicate 44 0x61
  maxSupply := 0
  milestonePlan := some plan
  tiers := Table.empty.set "general" generalTier
  refundDeadline := 0
  restockingFee := 0
  resaleCapBps := none
  minSalesTarget := none
  targetDeadline := none
  tags := none
  startTime := 0
  isPrivate := false
  endTime := 0
  acceptedTokens := []
  useGlobalWhitelist := true

/-- The registry before and after the concert is registered. -/
def noEvents : EventRegistry.Registry :=
  { EventRegistry.registryWith EventRegistry.concert with events := .empty }

def registerConcert (plan : List Milestone) : EventRegistry.Entry Unit :=
  registerEvent ⟨true, fun _ => false, 500⟩ (fun _ => true) (concertArgs plan)

/-- Two tickets of the registered concert are sold. -/
def soldUnder (plan : List Milestone) : World EventRegistry.Registry :=
  reached (commit (registerConcert plan) noEvents) (setUp ++
    [.call (allSign 1) (.processPayment (ticketFor aliceAddress "ticket" 1)),
      .call (allSign 1) (.processPayment (ticketFor aliceAddress "other" 1))])

theorem single_milestone_releases_all :
    ReleasesAll (allSign 2) (soldUnder [⟨2, 10000⟩]) "concert" usdcAddress
      ((((concertArgs [⟨2, 10000⟩]).event 500).sold "general" generalTier 1).sold "general"
        { generalTier with currentSold := 1 } 1).info :=
  (met_plan_releases_all_iff ⟨true, fun _ => false, 500⟩ (fun _ => true)
    (concertArgs [⟨2, 10000⟩]) noEvents _ [⟨2, 10000⟩] rfl rfl rfl (allSign 2)
    (soldUnder [⟨2, 10000⟩]) "concert" usdcAddress _ rfl (by decide)
    ⟨rfl, rfl, rfl, .inl rfl, .inl rfl, rfl, by decide, by decide⟩).mpr
    ⟨⟨some 1900, rfl, fun _ same => by
        cases same
        exact ⟨by decide, by decide, by decide, by decide, by decide⟩⟩,
      .inr ⟨by decide, .inr ⟨by decide, ⟨2, 10000⟩, List.mem_singleton_self _, rfl⟩⟩⟩

/-- Two milestones of one half each are both met, and half of the revenue stays. -/
theorem half_of_met_plan_stays :
    let plan : List Milestone := [⟨1, 5000⟩, ⟨2, 5000⟩]
    let withdrawal := withdrawOrganizerFunds (allSign 2) "concert" usdcAddress
    let once := commit withdrawal (soldUnder plan)
    ((registerConcert plan).run noEvents).isOk = true ∧
      (plan.map (·.releasePercent)).sum = maxBps ∧
      ((soldUnder plan).registry.events.get "concert").map (·.currentSupply) = some 2 ∧
      ((soldUnder plan).books.getEventBalance "concert").organizerAmount = 1900 ∧
      (once.books.getEventBalance "concert").organizerAmount = 950 ∧
      ((commit withdrawal once).books.getEventBalance "concert").organizerAmount = 950 := by
  decide

/-! ### Milestones of the escrow -/

/-- The call releases the milestones of the escrow of an event, and the milestone at the index
adds to the amount. -/
def Contributes (eventId : EventId) (index : Nat) (world : World Registry)
    (action : Action host Registry) : Prop :=
  (∃ env, action = .call env (.configure (.releaseMilestoneEscrow eventId))) ∧
    ∃ event state milestone, RegistryApi.getEvent world.registry eventId = some event ∧
      world.escrowState.get eventId = some state ∧ state.milestonesReached ≤ index ∧
      (getEscrowMilestones world eventId)[index]? = some milestone ∧
      milestone.released = false ∧ milestone.salesThreshold ≤ event.currentSupply ∧
      10000 ≤ (world.books.getEventBalance eventId).organizerAmount * milestone.releasePercent

/-- No milestone contributes twice. No step makes the organizer's part negative, and what it takes
from this part the organizer receives. -/
structure ReleasesSoundly (eventId : EventId) (token organizer : Address) (world : World Registry)
    (actions : List (Action host Registry)) : Prop where
  once : ∀ index earlier first between second rest,
    actions = earlier ++ first :: between ++ second :: rest →
    Contributes eventId index (runActions step world earlier) first →
    ¬Contributes eventId index (runActions step world (earlier ++ first :: between)) second
  nonneg : ∀ state action, StepOf step world actions state action →
    0 ≤ (state.books.getEventBalance eventId).organizerAmount →
    0 ≤ ((step state action).books.getEventBalance eventId).organizerAmount
  sent : ∀ state action, StepOf step world actions state action →
    (step state action).tokens.balance token organizer - state.tokens.balance token organizer =
      (state.books.getEventBalance eventId).organizerAmount -
        ((step state action).books.getEventBalance eventId).organizerAmount

omit [RegistryApi Registry] in
/-- Milestones without a share add nothing up. -/
theorem milestoneTurns_idle
    {milestones : List EscrowMilestone} (world : World Registry)
    (idle : ∀ milestone ∈ milestones, milestone.released = false →
      milestone.salesThreshold ≤ event.currentSupply →
      balance.organizerAmount * milestone.releasePercent < 10000) (totals : MilestoneTotals) :
    Ensures (milestones.foldlM (milestoneTurn event balance) totals) world
      fun result next => result.released = totals.released ∧ next = world := by
  induction milestones generalizing totals with
  | nil => simp [ensures_rules]
  | cons milestone rest inductionHypothesis =>
    obtain ⟨first, others⟩ := List.forall_mem_cons.mp idle
    rw [List.foldlM_cons, milestoneTurn]
    simp only [checked, ensures_rules]
    refine ⟨?_, fun _ => inductionHypothesis others totals⟩
    rintro ⟨unflagged, met⟩ amount computed
    have quotient := eq_of_mulDiv computed
    refine ⟨fun positive => ?_, fun _ => inductionHypothesis others _⟩
    have small := first unflagged met
    rw [Int.tdiv_eq_ediv, show Int.sign 10000 = 1 from rfl] at quotient
    split at quotient <;> omega

theorem releaseMilestoneEscrow_idle
    (idle : ∀ index, ¬Contributes eventId index world
      (.call env (.configure (.releaseMilestoneEscrow eventId)))) :
    Ensures (releaseMilestoneEscrow env eventId) world fun _ next => next = world := by
  simp only [releaseMilestoneEscrow, ensures_rules, ensures_getEvent, ensures_checks]
  intro _ event found _ _ state stored
  refine (milestoneTurns_idle world ?_ _).mono ?_
  · intro milestone member unflagged met
    obtain ⟨index, place⟩ := List.mem_iff_getElem?.mp member
    rw [List.getElem?_drop] at place
    exact not_le.mp fun share => idle _ ⟨⟨env, rfl⟩, event, state, milestone, found, stored,
      Nat.le_add_right _ _, place, unflagged, met, share⟩
  · rintro totals _ ⟨none, rfl⟩
    exact ⟨fun _ => rfl, fun some => absurd none some⟩

theorem milestones_released_soundly (eventId : EventId) (token organizer : Address)
    (world : World Registry) (actions : List (Action host Registry))
    (releases : ∀ action ∈ actions, (∃ next, action = .registry next) ∨
      ∃ env, action = .call env (.configure (.releaseMilestoneEscrow eventId)))
    (idle : Respects step (fun world action => ∀ index, ¬Contributes eventId index world action)
      world actions) :
    ReleasesSoundly eventId token organizer world actions := by
  have kept : ∀ state action, StepOf step world actions state action →
      (step state action).books = state.books ∧ (step state action).tokens = state.tokens := by
    intro state action taken
    have none := idle.stepOf taken
    obtain ⟨earlier, later, rfl, -⟩ := taken
    rcases releases action (by simp) with ⟨next, rfl⟩ | ⟨env, rfl⟩
    · exact ⟨rfl, rfl⟩
    · have same : step state (.call env (.configure (.releaseMilestoneEscrow eventId))) = state :=
        commit_keeps id (releaseMilestoneEscrow_idle none)
      rw [same]
      exact ⟨rfl, rfl⟩
  refine ⟨?_, ?_, ?_⟩
  · rintro index earlier first between second rest rfl _
    exact idle.stepOf ⟨earlier ++ first :: between, rest, rfl, rfl⟩ index
  · intro state action taken
    rw [(kept state action taken).1]
    exact id
  · intro state action taken
    rw [(kept state action taken).1, (kept state action taken).2, sub_self, sub_self]

/-- The concert is over with a number of tickets sold. -/
def concertOver (supply : Int) : Action stage EventRegistry.Registry :=
  .registry (EventRegistry.registryWith
    { EventRegistry.concert with isActive := false, status := .cancelled, currentSupply := supply })

def releaseOfConcert : Action stage EventRegistry.Registry :=
  .call (allSign 3) (.configure (.releaseMilestoneEscrow "concert"))

/-- Two tickets are sold, and the escrow of the concert has two milestones of one half each. -/
def concertEscrowed : World EventRegistry.Registry :=
  { soldUnder [⟨2, 10000⟩] with
    escrowState := Store.empty.set "concert" ⟨1900, 0, 0⟩
    escrowMilestone := (Store.empty.set ("concert", 0) ⟨10, 5000, false⟩).set ("concert", 1)
      ⟨5, 5000, false⟩ }

theorem unmet_milestones_released_soundly :
    ReleasesSoundly "concert" usdcAddress organizerAddress concertEscrowed
      [concertOver 4, releaseOfConcert] := by
  refine milestones_released_soundly "concert" usdcAddress organizerAddress concertEscrowed _ ?_
    ⟨?_, ?_, trivial⟩
  · simp [concertOver, releaseOfConcert]
  · rintro index ⟨⟨_, ⟨⟩⟩, _⟩
  · rintro index ⟨-, _, _, milestone, ⟨⟩, ⟨⟩, -, found, -, met, -⟩
    have unmet : ∀ milestone ∈ getEscrowMilestones concertEscrowed "concert",
      ¬milestone.salesThreshold ≤ 4 := by decide
    exact unmet milestone (List.mem_of_getElem? found) met

/-- The second milestone is met first and counted as the first one. It is released twice, and
the organizer receives nothing. -/
theorem milestone_released_twice :
    let once := runActions step concertEscrowed [concertOver 5, releaseOfConcert, concertOver 10]
    Contributes "concert" 1 (step concertEscrowed (concertOver 5)) releaseOfConcert ∧
      Contributes "concert" 1 once releaseOfConcert ∧
      (concertEscrowed.books.getEventBalance "concert").organizerAmount = 1900 ∧
      ((step once releaseOfConcert).books.getEventBalance "concert").organizerAmount = 475 ∧
      (step once releaseOfConcert).tokens.balance usdcAddress organizerAddress =
        concertEscrowed.tokens.balance usdcAddress organizerAddress := by
  refine ⟨⟨⟨_, rfl⟩, _, _, ⟨5, 5000, false⟩, rfl, rfl, by decide⟩,
    ⟨⟨_, rfl⟩, _, _, ⟨5, 5000, false⟩, rfl, rfl, by decide⟩, by decide⟩

end Agora.TicketPayment

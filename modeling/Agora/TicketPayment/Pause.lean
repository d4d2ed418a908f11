/-
This file asks whether a paused contract stands still for everybody but its
administrator.

The flag is checked by each entry point for itself. The setters do not check it, but
touch neither tickets nor money. The withdrawal of the organizer does not check it
either, and pays: it is the one gap in the pause.
-/

import Agora.TicketPayment.Milestones
import Agora.TicketPayment.Reachable

namespace Agora.TicketPayment

open Soroban EventRegistry

variable {Registry : Type} [RegistryApi Registry] {host : Host}

/-! ### Calls of the administrator -/

/-- The settings that only the administrator changes. -/
def ConfigurationCall.AdminOnly : ConfigurationCall → Prop
  | .setPause _
  | .setOracle _
  | .setWithdrawalCap _ _
  | .setResaleRoyaltyBps _ _
  | .createDiscountCode _ _ _ _ _
  | .approveEscrowWithdrawal _
  | .executeEscrowWithdrawal _ => True
  | _ => False

/-- The calls that the administrator has to sign. -/
def Call.AdminOnly : Call → Prop
  | .configure call => call.AdminOnly
  | .confirmPayment _ _
  | .refund .admin _
  | .settlePlatformFees _
  | .withdrawPlatformFees _ _ => True
  | _ => False

variable {Value : Type} {env : Env host} {world : World Registry}

omit [RegistryApi Registry] in
theorem commit_unsigned
    (unsigned : ∀ admin, world.settings.admin = some admin → env.signed admin = false)
    (rest : Address → Entry Registry Value) : commit (requireAdmin env >>= rest) world = world := by
  refine (commit_of_ensures rfl ?_).symm
  simp only [ensures_bind, ensures_checks]
  intro admin adminEq signed
  rw [unsigned admin adminEq] at signed
  cases signed

variable {call : Call}

/-- These calls do nothing unless the administrator signs them. -/
theorem adminOnly_unsigned (privileged : call.AdminOnly)
    (unsigned : ∀ admin, world.settings.admin = some admin → env.signed admin = false) :
    callStep env world call = world := by
  cases call with
  | configure setting =>
    cases setting <;> first | exact commit_unsigned unsigned _ | cases privileged
  | refund path => cases path <;> first | exact commit_unsigned unsigned _ | cases privileged
  | settlePlatformFees | withdrawPlatformFees => exact commit_unsigned unsigned _
  | confirmPayment =>
    refine (commit_of_ensures rfl ?_).symm
    simp only [confirmPayment, ensures_rules, ensures_checks]
    intro _ admin adminEq signed
    rw [unsigned admin adminEq] at signed
    cases signed
  | _ => cases privileged

def Action.AdminOnly : Action host Registry → Prop
  | .call _ entry => entry.AdminOnly
  | _ => False

/-- The condition on a step: the administrator does not sign it. -/
def LacksAdmin (world : World Registry) : Action host Registry → Prop
  | .call env _ => ∀ admin ∈ world.settings.admin, env.signed admin = false
  | _ => True

open scoped Classical in
/-- Where the administrator signs nothing, the calls of the administrator can be left out of the
run. -/
theorem unsigned_admin_calls_erased (world : World Registry) (actions : List (Action host Registry))
    (unsigned : Respects step LacksAdmin world actions) :
    runActions step world actions =
      runActions step world (actions.filter fun action => ¬action.AdminOnly) := by
  induction actions generalizing world with
  | nil => rfl
  | cons action rest inductionHypothesis =>
    have tail := inductionHypothesis _ unsigned.2
    by_cases privileged : action.AdminOnly
    · have idle : step world action = world := by
        cases action with
        | call env call => exact adminOnly_unsigned privileged unsigned.1
        | registry | tokens => cases privileged
      rw [idle] at tail
      rw [List.filter_cons_of_neg (by simpa using privileged), ← tail]
      exact congrArg (runActions step · rest) idle
    · rw [List.filter_cons_of_pos (by simpa using privileged)]
      exact tail

open scoped Classical in
/-- Alice pauses the contract in vain. -/
theorem forged_pause_erased :
    let world := reached (registryWith concert) setUp
    let env : Env stage :=
      { allSign 1 with signed := (· = aliceAddress), contract_silent := by decide }
    let forged := .call env (.configure (.setPause true))
    runActions step world [forged] =
      runActions step world ([forged].filter fun action => ¬action.AdminOnly) :=
  unsigned_admin_calls_erased _ _
    ⟨fun admin set => (show adminAddress = admin from Option.some.inj set) ▸ rfl, trivial⟩

/-- The payments, balances, listings, bids and tokens are as they were. -/
structure Untouched (world next : World Registry) : Prop where
  payments : next.tickets = world.tickets
  balances : ∀ eventId, next.books.getEventBalance eventId = world.books.getEventBalance eventId
  listings : next.resale = world.resale
  bids : next.auctions = world.auctions
  tokens : next.tokens.balance = world.tokens.balance

omit [RegistryApi Registry] in
theorem Untouched.refl : Untouched world world :=
  ⟨rfl, fun _ => rfl, rfl, rfl, rfl⟩

/-! ### Settings -/

omit [RegistryApi Registry] in
theorem applyChange_untouched {change : ParameterChange} :
    Ensures (applyChange change) world fun _ next => Untouched world next := by
  cases change <;> simp only [applyChange, ensures_rules, ensures_throw] <;>
    intros <;> exact ⟨rfl, fun _ => rfl, rfl, rfl, rfl⟩

/-- No setting touches a ticket or money. -/
theorem configureStep_untouched (escrow : world.escrowState = .empty) {call : ConfigurationCall} :
    Untouched world (configureStep env world call) := by
  cases call with
  | releaseMilestoneEscrow eventId =>
    have uninitialized : world.escrowState.get eventId = none := by rw [escrow, Store.get_empty]
    exact commit_of_ensures (.refl)
      ((releaseMilestoneEscrow_ensures uninitialized).mono fun _ _ => False.elim)
  | executeProposal executor proposalId =>
    refine commit_of_ensures (.refl) ?_
    simp only [executeProposal, getProposal, ensures_bind, ensures_checks, ensures_get,
      ensures_require, ensures_orFault]
    intro _ proposal _ _ _ _ _
    refine applyChange_untouched.mono ?_
    intro _ applied untouched
    rw [ensures_modify]
    exact ⟨untouched.payments, untouched.balances, untouched.listings, untouched.bids,
      untouched.tokens⟩
  | approveEscrowWithdrawal proposalId =>
    refine commit_of_ensures (.refl) ?_
    simp only [approveEscrowWithdrawal, getProposal, ensures_rules, ensures_checks]
    intro _ _ _ _ _ _ _
    exact ⟨fun _ => .refl, fun _ => ⟨rfl, fun _ => rfl, rfl, rfl, rfl⟩⟩
  | _ =>
    -- checks, then one assignment to the settings, the discounts or the governance
    refine commit_of_ensures (.refl) ?_
    simp only [initializeContract, validateRecipient, setPause, setOracle, adminSets,
      setTransferFee, setAffiliateRate, setWithdrawalCap, setResaleRoyaltyBps, cancelEvent,
      organizerSets, createDiscountCode, addDiscountHashes, proposeParameterChange, openProposal,
      voteOnProposal, getProposal, proposeEscrowWithdrawal, executeEscrowWithdrawal,
      ensures_rules, ensures_checks, ensures_getEvent]
    intros
    exact ⟨rfl, fun _ => rfl, rfl, rfl, rfl⟩

/-! ### Stopped calls -/

omit [RegistryApi Registry] in
/-- A call that checks the flag first fails. -/
theorem commit_paused (paused : world.settings.isPaused = true)
    (rest : Unit → Entry Registry Value) :
    commit (requireInitialized >>= fun _ => requireNotPaused >>= rest) world = world := by
  refine (commit_of_ensures rfl ?_).symm
  simp only [ensures_bind, ensures_checks, paused]
  intro _ absurdity
  cases absurdity

/-- Every call but a setting, a withdrawal or one of the administrator is stopped. -/
theorem callStep_paused (paused : world.settings.isPaused = true) (unprivileged : ¬call.AdminOnly)
    (unconfigured : ∀ setting, call ≠ .configure setting)
    (unwithdrawn : ∀ eventId token, call ≠ .withdrawOrganizerFunds eventId token) :
    callStep env world call = world := by
  cases call with
  | configure setting => exact absurd rfl (unconfigured setting)
  | withdrawOrganizerFunds eventId token => exact absurd rfl (unwithdrawn eventId token)
  | confirmPayment | settlePlatformFees | withdrawPlatformFees => exact absurd trivial unprivileged
  | refund path paymentId =>
    cases path with
    | admin => exact absurd trivial unprivileged
    | guest | automatic => exact commit_paused paused _
  | processPayment purchase =>
    refine (commit_of_ensures rfl ?_).symm
    simp only [processPayment, checkPurchase, ensures_bind, ensures_checks, paused]
    intro _ absurdity
    cases absurdity
  | mintPoap paymentId =>
    refine (commit_of_ensures rfl ?_).symm
    simp only [mintPoap, ensures_rules, ensures_checks, paused]
    intro _ absurdity
    cases absurdity
  | claimRevenue eventId token =>
    refine (commit_of_ensures rfl ?_).symm
    simp only [claimRevenue, ensures_bind, ensures_checks, paused]
    intro absurdity
    cases absurdity
  | _ => exact commit_paused paused _

/-! ### The withdrawal -/

/-- The withdrawal of the organizer passes its checks and pays a positive amount. -/
def WithdrawalDue (env : Env host) (world : World Registry) : Call → Prop
  | .withdrawOrganizerFunds eventId token =>
    ∃ event amount, MayWithdraw env world eventId event ∧
      releasable event (world.books.getEventBalance eventId) = some (some amount) ∧ 0 < amount ∧
      CanRelease host world eventId token event.organizerAddress amount
  | _ => False

attribute [local simp] World.withRelease World.addEscrow World.addEscrowTotal World.withBalance
  World.pay World.note

variable {eventId : EventId} {token : Address}

omit [RegistryApi Registry] in
/-- Only a release of nothing goes unnoticed. -/
theorem withRelease_untouched_iff {target : Address} (outside : target ≠ host.contract)
    (amount : Int) :
    Untouched world (world.withRelease host eventId token target amount) ↔ amount = 0 := by
  constructor
  · intro untouched
    have paid := (withRelease_reads world eventId token outside amount).2
    rw [untouched.tokens] at paid
    omega
  · rintro rfl
    refine ⟨rfl, fun other => ?_, rfl, rfl, ?_⟩
    · by_cases same : other = eventId
      · simp [Books.getEventBalance, same]
      · simp [Books.getEventBalance, Store.get_set, same]
    · funext other holder
      simp [Tokens.move, Tokens.moved]

theorem withdrawal_untouched_iff :
    Untouched world (callStep env world (.withdrawOrganizerFunds eventId token)) ↔
      ¬WithdrawalDue env world (.withdrawOrganizerFunds eventId token) := by
  refine (commit_iff_ensures (.refl)).trans ?_
  rw [ensures_iff_not_succeeds, withdrawOrganizerFunds_succeeds]
  refine not_congr ⟨?_, ?_⟩
  · rintro ⟨event, may, due, dueEq, withdraws⟩
    cases due with
    | none => exact absurd (.refl) withdraws
    | some amount =>
      obtain ⟨can, touched⟩ := withdraws
      rw [withRelease_untouched_iff (ne_contract_of_signed env may.signed)] at touched
      have nonneg := can.moves.1
      exact ⟨event, amount, may, dueEq, by omega, can⟩
  · rintro ⟨event, amount, may, dueEq, positive, can⟩
    refine ⟨event, may, some amount, dueEq, can, ?_⟩
    show ¬Untouched world _
    rw [withRelease_untouched_iff (ne_contract_of_signed env may.signed)]
    omega

/-! ### Pauses -/

/-- While the contract is paused, a call that the administrator need not sign leaves tickets and
money untouched, unless it is a withdrawal of the organizer that is due. -/
theorem paused_untouched_iff (registry : Registry) (actions : List (Action host Registry))
    (paused : (reached registry actions).settings.isPaused = true) (env : Env host) (call : Call)
    (unprivileged : ¬call.AdminOnly) :
    Untouched (reached registry actions) (step (reached registry actions) (.call env call)) ↔
      ¬WithdrawalDue env (reached registry actions) call := by
  have escrow := (reached_wellformed registry actions).escrowState
  by_cases withdraws : ∃ eventId token, call = .withdrawOrganizerFunds eventId token
  · obtain ⟨eventId, token, rfl⟩ := withdraws
    exact withdrawal_untouched_iff
  · have undue : ¬WithdrawalDue env (reached registry actions) call := by
      cases call <;> first | exact id | exact absurd ⟨_, _, rfl⟩ withdraws
    refine iff_of_true ?_ undue
    by_cases configures : ∃ setting, call = .configure setting
    · obtain ⟨setting, rfl⟩ := configures
      exact configureStep_untouched escrow
    · rw [step, callStep_paused paused unprivileged
        (fun setting equal => configures ⟨setting, equal⟩)
        (fun eventId token equal => withdraws ⟨eventId, token, equal⟩)]
      exact .refl

/-- A ticket is sold, and the contract is paused. -/
def saleThenPause : List (Action EventRegistry.stage EventRegistry.Registry) :=
  setUp ++
    [.call (allSign 1) (.processPayment (ticketFor aliceAddress "ticket" 1)),
      .call (allSign 2) (.configure (.setPause true))]

/-- The buyer asks for a refund in vain. -/
theorem paused_refund_untouched :
    Untouched (reached (registryWith concert) saleThenPause)
      (step (reached (registryWith concert) saleThenPause)
        (.call (allSign 3) (.refund .guest "ticket"))) :=
  (paused_untouched_iff (registryWith concert) saleThenPause rfl (allSign 3)
    (.refund .guest "ticket") id).mpr id

/-- The organizer withdraws the revenue of the paused contract. -/
theorem paused_withdrawal_pays :
    let paused := reached (registryWith concert) saleThenPause
    let next := step paused (.call (allSign 3) (.withdrawOrganizerFunds "concert" usdcAddress))
    paused.settings.isPaused = true ∧
      (paused.books.getEventBalance "concert").organizerAmount = 950 ∧
      (next.books.getEventBalance "concert").organizerAmount = 0 ∧
      next.tokens.balance usdcAddress EventRegistry.organizerAddress =
        paused.tokens.balance usdcAddress EventRegistry.organizerAddress + 950 := by
  decide

end Agora.TicketPayment

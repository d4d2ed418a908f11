/-
This file models the payouts: the organizer's withdrawals and claims, and the
settlement and withdrawal of the platform fees.

The token of a payout is an argument of the call, and the balance of an event has no
token. A claim of a small balance is computed from what the contract holds of that
token, not from the balance.
-/

import Agora.TicketPayment.Change

namespace Agora.TicketPayment

open Soroban

variable {Registry : Type} [RegistryApi Registry] {host : Host}

def escrowDelay : Nat := 86400

def dustThreshold : Int := 10000

def requireGoal (event : EventInfo) : Entry Registry Unit :=
  require (¬(0 < event.minSalesTarget ∧ event.goalMet = false)) (.error .goalNotMet)

def requirePlatformWallet : Entry Registry Address := do
  let world ← get
  orFault world.settings.platformWallet (.panic "Platform wallet not set")

/-! ### Withdrawals of the organizer -/

/-- The highest share among the milestones met, or everything without a plan. -/
def releasePercent (event : EventInfo) : Nat :=
  match event.milestonePlan with
  | none | some [] => maxBps
  | some milestones => milestones.foldl (fun highest milestone =>
      if milestone.salesThreshold ≤ event.currentSupply ∧ highest < milestone.releasePercent then
        milestone.releasePercent
      else highest) 0

/-- Pay an organizer out of the balance of the event. -/
def releaseFunds (host : Host) (eventId : EventId) (token target : Address)
    (balance : EventBalance) (amount : Int) : Entry Registry Int := do
  payOut host token target amount [.released eventId token]
  let organizer ← checked (checkedSub balance.organizerAmount amount)
  let withdrawn ← checked (checkedAdd balance.totalWithdrawn amount)
  setEventBalance eventId
    { balance with organizerAmount := organizer, totalWithdrawn := withdrawn }
  subtractFromActiveEscrowTotal amount
  subtractFromActiveEscrowByToken token amount
  pure amount

def withdrawOrganizerFunds (env : Env host) (eventId : EventId) (token : Address) :
    Entry Registry Int := do
  let event ← getEvent eventId
  requireAuth env event.organizerAddress
  -- the source adds in u64
  require (event.endTime = 0 ∨ event.endTime + escrowDelay < 2 ^ 64) .trap
  require (event.endTime = 0 ∨ event.endTime + escrowDelay ≤ env.timestamp)
    (.error .eventNotCompleted)
  requireUndisputed eventId
  require (event.status ≠ .cancelled) (.error .eventCancelled)
  requireGoal event
  let world ← get
  let balance := world.books.getEventBalance eventId
  let totalRevenue ← checked (checkedAdd balance.organizerAmount balance.totalWithdrawn)
  if totalRevenue = 0 then pure 0
  else do
    let maxAllowed ← checked (mulDiv totalRevenue (releasePercent event) maxBps)
    let available ← checked (checkedSub maxAllowed balance.totalWithdrawn)
    if available ≤ 0 then pure 0
    else do
      let amount := min available balance.organizerAmount
      releaseFunds host eventId token event.organizerAddress balance amount

/-! ### Claims of the organizer -/

/-- What a claim pays. A balance at or below the threshold is replaced by everything the
contract holds of the token, less the fee of the event. -/
def claimPayout (held : Int) (balance : EventBalance) : Int :=
  if 0 < balance.organizerAmount ∧ balance.organizerAmount ≤ dustThreshold ∧
      balance.organizerAmount ≤ held then
    max ((checkedSub held balance.platformFee).getD balance.organizerAmount)
      balance.organizerAmount
  else balance.organizerAmount

/-- A claim that takes tokens beyond the balance of the event. -/
def Sweeps (held : Int) (balance : EventBalance) : Prop :=
  0 < balance.organizerAmount ∧ balance.organizerAmount ≤ dustThreshold ∧
    balance.organizerAmount ≤ held ∧ balance.organizerAmount < held - balance.platformFee ∧
    InI128 (held - balance.platformFee)

instance (held : Int) (balance : EventBalance) : Decidable (Sweeps held balance) :=
  inferInstanceAs (Decidable (_ ∧ _ ∧ _ ∧ _ ∧ _))

theorem claimPayout_eq_iff {held : Int} {balance : EventBalance} :
    claimPayout held balance = balance.organizerAmount ↔ ¬Sweeps held balance := by
  unfold claimPayout Sweeps
  by_cases dust : 0 < balance.organizerAmount ∧ balance.organizerAmount ≤ dustThreshold ∧
      balance.organizerAmount ≤ held
  · rw [if_pos dust, max_eq_right_iff, checkedSub, checkedI128]
    by_cases fits : InI128 (held - balance.platformFee)
    · simp [dust, fits]
    · simp [fits]
  · rw [if_neg dust]
    refine ⟨fun _ sweeps => dust ⟨sweeps.1, sweeps.2.1, sweeps.2.2.1⟩, fun _ => rfl⟩

def unescrow (token : Address) (amount : Int) : Entry Registry Unit :=
  if 0 < amount then do
    subtractFromActiveEscrowTotal amount
    subtractFromActiveEscrowByToken token amount
  else pure ()

def claimRevenue (env : Env host) (eventId : EventId) (token : Address) :
    Entry Registry Int := do
  requireNotPaused
  let event ← getEvent eventId
  requireAuth env event.organizerAddress
  require (event.isActive = false ∧ event.status = .inactive) (.error .eventNotCompleted)
  requireGoal event
  requireUndisputed eventId
  let world ← get
  let balance := world.books.getEventBalance eventId
  require (¬(balance.organizerAmount = 0 ∧ balance.platformFee = 0)) (.error .noFundsAvailable)
  let _ ← requirePlatformWallet
  let payout := claimPayout (world.tokens.balance token host.contract) balance
  payIfPositive host token event.paymentAddress payout [.released eventId token]
  let withdrawn ← trapping (checkedAdd balance.totalWithdrawn payout)
  setEventBalance eventId ⟨0, withdrawn, 0⟩
  unescrow token payout
  pure payout

/-! ### Platform fees -/

/-- The fee of an event is cleared; the collected fees already contain it. -/
def settlePlatformFees (env : Env host) (eventId : EventId) : Entry Registry Int := do
  let _ ← requireAdmin env
  let world ← get
  let balance := world.books.getEventBalance eventId
  if balance.platformFee = 0 then pure 0
  else do
    setEventBalance eventId { balance with platformFee := 0 }
    let _ ← requirePlatformWallet
    pure balance.platformFee

def secondsPerDay : Nat := 86400

def Books.getDailyWithdrawnAmount (books : Books) (token : Address) (day : Nat) : Int :=
  (books.dailyWithdrawalAmount.get (token, day)).getD 0

def World.withDailyAmount (world : World Registry) (token : Address) (day : Nat) (amount : Int) :
    World Registry :=
  { world with
    books := { world.books with
      dailyWithdrawalAmount := world.books.dailyWithdrawalAmount.set (token, day) amount } }

/-- A cap that is not positive is no cap. -/
def countTowardsCap (env : Env host) (token : Address) (amount : Int) : Entry Registry Unit := do
  let world ← get
  let cap := (world.settings.withdrawalCap.get token).getD 0
  if 0 < cap then do
    let day := env.timestamp / secondsPerDay
    let withdrawn ← checked (checkedAdd (world.books.getDailyWithdrawnAmount token day) amount)
    require (withdrawn ≤ cap) (.error .withdrawalCapExceeded)
    modify (·.withDailyAmount token day withdrawn)
  else pure ()

def withdrawPlatformFees (env : Env host) (amount : Int) (token : Address) :
    Entry Registry Unit := do
  let _ ← requireAdmin env
  require (0 < amount) (.error .arithmeticError)
  let world ← get
  require (amount ≤ world.books.getTotalFeesCollectedByToken token) (.error .insufficientFees)
  countTowardsCap env token amount
  let wallet ← requirePlatformWallet
  payOut host token wallet amount []
  subtractFromTotalFeesCollectedByToken token amount
  subtractFromActiveEscrowTotal amount
  subtractFromActiveEscrowByToken token amount

def setWithdrawalCap (env : Env host) (token : Address) (amount : Int) :
    Entry Registry Unit := do
  let _ ← requireAdmin env
  require (0 ≤ amount) (.error .arithmeticError)
  modify (·.withSettings fun settings =>
    { settings with withdrawalCap := settings.withdrawalCap.set token amount })

/-! ### What the organizer's payouts do -/

/-- The postings of a payout of an event: the tokens sent, what is taken off the organizer's
amount, and what is cleared of the platform fee. -/
@[simp]
def payoutLines (eventId : EventId) (token : Address) (sent payout organizer platform : Int) :
    List (Posting Account) :=
  (.held token, -sent) :: (World.noted [.released eventId token] (max payout 0) ++
    [(.organizer eventId, -organizer), (.withdrawn eventId, payout),
      (.platform eventId, -platform), (.escrowTotal, -max payout 0),
      (.escrow token, -max payout 0)])

/-- A withdrawal takes a part of the organizer's amount, and sends and books the same. -/
@[simp]
def withdrawalChange (eventId : EventId) (token : Address) (amount : Int) : Change :=
  .posting (payoutLines eventId token amount amount amount 0)

variable {env : Env host} {eventId : EventId} {token : Address} {amount : Int}
  {world : World Registry}

omit [RegistryApi Registry] in
theorem releaseFunds_ensures {target : Address} (outside : target ≠ host.contract) :
    Ensures (releaseFunds host eventId token target (world.books.getEventBalance eventId) amount)
        world fun _ next =>
      0 ≤ amount ∧ Does host (withdrawalChange eventId token amount) world next := by
  simp only [releaseFunds, checked, subtractFromActiveEscrowTotal, subtractFromActiveEscrowByToken,
    ensures_rules, ensures_payOut, ensures_setEventBalance, ensures_counters]
  intro allowed organizer organizerEq withdrawn withdrawnEq _ _
  refine ⟨allowed.1, ?_⟩
  have paid : Does host _ world _ :=
    Does.pay_outside outside token amount [.released eventId token]
  have booked := ((paid.trans_posting (.withBalance eventId
    { world.books.getEventBalance eventId with
      organizerAmount := organizer, totalWithdrawn := withdrawn })).trans_posting
    (.addEscrowTotal (-amount))).trans_posting (.addEscrow token (-amount))
  have same : (world.pay host token target amount [.released eventId token]).books = world.books :=
    rfl
  refine booked.congr_lines fun account => ?_
  rw [payoutLines, max_eq_left allowed.1, eq_of_checkedSub organizerEq,
    eq_of_checkedAdd withdrawnEq, same]
  simp

/-- The checks before a withdrawal computes anything. -/
structure MayWithdraw (env : Env host) (world : World Registry) (eventId : EventId)
    (event : EventInfo) : Prop where
  registry : world.settings.eventRegistry.isSome = true
  found : RegistryApi.getEvent world.registry eventId = some event
  signed : env.signed event.organizerAddress = true
  delayFits : event.endTime = 0 ∨ event.endTime + escrowDelay < 2 ^ 64
  delayed : event.endTime = 0 ∨ event.endTime + escrowDelay ≤ env.timestamp
  undisputed : isEventDisputed world eventId = false
  uncancelled : event.status ≠ .cancelled
  goal : ¬(0 < event.minSalesTarget ∧ event.goalMet = false)

theorem withdrawOrganizerFunds_ensures :
    Ensures (withdrawOrganizerFunds env eventId token) world fun _ next =>
      (∃ event, MayWithdraw env world eventId event) ∧ ∃ amount, 0 ≤ amount ∧
        amount ≤ max 0 (world.books.getEventBalance eventId).organizerAmount ∧
        Does host (withdrawalChange eventId token amount) world next := by
  simp only [withdrawOrganizerFunds, requireGoal, checked, ensures_rules, ensures_getEvent,
    ensures_checks, ensures_requireUndisputed]
  intro registry event found signed delayFits delayed undisputed uncancelled goal totalRevenue _
  have may : ∃ event, MayWithdraw env world eventId event :=
    ⟨event, registry, found, signed, delayFits, delayed, undisputed, uncancelled, goal⟩
  have nothing : Does host (withdrawalChange eventId token 0) world world :=
    (Does.refl world).congr_lines fun account => by
      simp [Change.nothing]
  refine ⟨fun _ => ⟨may, 0, le_rfl, le_max_left _ _, nothing⟩, fun _ maxAllowed _ available _ =>
    ⟨fun _ => ⟨may, 0, le_rfl, le_max_left _ _, nothing⟩, fun _ => ?_⟩⟩
  refine (releaseFunds_ensures (ne_contract_of_signed env signed)).mono ?_
  rintro _ next ⟨nonneg, does⟩
  exact ⟨may, _, nonneg, (min_le_right _ _).trans (le_max_right _ _), does⟩

/-- A claim clears the balance of the event. The tokens stay where they are when the contract
is its own payee. -/
@[simp]
def claimChange (host : Host) (event : EventInfo) (eventId : EventId) (token : Address)
    (balance : EventBalance) (payout : Int) : Change :=
  .posting (payoutLines eventId token
    (if event.paymentAddress = host.contract then 0 else max payout 0) payout
    balance.organizerAmount balance.platformFee)

omit [RegistryApi Registry] in
theorem unescrow_ensures (host : Host) :
    Ensures (unescrow token amount) world fun _ next =>
      Does host (.posting [(.escrowTotal, -max amount 0), (.escrow token, -max amount 0)]) world
        next := by
  simp only [unescrow, subtractFromActiveEscrowTotal, subtractFromActiveEscrowByToken,
    ensures_rules, ensures_counters]
  refine ⟨fun positive _ _ => ?_, fun notPositive => ?_⟩
  · rw [max_eq_left positive.le]
    exact Does.trans_posting (.addEscrowTotal (-amount)) (.addEscrow token (-amount))
  · refine (Does.refl world).congr_lines fun account => ?_
    rw [max_eq_right (not_lt.mp notPositive)]
    simp [Change.nothing]

theorem claimRevenue_ensures :
    Ensures (claimRevenue env eventId token) world fun result next => ∃ event,
      RegistryApi.getEvent world.registry eventId = some event ∧
        (event.isActive = false ∧ event.status = .inactive) ∧
        isEventDisputed world eventId = false ∧
        result = claimPayout (world.tokens.balance token host.contract)
          (world.books.getEventBalance eventId) ∧
        Does host (claimChange host event eventId token (world.books.getEventBalance eventId)
          result) world next := by
  simp only [claimRevenue, requireGoal, requirePlatformWallet, trapping, ensures_bind, ensures_get,
    ensures_checks, ensures_getEvent, ensures_require, ensures_requireUndisputed, ensures_orFault]
  intro _ _ event found _ completed _ undisputed _ _ _
  generalize payoutEq : claimPayout (world.tokens.balance token host.contract)
    (world.books.getEventBalance eventId) = payout
  refine payIfPositive_ensures.mono ?_
  rintro _ _ ⟨sentDoes, _, tokens, trail, rfl⟩ withdrawn withdrawnEq
  rw [ensures_setEventBalance]
  refine (unescrow_ensures host).mono ?_
  intro _ next unescrowed
  rw [ensures_pure]
  refine ⟨event, found, completed, undisputed, rfl, ?_⟩
  have booked := (sentDoes.trans_posting (.withBalance eventId ⟨0, withdrawn, 0⟩)).trans_posting
    unescrowed
  refine booked.congr_lines fun account => ?_
  rw [payoutLines, eq_of_checkedAdd withdrawnEq]
  simp

/-! ### Claims that succeed -/

/-- The contract can send what a claim pays, and no counter leaves its range. -/
structure CanClaim (host : Host) (world : World Registry) (eventId : EventId)
    (token target : Address) (payout : Int) : Prop where
  wallet : world.settings.platformWallet.isSome = true
  withdrawn : InI128 ((world.books.getEventBalance eventId).totalWithdrawn + payout)
  sends : 0 < payout → world.tokens.CanMove token host.contract target payout ∧
    InI128 (world.books.activeEscrowTotal + -payout) ∧
    InI128 (world.books.getActiveEscrowByToken token + -payout)

/-- What a claim asks of the event. -/
structure MayClaim (env : Env host) (world : World Registry) (eventId : EventId)
    (event : EventInfo) : Prop where
  unpaused : world.settings.isPaused = false
  registry : world.settings.eventRegistry.isSome = true
  found : RegistryApi.getEvent world.registry eventId = some event
  signed : env.signed event.organizerAddress = true
  completed : event.isActive = false ∧ event.status = .inactive
  goal : ¬(0 < event.minSalesTarget ∧ event.goalMet = false)
  undisputed : isEventDisputed world eventId = false
  funds : ¬((world.books.getEventBalance eventId).organizerAmount = 0 ∧
    (world.books.getEventBalance eventId).platformFee = 0)

theorem claimRevenue_accepted_iff :
    accepted (claimRevenue env eventId token) world = true ↔
      ∃ event, MayClaim env world eventId event ∧
        CanClaim host world eventId token event.paymentAddress
          (claimPayout (world.tokens.balance token host.contract)
            (world.books.getEventBalance eventId)) := by
  simp only [accepted_eq_true_iff, claimRevenue, requireNotPaused, requireGoal,
    requirePlatformWallet, trapping, payIfPositive, unescrow, subtractFromActiveEscrowTotal,
    subtractFromActiveEscrowByToken, succeeds_rules, succeeds_getEvent, succeeds_requireAuth,
    succeeds_requireUndisputed, succeeds_payOut, succeeds_setEventBalance,
    succeeds_addToActiveEscrowTotal, succeeds_addToActiveEscrowByToken, checkedAdd,
    checkedI128_eq_some]
  generalize claimPayout (world.tokens.balance token host.contract)
    (world.books.getEventBalance eventId) = payout
  constructor
  · rintro ⟨unpaused, registry, event, found, signed, completed, goal, undisputed, funds, _,
      walletEq, sent⟩
    refine ⟨event, ⟨unpaused, registry, found, signed, completed, goal, undisputed, funds⟩, ?_⟩
    have wallet := Option.isSome_of_eq_some walletEq
    rcases sent with ⟨positive, moves, _, ⟨withdrawn, _⟩, ⟨_, total, escrow, _⟩ | ⟨absurdity, _⟩⟩ |
      ⟨notPositive, _, ⟨withdrawn, _⟩, _⟩
    · exact ⟨wallet, withdrawn, fun _ => ⟨moves, total, escrow⟩⟩
    · exact absurd positive absurdity
    · exact ⟨wallet, withdrawn, fun positive => absurd positive notPositive⟩
  · rintro ⟨event, may, can⟩
    obtain ⟨wallet, walletEq⟩ := Option.isSome_iff_exists.mp can.wallet
    refine ⟨may.unpaused, may.registry, event, may.found, may.signed, may.completed, may.goal,
      may.undisputed, may.funds, wallet, walletEq, ?_⟩
    by_cases positive : 0 < payout
    · obtain ⟨moves, total, escrow⟩ := can.sends positive
      exact .inl ⟨positive, moves, _, ⟨can.withdrawn, rfl⟩,
        .inl ⟨positive, total, escrow, trivial⟩⟩
    · exact .inr ⟨positive, _, ⟨can.withdrawn, rfl⟩, .inr ⟨positive, trivial⟩⟩

/-! ### What the fee payouts do -/

/-- The postings of a withdrawal of platform fees. -/
@[simp]
def feeLines (token : Address) (sent amount : Int) : List (Posting Account) :=
  [(.held token, -sent), (.fees token, -amount), (.escrowTotal, -amount),
    (.escrow token, -amount)]

omit [RegistryApi Registry] in
theorem settlePlatformFees_ensures :
    Ensures (settlePlatformFees env eventId) world fun _ next =>
      Does host (.posting [(.platform eventId, -(world.books.getEventBalance eventId).platformFee)])
        world next := by
  simp only [settlePlatformFees, requirePlatformWallet, ensures_rules, ensures_checks,
    ensures_setEventBalance]
  intro _ _ _
  refine ⟨fun zero => ?_, fun _ _ _ => ?_⟩
  · refine (Does.refl world).congr_lines fun account => ?_
    simp [zero, Change.nothing]
  · have written : Does host _ world _ := Does.withBalance eventId
      { world.books.getEventBalance eventId with platformFee := 0 }
    exact written.congr_lines fun account => by simp

def Settings.getWithdrawalCap (settings : Settings) (token : Address) : Int :=
  (settings.withdrawalCap.get token).getD 0

/-- The counters of the day after a withdrawal, which count it under a cap only. -/
def countedFees (env : Env host) (world : World Registry) (token : Address) (amount : Int) :
    Store (Address × Nat) Int :=
  if 0 < world.settings.getWithdrawalCap token then
    world.books.dailyWithdrawalAmount.set (token, env.timestamp / secondsPerDay)
      (world.books.getDailyWithdrawnAmount token (env.timestamp / secondsPerDay) + amount)
  else world.books.dailyWithdrawalAmount

/-- A withdrawal under a cap keeps the day within it. -/
def WithinCap (env : Env host) (world : World Registry) (token : Address) (amount : Int) : Prop :=
  0 < world.settings.getWithdrawalCap token →
    world.books.getDailyWithdrawnAmount token (env.timestamp / secondsPerDay) + amount ≤
      world.settings.getWithdrawalCap token

omit [RegistryApi Registry] in
theorem countTowardsCap_ensures :
    Ensures (countTowardsCap env token amount) world fun _ next =>
      Does host { countsFees := true } world next ∧ next.settings = world.settings ∧
        next.books.dailyWithdrawalAmount = countedFees env world token amount ∧
        WithinCap env world token amount := by
  simp only [countTowardsCap, checked, ensures_rules]
  refine ⟨fun capped withdrawn withdrawnEq bounded => ?_, fun uncapped => ?_⟩
  · obtain rfl := eq_of_checkedAdd withdrawnEq
    refine ⟨.of_counted_money ?_ ⟨_, _, _, rfl⟩, rfl, (if_pos capped).symm, fun _ => bounded⟩
    funext account
    cases account <;> simp [World.withDailyAmount, World.ledger, Books.getEventBalance,
      Books.getTotalFeesCollectedByToken, Books.getActiveEscrowByToken]
  · exact ⟨.of_counted_money (post_nil _).symm ⟨_, _, _, rfl⟩, trivial, (if_neg uncapped).symm,
      fun capped => absurd capped uncapped⟩

/-- What a withdrawal of fees does. -/
@[simp]
def feeChange (host : Host) (token wallet : Address) (amount : Int) : Change where
  lines := feeLines token (if wallet = host.contract then 0 else amount) amount
  countsFees := true

omit [RegistryApi Registry] in
theorem withdrawPlatformFees_ensures :
    Ensures (withdrawPlatformFees env amount token) world fun _ next =>
      0 < amount ∧ amount ≤ world.books.getTotalFeesCollectedByToken token ∧
        (∃ wallet, world.settings.platformWallet = some wallet ∧
          Does host (feeChange host token wallet amount) world next) ∧
        next.books.dailyWithdrawalAmount = countedFees env world token amount ∧
        WithinCap env world token amount := by
  simp only [withdrawPlatformFees, requirePlatformWallet, subtractFromTotalFeesCollectedByToken,
    subtractFromActiveEscrowTotal, subtractFromActiveEscrowByToken, ensures_rules, ensures_checks]
  intro _ _ _ positive covered
  refine countTowardsCap_ensures.mono ?_
  rintro _ counted ⟨countedDoes, sameSettings, dailyEq, within⟩
  simp only [ensures_payOut, ensures_counters]
  intro wallet walletEq _ _ _ _
  have paid : Does host _ counted _ := Does.pay token wallet amount []
  have booked := ((paid.trans_posting (.addFees token (-amount))).trans_posting
    (.addEscrowTotal (-amount))).trans_posting (.addEscrow token (-amount))
  refine ⟨positive, covered, ⟨wallet, sameSettings ▸ walletEq,
    (countedDoes.trans booked).congr_lines fun account => ?_⟩, (booked.fees rfl).trans dailyEq,
    within⟩
  by_cases own : wallet = host.contract <;> simp [own, Change.andThen]

omit [RegistryApi Registry] in
theorem setWithdrawalCap_ensures :
    Ensures (setWithdrawalCap env token amount) world fun _ next =>
      Does host .nothing world next := by
  simp only [setWithdrawalCap, ensures_rules, ensures_checks]
  intro _ _ _ _
  exact .withSettings _

end Agora.TicketPayment

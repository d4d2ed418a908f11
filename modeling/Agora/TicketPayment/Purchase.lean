/-
This file models the sale of tickets, `process_payment`: the discounts, the price
check, the split of the price between organizer, platform and referrer, the
movement of tokens, the books, and the records issued.

The source is one function of four hundred lines. It is cut here at its own
numbered comments into parts that run in the source's order.
-/

import Agora.TicketPayment.Change

namespace Agora.TicketPayment

open Soroban

variable {Registry : Type} [RegistryApi Registry] {host : Host}

/-- The arguments of `process_payment`. The amount is the price of one ticket. -/
structure Purchase where
  paymentId : PaymentId
  eventId : EventId
  ticketTierId : TierId
  buyerAddress : Address
  recipientAddress : Option Address
  tokenAddress : Address
  amount : Int
  quantity : Nat
  options : PurchaseOptions
  validationHash : BytesN32

def Purchase.ownerAddress (purchase : Purchase) : Address :=
  purchase.recipientAddress.getD purchase.buyerAddress

/-! ### Discounts -/

def applyGlobalPromo (env : Env host) (total : Int) : Entry Registry Int := do
  requireRegistry
  let world ← get
  let bps := RegistryApi.getGlobalPromoBps world.registry env.timestamp
  if 0 < bps ∧ env.timestamp < RegistryApi.getPromoExpiry world.registry then
    -- the source subtracts in u32
    require (bps ≤ maxBps) .trap
    checked (mulDiv total (maxBps - bps) maxBps)
  else pure total

/-- A preimage of a registered hash takes ten per cent off; the hash is returned so that it
can be spent once the funds have moved. -/
def applyCodePreimage (host : Host) (preimage : Option Bytes) (price : Int) :
    Entry Registry (Int × Option BytesN32) :=
  match preimage with
  | none => pure (price, none)
  | some preimage => do
    let world ← get
    let hash := host.sha256 preimage
    require ((world.discounts.hash.get hash).isSome = true) (.error .invalidDiscountCode)
    require ((world.discounts.hashUsed.get hash).isSome = false) (.error .discountCodeUsed)
    let discounted ← checked (mulDiv price 90 100)
    pure (discounted, some hash)

/-- A code of the event. Its use is counted at once. -/
def applyDiscountCode (env : Env host) (eventId : EventId) (code : Option String) (price : Int) :
    Entry Registry Int :=
  match code with
  | none => pure price
  | some code => do
    let world ← get
    let data ← orFault (world.discounts.code.get (eventId, code)) (.error .invalidDiscountCode)
    require (env.timestamp ≤ data.expiresAt) (.error .discountExpired)
    require (data.currentUses < data.maxUses)
      (.error (if data.maxUses = 1 then .discountCodeUsed else .discountMaxUsesReached))
    -- the source subtracts in u32
    require (data.percentage ≤ 100) .trap
    let discounted ← checked (mulDiv price (100 - data.percentage) 100)
    modify (·.withDiscounts fun discounts =>
      { discounts with
        code := discounts.code.set (eventId, code)
          { data with currentUses := data.currentUses + 1 } })
    pure discounted

/-! ### The price -/

def maxOraclePriceAgeSecs : Nat := 3600

def fetchFreshAssetPrice (env : Env host) (asset : Address) : Entry Registry PriceData := do
  let world ← get
  let oracle ← orFault world.settings.oracleAddress (.error .oracleNotConfigured)
  let data ← orFault (env.lastprice oracle asset) (.error .oraclePriceUnavailable)
  -- natural subtraction saturates, as the source's does
  require (env.timestamp - data.timestamp ≤ maxOraclePriceAgeSecs) (.error .oraclePriceStale)
  pure data

def getSlippageBps (settings : Settings) : Nat :=
  settings.slippageBps.getD 200

structure PriceSchedule where
  price : Int
  validUntil : Nat

def getScheduledPrice (schedules : List PriceSchedule) (currentTime : Nat) (finalPrice : Int) :
    Int :=
  match schedules.find? fun schedule => currentTime < schedule.validUntil with
  | some schedule => schedule.price
  | none => finalPrice

def inEarlyBird (env : Env host) (tier : TicketTier) : Bool :=
  0 < tier.earlyBirdDeadline && env.timestamp ≤ tier.earlyBirdDeadline

/-- The schedule the source consults is always empty. -/
def activePrice (env : Env host) (tier : TicketTier) : Int :=
  if inEarlyBird env tier then tier.earlyBirdPrice
  else getScheduledPrice [] env.timestamp tier.price

def checkPrice (env : Env host) (token : Address) (tier : TicketTier) (amount : Int) :
    Entry Registry Unit :=
  if 0 < tier.usdPrice then do
    let data ← fetchFreshAssetPrice env token
    let expected ← checked (mulDiv tier.usdPrice data.price 10000000)
    let world ← get
    let bps := getSlippageBps world.settings
    let least ← checked (mulDiv expected ((maxBps : Int) - bps) maxBps)
    let most ← checked (mulDiv expected ((maxBps : Int) + bps) maxBps)
    require (least ≤ amount ∧ amount ≤ most) (.error .priceOutsideSlippage)
  else require (amount = activePrice env tier) (.error .invalidPrice)

/-- The source first asks whether the flag is set; setting it again changes nothing. -/
def switchPrice (env : Env host) (eventId : EventId) (tierId : TierId) (tier : TicketTier) :
    Entry Registry Unit :=
  if 0 < tier.earlyBirdDeadline ∧ tier.earlyBirdDeadline < env.timestamp then
    modify (·.withSettings fun settings =>
      { settings with priceSwitched := settings.priceSwitched.set (eventId, tierId) () })
  else pure ()

/-! ### The split -/

/-- What the buyer pays in the end, and who gets it. -/
structure Split where
  effectiveTotal : Int
  platformFee : Int
  organizerAmount : Int
  referralReward : Int
  deriving DecidableEq, Repr

/-- The loyalty discount on the platform fee, at most the fee itself. -/
def loyaltyRebate (fee : Int) (loyaltyBps : Nat) : Option Int :=
  if 0 < loyaltyBps then (mulDiv fee loyaltyBps maxBps).map (min · fee) else some 0

/-- The fee is cut by the loyalty rebate, which the buyer keeps. A referrer's reward is taken
from the platform fee and, once more, from the organizer's amount. -/
def splitPayment (price : Int) (feeBps loyaltyBps : Nat) (referralRate : Option Nat) :
    Option Split := do
  let gross ← mulDiv price feeBps maxBps
  let rebate ← loyaltyRebate gross loyaltyBps
  let fee ← checkedSub gross rebate
  let effectiveTotal ← checkedSub price rebate
  let organizer ← checkedSub effectiveTotal fee
  match referralRate with
  | none => some ⟨effectiveTotal, fee, organizer, 0⟩
  | some rate =>
    let reward ← (mulDiv fee rate maxBps).map (min · fee)
    let kept ← checkedSub fee reward
    let referralReward := min reward organizer
    let organizerAmount ← checkedSub organizer referralReward
    some ⟨effectiveTotal, kept, organizerAmount, referralReward⟩

/-- A professional organizer pays no fee. -/
def feeBps (env : Env host) (settings : Settings) (event : EventInfo) : Nat :=
  let isPro := match settings.proSubscriptionContract with
    | some contract => env.isProMember contract event.organizerAddress
    | none => false
  if isPro then 0 else event.customFeeBps.getD event.platformFeePercent

/-- The affiliate's own rate, or twenty per cent of the platform fee. -/
def referralRate (settings : Settings) (eventId : EventId) (referrer : Option Address) :
    Option Nat :=
  referrer.map fun address => (settings.affiliateRate.get (eventId, address)).getD 2000

/-! ### Payment and books -/

/-- What the tokens of a sale are for. A batch is charged under no single id. -/
def Purchase.headings (purchase : Purchase) : List Trail :=
  .received purchase.eventId purchase.tokenAddress ::
    if purchase.quantity = 1 then [.charged purchase.paymentId] else []

def takePayment (host : Host) (purchase : Purchase) (split : Split) : Entry Registry Unit := do
  let before ← get
  require (split.effectiveTotal ≤
      before.tokens.allowance purchase.tokenAddress purchase.buyerAddress host.contract)
    (.error .insufficientAllowance)
  pullIn host purchase.tokenAddress purchase.buyerAddress split.effectiveTotal purchase.headings
  let after ← get
  let arrived ← checked (checkedSub (after.tokens.balance purchase.tokenAddress host.contract)
    (before.tokens.balance purchase.tokenAddress host.contract))
  require (arrived = split.effectiveTotal) (.error .transferVerificationFailed)
  match purchase.options.referrer with
  | none => pure ()
  | some referrer =>
    if 0 < split.referralReward then
      payOut host purchase.tokenAddress referrer split.referralReward []
    else pure ()

/-- The escrow counters grow by the undiscounted total. -/
def bookSale (purchase : Purchase) (totalAmount : Int) (split : Split) :
    Entry Registry Unit := do
  updateEventBalance purchase.eventId split.organizerAmount split.platformFee
  addToTotalVolumeProcessed totalAmount
  addToTotalFeesCollectedByToken purchase.tokenAddress split.platformFee
  addToActiveEscrowTotal totalAmount
  addToActiveEscrowByToken purchase.tokenAddress totalAmount

def markDiscountHashUsed (hash : Option BytesN32) : Entry Registry Unit :=
  match hash with
  | none => pure ()
  | some hash => modify (·.withDiscounts fun discounts =>
      { discounts with hashUsed := discounts.hashUsed.set hash () })

/-! ### Records -/

/-- The id of the ticket at an index of a batch. -/
def batchPaymentId : Nat → PaymentId
  | 0 => "p-0"
  | 1 => "p-1"
  | 2 => "p-2"
  | 3 => "p-3"
  | 4 => "p-4"
  | _ => "p-many"

def Purchase.subPaymentId (purchase : Purchase) (index : Nat) : PaymentId :=
  if purchase.quantity = 1 then purchase.paymentId else batchPaymentId index

/-- The amounts of one ticket of a sale. -/
structure TicketShare where
  platformFee : Int
  organizerAmount : Int
  referralAmount : Int
  deriving DecidableEq, Repr

def Split.perTicket (split : Split) (quantity : Nat) : Option TicketShare := do
  let platformFee ← checkedDiv split.platformFee quantity
  let organizerAmount ← checkedDiv split.organizerAmount quantity
  let referralAmount ← checkedDiv split.referralReward quantity
  some ⟨platformFee, organizerAmount, referralAmount⟩

def Purchase.record (purchase : Purchase) (share : TicketShare) (createdAt : Nat)
    (index : Nat) : Payment where
  paymentId := purchase.subPaymentId index
  eventId := purchase.eventId
  buyerAddress := purchase.buyerAddress
  ownerAddress := purchase.ownerAddress
  ticketTierId := purchase.ticketTierId
  tokenAddress := purchase.tokenAddress
  amount := purchase.amount
  platformFee := share.platformFee
  organizerAmount := share.organizerAmount
  status := .pending
  transactionHash := ""
  createdAt := createdAt
  confirmedAt := none
  refundedAmount := 0
  isSoulbound := false
  lastCheckedInAt := 0
  referralAmount := share.referralAmount
  referrer := purchase.options.referrer

def issueTicket (purchase : Purchase) (share : TicketShare) (createdAt : Nat)
    (tickets : Tickets) (index : Nat) : Tickets :=
  (tickets.storePayment (purchase.record share createdAt index)).storeValidationHash
    (purchase.subPaymentId index) purchase.validationHash

def issueTickets (purchase : Purchase) (share : TicketShare) (createdAt : Nat)
    (tickets : Tickets) : Tickets :=
  (List.range purchase.quantity).foldl (issueTicket purchase share createdAt) tickets

theorem getPayment_issueTicket (purchase : Purchase) (share : TicketShare) (createdAt : Nat)
    (tickets : Tickets) (index : Nat) (other : PaymentId) :
    (issueTicket purchase share createdAt tickets index).getPayment other =
      if other = purchase.subPaymentId index then some (purchase.record share createdAt index)
      else tickets.getPayment other := by
  rw [issueTicket, Tickets.getPayment_storeValidationHash, Tickets.getPayment_storePayment]
  rfl

/-- The ids under which a sale issues its tickets. -/
def Purchase.Issues (purchase : Purchase) (paymentId : PaymentId) : Prop :=
  ∃ index ∈ List.range purchase.quantity, purchase.subPaymentId index = paymentId

instance (purchase : Purchase) (paymentId : PaymentId) : Decidable (purchase.Issues paymentId) :=
  inferInstanceAs (Decidable (∃ index ∈ List.range purchase.quantity, _ = _))

/-- The record of a sale under one of its ids. Tickets of one sale differ in nothing else. -/
def Purchase.ticket (purchase : Purchase) (share : TicketShare) (createdAt : Nat)
    (paymentId : PaymentId) : Payment :=
  { purchase.record share createdAt 0 with paymentId := paymentId }

theorem getPayment_foldl_issueTicket {purchase : Purchase} {share : TicketShare}
    {createdAt : Nat} {indices : List Nat} {tickets : Tickets} {other : PaymentId} :
    (indices.foldl (issueTicket purchase share createdAt) tickets).getPayment other =
      if ∃ index ∈ indices, purchase.subPaymentId index = other then
        some (purchase.ticket share createdAt other)
      else tickets.getPayment other := by
  induction indices generalizing tickets with
  | nil => simp
  | cons index rest inductionHypothesis =>
    rw [List.foldl_cons, inductionHypothesis, getPayment_issueTicket]
    by_cases later : ∃ index ∈ rest, purchase.subPaymentId index = other
    · rw [if_pos later, if_pos]
      obtain ⟨index, member, same⟩ := later
      exact ⟨index, List.mem_cons_of_mem _ member, same⟩
    · rw [if_neg later]
      by_cases here : other = purchase.subPaymentId index
      · rw [if_pos here, if_pos ⟨index, List.mem_cons_self, here.symm⟩, here]
        rfl
      · rw [if_neg here, if_neg]
        rintro ⟨found, member, same⟩
        rcases List.mem_cons.mp member with rfl | inRest
        · exact here same.symm
        · exact later ⟨found, inRest, same⟩

theorem getPayment_issueTickets (purchase : Purchase) (share : TicketShare) (createdAt : Nat)
    (tickets : Tickets) (other : PaymentId) :
    (issueTickets purchase share createdAt tickets).getPayment other =
      if purchase.Issues other then some (purchase.ticket share createdAt other)
      else tickets.getPayment other :=
  getPayment_foldl_issueTicket

variable {env : Env host} {purchase : Purchase} {world : World Registry}

theorem Purchase.issues_single (single : purchase.quantity = 1) {paymentId : PaymentId} :
    purchase.Issues paymentId ↔ paymentId = purchase.paymentId := by
  simp [Purchase.Issues, Purchase.subPaymentId, single, eq_comm]

/-- Loyalty points are awarded on a best-effort basis: a refusal changes nothing. -/
def awardLoyalty (env : Env host) (purchase : Purchase) (amount : Int) (multiplier : Nat) :
    Entry Registry Unit :=
  modify fun world => world.withRegistry (RegistryApi.updateLoyaltyScore world.registry
    host.contract purchase.buyerAddress purchase.quantity amount multiplier env.timestamp)

/-! ### The entry point -/

def checkPurchase (env : Env host) (purchase : Purchase) : Entry Registry Unit := do
  requireInitialized
  requireNotPaused
  requireAuth env purchase.buyerAddress
  let world ← get
  require (world.tickets.getPayment purchase.paymentId = none) (.error .paymentAlreadyExists)
  require (purchase.options.referrer ≠ some purchase.buyerAddress)
    (.error .selfReferralNotAllowed)
  require (0 ≤ purchase.amount) (.error .invalidAmount)
  require (purchase.quantity ≠ 0) (.error .invalidAmount)
  require (isTokenWhitelisted world purchase.tokenAddress = true) (.error .tokenNotWhitelisted)

/-- The event and tier of a sale, once the event accepts it. -/
def checkEvent (purchase : Purchase) : Entry Registry (EventInfo × TicketTier) := do
  let event ← getEvent purchase.eventId
  require (event.isActive = true ∧ event.status ≠ .cancelled) (.error .eventInactive)
  let world ← get
  require (eventAcceptsToken world event purchase.tokenAddress = true)
    (.error .tokenNotWhitelisted)
  require (isEventCancelledForRefund world purchase.eventId = false) (.error .eventCancelled)
  let tier ← orFault (event.tiers purchase.ticketTierId) (.error .tierNotFound)
  pure (event, tier)

def processPayment (env : Env host) (purchase : Purchase) : Entry Registry PaymentId := do
  checkPurchase env purchase
  let totalAmount ← checked (checkedMul purchase.amount purchase.quantity)
  let afterPromo ← applyGlobalPromo env totalAmount
  let (afterHash, codeHash) ← applyCodePreimage host purchase.options.codePreimage afterPromo
  let price ← applyDiscountCode env purchase.eventId purchase.options.discountCode afterHash
  let (event, tier) ← checkEvent purchase
  checkPrice env purchase.tokenAddress tier purchase.amount
  switchPrice env purchase.eventId purchase.ticketTierId tier
  let world ← get
  let split ← orFault (splitPayment price (feeBps env world.settings event)
      (RegistryApi.getLoyaltyDiscountBps world.registry purchase.buyerAddress)
      (referralRate world.settings purchase.eventId purchase.options.referrer))
    (.error .arithmeticError)
  takePayment host purchase split
  bookSale purchase totalAmount split
  markDiscountHashUsed codeHash
  incrementInventory host purchase.eventId purchase.ticketTierId purchase.ownerAddress
    purchase.quantity purchase.tokenAddress
  let share ← orFault (split.perTicket purchase.quantity) (.error .arithmeticError)
  modify (·.withTickets (issueTickets purchase share env.timestamp))
  awardLoyalty env purchase split.effectiveTotal tier.loyaltyMultiplier
  pure purchase.paymentId

/-! ### Discounts never raise a price -/

/-- The registry's promotion is running. -/
def PromoActive (env : Env host) (registry : Registry) : Prop :=
  0 < RegistryApi.getGlobalPromoBps registry env.timestamp ∧
    env.timestamp < RegistryApi.getPromoExpiry registry

instance (env : Env host) (registry : Registry) : Decidable (PromoActive env registry) :=
  inferInstanceAs (Decidable (_ ∧ _))

/-- What a discount may do to a price: it stays between zero and what it was. -/
def Discounts.Lowers (before after : Int) : Prop :=
  0 ≤ before → 0 ≤ after ∧ after ≤ before

variable {price : Int}

theorem Discounts.Lowers.refl : Discounts.Lowers price price :=
  fun nonneg => ⟨nonneg, le_rfl⟩

theorem Discounts.Lowers.trans {first second third : Int} (head : Discounts.Lowers first second)
    (tail : Discounts.Lowers second third) : Discounts.Lowers first third := by
  intro nonneg
  obtain ⟨middleNonneg, middleLe⟩ := head nonneg
  obtain ⟨lastNonneg, lastLe⟩ := tail middleNonneg
  exact ⟨lastNonneg, lastLe.trans middleLe⟩

/-- The price after the promotion. -/
def promoPrice (env : Env host) (registry : Registry) (total : Int) : Int :=
  if PromoActive env registry then
    (total * (maxBps - RegistryApi.getGlobalPromoBps registry env.timestamp)).tdiv maxBps
  else total

/-- The price after a preimage. -/
def preimagePrice (preimage : Option Bytes) (price : Int) : Int :=
  if preimage.isSome then (price * 90).tdiv 100 else price

/-- The price after a code of the event. -/
def codePrice (discounts : Discounts) (eventId : EventId) (code : Option String) (price : Int) :
    Int :=
  match code.bind fun code => discounts.code.get (eventId, code) with
  | some data => (price * (100 - data.percentage)).tdiv 100
  | none => price

/-- The price of a purchase after all discounts. -/
def discountedPrice (env : Env host) (world : World Registry) (purchase : Purchase) : Int :=
  codePrice world.discounts purchase.eventId purchase.options.discountCode
    (preimagePrice purchase.options.codePreimage
      (promoPrice env world.registry (purchase.amount * purchase.quantity)))

theorem applyGlobalPromo_ensures {total : Int} :
    Ensures (applyGlobalPromo env total) world fun price next => next = world ∧
      Discounts.Lowers total price ∧ price = promoPrice env world.registry total := by
  simp only [applyGlobalPromo, requireRegistry, ensures_rules, checked]
  intro _
  refine ⟨fun active bounded price share => ⟨trivial, fun nonneg => ?_, ?_⟩,
    fun inactive => ⟨trivial, .refl, (if_neg inactive).symm⟩⟩
  · exact mulDiv_bounds share nonneg (by omega) (by omega)
  · rw [eq_of_mulDiv share]
    exact (if_pos active).symm

/-- The hash is registered and not spent. -/
def Discounts.HashValid (discounts : Discounts) (hash : BytesN32) : Prop :=
  (discounts.hash.get hash).isSome = true ∧ (discounts.hashUsed.get hash).isSome = false

/-- The code of the event is known and has a use left. -/
def Discounts.CodeValid (discounts : Discounts) (eventId : EventId) (code : String) : Prop :=
  ∃ data, discounts.code.get (eventId, code) = some data ∧ data.currentUses < data.maxUses

omit [RegistryApi Registry] in
theorem applyCodePreimage_ensures {preimage : Option Bytes} :
    Ensures (applyCodePreimage host preimage price) world fun result next => next = world ∧
      Discounts.Lowers price result.1 ∧ result.1 = preimagePrice preimage price ∧
      result.2 = preimage.map host.sha256 ∧
      ∀ bytes, preimage = some bytes → world.discounts.HashValid (host.sha256 bytes) := by
  cases preimage with
  | none =>
    simp only [applyCodePreimage, ensures_pure]
    exact ⟨trivial, .refl, rfl, rfl, nofun⟩
  | some preimage =>
    simp only [applyCodePreimage, ensures_rules, checked]
    intro registered unspent discounted share
    refine ⟨trivial, fun nonneg => ?_, eq_of_mulDiv share, rfl, fun bytes same => ?_⟩
    · exact mulDiv_bounds share nonneg (by decide) (by decide)
    · cases same
      exact ⟨registered, unspent⟩

/-- The discounts after one more use of a code. -/
def countUse (eventId : EventId) (code : Option String) (discounts : Discounts) : Discounts :=
  match code with
  | none => discounts
  | some code =>
    match discounts.code.get (eventId, code) with
    | none => discounts
    | some data =>
      { discounts with
        code := discounts.code.set (eventId, code)
          { data with currentUses := data.currentUses + 1 } }

/-- The discounts after a hash was spent. -/
def spendHash (hash : Option BytesN32) (discounts : Discounts) : Discounts :=
  match hash with
  | none => discounts
  | some hash => { discounts with hashUsed := discounts.hashUsed.set hash () }

/-- What a sale does to the discounts. -/
def Purchase.redeem (host : Host) (purchase : Purchase) (discounts : Discounts) : Discounts :=
  spendHash (purchase.options.codePreimage.map host.sha256)
    (countUse purchase.eventId purchase.options.discountCode discounts)

variable {eventId : EventId}

omit [RegistryApi Registry] in
theorem applyDiscountCode_ensures {code : Option String} :
    Ensures (applyDiscountCode env eventId code price) world fun result next =>
      next = world.withDiscounts (countUse eventId code) ∧ Discounts.Lowers price result ∧
        result = codePrice world.discounts eventId code price ∧
        ∀ used, code = some used → world.discounts.CodeValid eventId used := by
  cases code with
  | none =>
    simp only [applyDiscountCode, ensures_pure]
    exact ⟨rfl, .refl, rfl, nofun⟩
  | some code =>
    simp only [applyDiscountCode, ensures_rules, checked]
    intro data found _ left bounded discounted share
    refine ⟨?_, fun nonneg => ?_, ?_, fun used same => ?_⟩
    · simp only [World.withDiscounts, countUse, found]
    · exact mulDiv_bounds share nonneg (by omega) (by omega)
    · rw [codePrice, Option.bind_some, found]
      exact eq_of_mulDiv share
    · cases same
      exact ⟨data, found, left⟩

/-! ### The split accounts for the price -/

/-- How the parts of a split arise. `gross` is the fee before the rebate, `reward` what the
platform gives up for the referrer. -/
structure SplitTerms (price : Int) (feeBps loyaltyBps : Nat) (referralRate : Option Nat)
    (split : Split) (gross rebate reward : Int) : Prop where
  grossEq : gross = (price * feeBps).tdiv maxBps
  rebateEq : rebate = if 0 < loyaltyBps then min ((gross * loyaltyBps).tdiv maxBps) gross else 0
  rewardEq : reward = match referralRate with
    | none => 0
    | some rate => min (((gross - rebate) * rate).tdiv maxBps) (gross - rebate)
  effectiveTotalEq : split.effectiveTotal = price - rebate
  platformFeeEq : split.platformFee = gross - rebate - reward
  referralRewardEq : split.referralReward = match referralRate with
    | none => 0
    | some _ => min reward (price - gross)
  organizerAmountEq : split.organizerAmount = price - gross - split.referralReward

variable {split : Split}

theorem splitPayment_terms {feeBps loyaltyBps : Nat} {referralRate : Option Nat}
    (paid : splitPayment price feeBps loyaltyBps referralRate = some split) :
    ∃ gross rebate reward,
      SplitTerms price feeBps loyaltyBps referralRate split gross rebate reward := by
  simp only [splitPayment, Option.bind_eq_bind, Option.bind_eq_some_iff] at paid
  obtain ⟨gross, grossEq, rebate, rebateEq, fee, feeEq, effective, effectiveEq, organizer,
    organizerEq, rest⟩ := paid
  have grossTerm := eq_of_mulDiv grossEq
  have feeTerm := eq_of_checkedSub feeEq
  have effectiveTerm := eq_of_checkedSub effectiveEq
  have organizerTerm : organizer = price - gross := by
    rw [eq_of_checkedSub organizerEq, effectiveTerm, feeTerm]
    ring
  have rebateTerm :
      rebate = if 0 < loyaltyBps then min ((gross * loyaltyBps).tdiv maxBps) gross else 0 := by
    unfold loyaltyRebate at rebateEq
    by_cases loyal : 0 < loyaltyBps
    · rw [if_pos loyal] at rebateEq ⊢
      obtain ⟨share, shareEq, rfl⟩ := Option.map_eq_some_iff.mp rebateEq
      rw [eq_of_mulDiv shareEq]
    · rw [if_neg loyal] at rebateEq ⊢
      exact (Option.some.inj rebateEq).symm
  cases referralRate with
  | none =>
    cases rest
    exact ⟨gross, rebate, 0, grossTerm, rebateTerm, rfl, effectiveTerm, by rw [feeTerm, sub_zero],
      rfl, by rw [organizerTerm, sub_zero]⟩
  | some rate =>
    simp only [Option.bind_eq_some_iff, Option.map_eq_some_iff,
      Option.some.injEq] at rest
    obtain ⟨reward, ⟨share, shareEq, rfl⟩, kept, keptEq, left, leftEq, rfl⟩ := rest
    refine ⟨gross, rebate, min share fee, grossTerm, rebateTerm, ?_, effectiveTerm, ?_, ?_, ?_⟩
    · rw [eq_of_mulDiv shareEq, feeTerm]
    · rw [eq_of_checkedSub keptEq, feeTerm]
    · rw [organizerTerm]
    · rw [eq_of_checkedSub leftEq, organizerTerm]

section SplitBounds

variable {gross rebate reward : Int} {feeBps loyaltyBps : Nat} {rate : Option Nat}

variable (terms : SplitTerms price feeBps loyaltyBps rate split gross rebate reward)

include terms

variable (nonneg : 0 ≤ price)

include nonneg

theorem SplitTerms.gross_nonneg : 0 ≤ gross := by
  rw [terms.grossEq]
  exact Int.tdiv_nonneg (Int.mul_nonneg nonneg (Int.natCast_nonneg _)) (Int.natCast_nonneg _)

theorem SplitTerms.rebate_bounds : 0 ≤ rebate ∧ rebate ≤ gross := by
  have grossNonneg := terms.gross_nonneg nonneg
  rw [terms.rebateEq]
  split
  · have share : 0 ≤ (gross * loyaltyBps).tdiv maxBps :=
      Int.tdiv_nonneg (Int.mul_nonneg grossNonneg (Int.natCast_nonneg _)) (Int.natCast_nonneg _)
    exact ⟨le_min share grossNonneg, min_le_right _ _⟩
  · exact ⟨le_rfl, grossNonneg⟩

theorem SplitTerms.reward_bounds : 0 ≤ reward ∧ reward ≤ gross - rebate := by
  obtain ⟨_, rebateLe⟩ := terms.rebate_bounds nonneg
  have feeNonneg : 0 ≤ gross - rebate := by omega
  rw [terms.rewardEq]
  cases rate with
  | none => exact ⟨le_rfl, feeNonneg⟩
  | some bps =>
    have share : 0 ≤ ((gross - rebate) * bps).tdiv maxBps :=
      Int.tdiv_nonneg (Int.mul_nonneg feeNonneg (Int.natCast_nonneg _)) (Int.natCast_nonneg _)
    exact ⟨le_min share feeNonneg, min_le_right _ _⟩

/-- The organizer never gets more than the buyer pays. -/
theorem SplitTerms.organizerAmount_le (paid : 0 ≤ split.effectiveTotal) :
    split.organizerAmount ≤ split.effectiveTotal := by
  obtain ⟨_, rebateLe⟩ := terms.rebate_bounds nonneg
  obtain ⟨rewardNonneg, _⟩ := terms.reward_bounds nonneg
  have organizer := terms.organizerAmountEq
  have effective := terms.effectiveTotalEq
  have referral := terms.referralRewardEq
  cases rate with
  | none =>
    simp only at referral
    omega
  | some bps =>
    simp only at referral
    omega

/-- With a fee of at most the whole price nobody's part is negative, and the parts together
are covered by what the buyer pays. -/
theorem SplitTerms.covered (bounded : feeBps ≤ maxBps) :
    0 ≤ split.organizerAmount ∧ 0 ≤ split.referralReward ∧
      split.organizerAmount + split.platformFee + split.referralReward ≤
        split.effectiveTotal := by
  have grossLe : gross ≤ price := by
    rw [terms.grossEq]
    exact (tdiv_share_bounds nonneg (Int.natCast_nonneg _) (Int.ofNat_le.mpr bounded)).2
  obtain ⟨rewardNonneg, _⟩ := terms.reward_bounds nonneg
  have organizer := terms.organizerAmountEq
  have fee := terms.platformFeeEq
  have effective := terms.effectiveTotalEq
  have referral := terms.referralRewardEq
  cases rate with
  | none =>
    simp only at referral
    omega
  | some bps =>
    simp only at referral
    omega

end SplitBounds

/-! ### What a sale does -/

/-- What the referrer of a sale is really sent. -/
def rewardPaid (purchase : Purchase) (split : Split) : Int :=
  if purchase.options.referrer.isSome ∧ 0 < split.referralReward then split.referralReward else 0

theorem rewardPaid_bounds (purchase : Purchase) (split : Split) :
    0 ≤ rewardPaid purchase split ∧ rewardPaid purchase split ≤ max split.referralReward 0 := by
  unfold rewardPaid
  split <;> omega

/-- The movement of the reward, which stays in place when the contract is the referrer. -/
@[simp]
def rewardLine (host : Host) (purchase : Purchase) (split : Split) : Posting Account :=
  (.held purchase.tokenAddress,
    if purchase.options.referrer = some host.contract then 0 else -rewardPaid purchase split)

@[simp]
def paymentLines (host : Host) (purchase : Purchase) (split : Split) : List (Posting Account) :=
  (.held purchase.tokenAddress, split.effectiveTotal) ::
    World.noted purchase.headings split.effectiveTotal ++ [rewardLine host purchase split]

@[simp]
def bookLines (purchase : Purchase) (totalAmount : Int) (split : Split) :
    List (Posting Account) :=
  [(.organizer purchase.eventId, split.organizerAmount), (.withdrawn purchase.eventId, 0),
    (.platform purchase.eventId, split.platformFee),
    (.fees purchase.tokenAddress, split.platformFee), (.escrowTotal, totalAmount),
    (.escrow purchase.tokenAddress, totalAmount)]

omit [RegistryApi Registry] in
theorem takePayment_ensures (outside : purchase.buyerAddress ≠ host.contract) :
    Ensures (takePayment host purchase split) world fun _ next =>
      Does host (.posting (paymentLines host purchase split)) world next ∧
        0 ≤ split.effectiveTotal ∧ next.settings = world.settings ∧
        next.registry = world.registry := by
  simp only [takePayment, ensures_rules, ensures_pullIn, checked]
  intro _ _ allowed _ _ _
  have pulled : Does host (.posting ((.held purchase.tokenAddress, split.effectiveTotal) ::
        World.noted purchase.headings split.effectiveTotal)) world
      (world.pull host purchase.tokenAddress purchase.buyerAddress split.effectiveTotal
        purchase.headings) :=
    Does.pull_outside outside purchase.tokenAddress split.effectiveTotal purchase.headings
  cases referrer : purchase.options.referrer with
  | none =>
    simp only [ensures_pure]
    refine ⟨?_, allowed.1, rfl, rfl⟩
    have line : rewardLine host purchase split = (.held purchase.tokenAddress, 0) := by
      simp [rewardPaid, referrer]
    rw [paymentLines, line]
    exact pulled.add_zero_line _
  | some address =>
    simp only [ensures_rules, ensures_payOut]
    refine ⟨fun positive _ => ⟨?_, allowed.1, rfl, rfl⟩,
      fun notPositive => ⟨?_, allowed.1, rfl, rfl⟩⟩
    · have line : rewardLine host purchase split = (.held purchase.tokenAddress,
          if address = host.contract then 0 else -split.referralReward) := by
        simp [rewardPaid, referrer, positive]
      rw [paymentLines, line]
      exact pulled.trans_posting (Does.pay purchase.tokenAddress address split.referralReward [])
    · have line : rewardLine host purchase split = (.held purchase.tokenAddress, 0) := by
        simp [rewardPaid, notPositive]
      rw [paymentLines, line]
      exact pulled.add_zero_line _

omit [RegistryApi Registry] in
theorem bookSale_ensures (host : Host) {totalAmount : Int} :
    Ensures (bookSale purchase totalAmount split) world fun _ next =>
      Does host (.posting (bookLines purchase totalAmount split)) world next ∧
        next.registry = world.registry := by
  simp only [bookSale, ensures_bind, ensures_updateEventBalance, ensures_counters]
  intro _ _ _ _ _ _
  refine ⟨?_, rfl⟩
  have balanced : Does host _ world _ :=
    Does.creditEvent purchase.eventId split.organizerAmount split.platformFee
  have booked := (balanced.then_nothing (.addVolume totalAmount)).trans_posting
    (.addFees purchase.tokenAddress split.platformFee)
  exact (booked.trans_posting (.addEscrowTotal totalAmount)).trans_posting
    (.addEscrow purchase.tokenAddress totalAmount)

/-- No promotion runs and no code is used. -/
def Undiscounted (env : Env host) (world : World Registry) (purchase : Purchase) : Prop :=
  ¬PromoActive env world.registry ∧ purchase.options.codePreimage = none ∧
    purchase.options.discountCode = none

instance (env : Env host) (world : World Registry) (purchase : Purchase) :
    Decidable (Undiscounted env world purchase) :=
  inferInstanceAs (Decidable (_ ∧ _ ∧ _))

/-- What a successful sale has computed. -/
structure Sale where
  event : EventInfo
  totalAmount : Int
  price : Int
  split : Split
  share : TicketShare

/-- The sale is what this purchase comes to in this state. -/
structure Sale.Of (env : Env host) (world : World Registry) (purchase : Purchase)
    (sale : Sale) : Prop where
  signed : env.signed purchase.buyerAddress = true
  unstored : world.tickets.getPayment purchase.paymentId = none
  amount_nonneg : 0 ≤ purchase.amount
  quantity_ne_zero : purchase.quantity ≠ 0
  event : RegistryApi.getEvent world.registry purchase.eventId = some sale.event
  total : sale.totalAmount = purchase.amount * purchase.quantity
  lowers : Discounts.Lowers sale.totalAmount sale.price
  priceEq : sale.price = discountedPrice env world purchase
  split : splitPayment sale.price (feeBps env world.settings sale.event)
    (RegistryApi.getLoyaltyDiscountBps world.registry purchase.buyerAddress)
    (referralRate world.settings purchase.eventId purchase.options.referrer) = some sale.split
  paid : 0 ≤ sale.split.effectiveTotal
  share : sale.split.perTicket purchase.quantity = some sale.share
  uncancelled : isEventCancelledForRefund world purchase.eventId = false
  hashValid : ∀ preimage, purchase.options.codePreimage = some preimage →
    world.discounts.HashValid (host.sha256 preimage)
  codeValid : ∀ code, purchase.options.discountCode = some code →
    world.discounts.CodeValid purchase.eventId code

variable {sale : Sale}

section

variable (of : sale.Of env world purchase)

include of

theorem Sale.Of.price_nonneg : 0 ≤ sale.price := by
  refine (of.lowers ?_).1
  rw [of.total]
  exact Int.mul_nonneg of.amount_nonneg (Int.natCast_nonneg _)

theorem Sale.Of.organizerAmount_le : sale.split.organizerAmount ≤ sale.split.effectiveTotal := by
  obtain ⟨_, _, _, terms⟩ := splitPayment_terms of.split
  exact terms.organizerAmount_le of.price_nonneg of.paid

theorem Sale.Of.undiscounted (undiscounted : Undiscounted env world purchase) :
    sale.price = sale.totalAmount := by
  obtain ⟨promo, preimage, code⟩ := undiscounted
  rw [of.priceEq, of.total, discountedPrice, preimage, code, promoPrice, if_neg promo]
  rfl

/-- Without discount and rebate the buyer pays the total. -/
theorem Sale.Of.effectiveTotal_eq (undiscounted : Undiscounted env world purchase)
    (disloyal : RegistryApi.getLoyaltyDiscountBps world.registry purchase.buyerAddress = 0) :
    sale.split.effectiveTotal = sale.totalAmount := by
  obtain ⟨gross, rebate, reward, terms⟩ := splitPayment_terms of.split
  have none : rebate = 0 := by
    rw [terms.rebateEq, disloyal, if_neg (lt_irrefl 0)]
  rw [terms.effectiveTotalEq, none, sub_zero, of.undiscounted undiscounted]

theorem Sale.Of.single_total (single : purchase.quantity = 1) :
    sale.totalAmount = purchase.amount := by
  rw [of.total, single, Nat.cast_one, mul_one]

/-- A single ticket carries the whole split. -/
theorem Sale.Of.single_share (single : purchase.quantity = 1) :
    sale.share = ⟨sale.split.platformFee, sale.split.organizerAmount,
      sale.split.referralReward⟩ := by
  have share := of.share
  simp only [Split.perTicket, single, Option.bind_eq_bind, Option.bind_eq_some_iff,
    Option.some.injEq] at share
  obtain ⟨_, platformEq, _, organizerEq, _, referralEq, shareEq⟩ := share
  rw [← shareEq, (eq_of_checkedDiv platformEq).2, (eq_of_checkedDiv organizerEq).2,
    (eq_of_checkedDiv referralEq).2]
  simp

end

@[simp]
def Sale.change (env : Env host) (purchase : Purchase) (sale : Sale) : Change where
  lines := paymentLines host purchase sale.split ++
    bookLines purchase sale.totalAmount sale.split
  tickets := issueTickets purchase sale.share env.timestamp
  discounts := purchase.redeem host
  callsRegistry := true

omit [RegistryApi Registry] in
theorem checkPurchase_ensures :
    Ensures (checkPurchase env purchase) world fun _ next => next = world ∧
      env.signed purchase.buyerAddress = true ∧
      world.tickets.getPayment purchase.paymentId = none ∧
      0 ≤ purchase.amount ∧ purchase.quantity ≠ 0 := by
  simp only [checkPurchase, ensures_rules, ensures_checks]
  intro _ _ signed unstored _ nonneg nonzero _
  exact ⟨trivial, signed, unstored, nonneg, nonzero⟩

theorem checkEvent_ensures :
    Ensures (checkEvent purchase) world fun result next => next = world ∧
      RegistryApi.getEvent world.registry purchase.eventId = some result.1 ∧
      isEventCancelledForRefund world purchase.eventId = false := by
  simp only [checkEvent, ensures_rules, ensures_getEvent]
  intro _ event found _ _ uncancelled _ _
  exact ⟨trivial, found, uncancelled⟩

variable {tier : TicketTier}

omit [RegistryApi Registry] in
theorem checkPrice_ensures {token : Address} {amount : Int} :
    Ensures (checkPrice env token tier amount) world fun _ next => next = world := by
  simp only [checkPrice, fetchFreshAssetPrice, checked, ensures_rules, implies_true, and_self]

/-- Only the flag of a past price switch changes. -/
def SameButPriceSwitch (world next : World Registry) : Prop :=
  ∃ switched, next = world.withSettings fun settings => { settings with priceSwitched := switched }

omit [RegistryApi Registry] in
theorem switchPrice_ensures {tierId : TierId} :
    Ensures (switchPrice env eventId tierId tier) world fun _ next =>
      SameButPriceSwitch world next := by
  simp only [switchPrice, ensures_rules]
  exact ⟨fun _ => ⟨_, rfl⟩, fun _ => ⟨world.settings.priceSwitched, rfl⟩⟩

omit [RegistryApi Registry] in
theorem markDiscountHashUsed_ensures {hash : Option BytesN32} :
    Ensures (markDiscountHashUsed hash) world fun _ next =>
      next = world.withDiscounts (spendHash hash) := by
  cases hash with
  | none =>
    simp only [markDiscountHashUsed, ensures_pure]
    rfl
  | some hash =>
    simp only [markDiscountHashUsed, ensures_modify]
    rfl

/-- A successful sale posts its payment and its booking, issues its tickets, and leaves the
bids and listings alone. -/
theorem processPayment_ensures :
    Ensures (processPayment env purchase) world fun _ next =>
      ∃ sale : Sale, sale.Of env world purchase ∧ Does host (sale.change env purchase) world next ∧
        ∃ registry, RegistryApi.incrementInventory world.registry host.contract purchase.eventId
            purchase.ticketTierId purchase.ownerAddress purchase.quantity purchase.tokenAddress =
              some registry ∧
          ∃ multiplier, next.registry = RegistryApi.updateLoyaltyScore registry host.contract
            purchase.buyerAddress purchase.quantity sale.split.effectiveTotal multiplier
            env.timestamp := by
  refine checkPurchase_ensures.bind ?_
  rintro _ _ ⟨rfl, signed, unstored, nonneg, nonzero⟩
  simp only [checked, ensures_rules]
  intro totalAmount totalEq
  refine applyGlobalPromo_ensures.mono ?_
  rintro afterPromo _ ⟨rfl, promoLowers, promoEq⟩
  refine applyCodePreimage_ensures.mono ?_
  rintro ⟨afterHash, codeHash⟩ start ⟨rfl, hashLowers, hashEq, codeHashEq, hashValid⟩
  obtain rfl : codeHash = _ := codeHashEq
  refine applyDiscountCode_ensures.mono ?_
  rintro price _ ⟨rfl, codeLowers, codeEq, codeValid⟩
  refine checkEvent_ensures.mono ?_
  rintro ⟨event, tier⟩ _ ⟨rfl, found, uncancelled⟩
  refine checkPrice_ensures.mono ?_
  rintro _ _ rfl
  refine switchPrice_ensures.mono ?_
  rintro _ _ ⟨switched, rfl⟩ split splitEq
  refine (takePayment_ensures (ne_contract_of_signed env signed)).mono ?_
  rintro _ paidWorld ⟨paidDoes, paid, _, paidRegistry⟩
  refine (bookSale_ensures host).mono ?_
  rintro _ bookedWorld ⟨bookedDoes, bookedRegistry⟩
  refine markDiscountHashUsed_ensures.mono ?_
  rintro _ _ rfl
  simp only [ensures_incrementInventory, ensures_rules, awardLoyalty]
  intro registry incremented share shareEq
  have counted : Does host _ start _ := Does.withDiscounts
    (countUse purchase.eventId purchase.options.discountCode) rfl
  have spent : Does host _ bookedWorld _ := Does.withDiscounts
    (spendHash (purchase.options.codePreimage.map host.sha256)) rfl
  have money := counted.trans (Does.after_nothing (.withSettings _)
    (paidDoes.trans_posting bookedDoes))
  have stocked := (money.trans spent).trans (.withRegistry registry)
  have issued := stocked.trans (.withTickets (issueTickets purchase share env.timestamp))
  refine ⟨⟨event, totalAmount, price, split, share⟩,
    ⟨signed, unstored, nonneg, nonzero, found, eq_of_checkedMul totalEq,
      (promoLowers.trans hashLowers).trans codeLowers, ?_, splitEq, paid, shareEq,
      uncancelled, hashValid, codeValid⟩, ?_,
    registry, ?_, tier.loyaltyMultiplier, rfl⟩
  · show price = _
    rw [codeEq, show afterHash = _ from hashEq, promoEq, eq_of_checkedMul totalEq]
    rfl
  · refine (issued.trans (.withRegistry _)).congr_lines fun account => ?_
    simp [Change.andThen]
  · rw [← incremented]
    show _ = RegistryApi.incrementInventory bookedWorld.registry _ _ _ _ _ _
    rw [bookedRegistry, paidRegistry]
    rfl

end Agora.TicketPayment

/-
This file models the auctions of tickets: bids, which are held by the contract until
they are outbid, and the closing, which books the highest bid as a sale and issues
one ticket under an id that the caller chooses.

The highest bid stays stored after the closing. Only the end time of the tier keeps
further bids out, and the registry decides it.
-/

import Agora.TicketPayment.Change

namespace Agora.TicketPayment

open Soroban

variable {Registry : Type} [RegistryApi Registry] {host : Host}

def isAuctionClosed (auctions : Auctions) (eventId : EventId) (tierId : TierId) : Bool :=
  (auctions.closed.get (eventId, tierId)).isSome

def requireOnSale (event : EventInfo) : Entry Registry Unit :=
  require (event.isActive = true ∧ event.status ≠ .cancelled) (.error .eventInactive)

def auctionConfigOf (event : EventInfo) (tierId : TierId) : Entry Registry AuctionConfig := do
  let tier ← orFault (event.tiers tierId) (.error .tierNotFound)
  orFault tier.auctionConfig.head? (.error .notAuctionTier)

/-! ### Bids -/

def minRequired (config : AuctionConfig) (previous : Option HighestBid) : Option Int :=
  match previous with
  | none => some config.startPrice
  | some bid => checkedAdd bid.amount config.minIncrement

def takeBid (host : Host) (bid : HighestBid) : Entry Registry Unit := do
  let world ← get
  require (bid.amount ≤ world.tokens.allowance bid.tokenAddress bid.bidder host.contract)
    (.error .insufficientAllowance)
  pullIn host bid.tokenAddress bid.bidder bid.amount []
  addToActiveEscrowTotal bid.amount
  addToActiveEscrowByToken bid.tokenAddress bid.amount

def returnBid (host : Host) (previous : Option HighestBid) : Entry Registry Unit :=
  match previous with
  | none => pure ()
  | some bid => do
    payOut host bid.tokenAddress bid.bidder bid.amount []
    subtractFromActiveEscrowTotal bid.amount
    subtractFromActiveEscrowByToken bid.tokenAddress bid.amount

def setHighestBid (eventId : EventId) (tierId : TierId) (bid : HighestBid)
    (auctions : Auctions) : Auctions :=
  { auctions with highestBid := auctions.highestBid.set (eventId, tierId) bid }

def placeBid (env : Env host) (eventId : EventId) (tierId : TierId) (bid : HighestBid) :
    Entry Registry Unit := do
  requireInitialized
  requireNotPaused
  requireAuth env bid.bidder
  let world ← get
  require (isTokenWhitelisted world bid.tokenAddress = true) (.error .tokenNotWhitelisted)
  let event ← getEvent eventId
  requireOnSale event
  require (eventAcceptsToken world event bid.tokenAddress = true) (.error .tokenNotWhitelisted)
  let config ← auctionConfigOf event tierId
  require (env.timestamp ≤ config.endTime) (.error .auctionEnded)
  let previous := world.auctions.highestBid.get (eventId, tierId)
  let least ← checked (minRequired config previous)
  require (least ≤ bid.amount) (.error .bidTooLow)
  takeBid host bid
  returnBid host previous
  modify (·.withAuctions (setHighestBid eventId tierId bid))

/-! ### Closing -/

def setAuctionClosed (eventId : EventId) (tierId : TierId) (auctions : Auctions) : Auctions :=
  { auctions with closed := auctions.closed.set (eventId, tierId) () }

/-- The ticket of the winner. -/
def auctionRecord (paymentId : PaymentId) (eventId : EventId) (tierId : TierId)
    (bid : HighestBid) (fee organizerAmount : Int) (timestamp : Nat) : Payment where
  paymentId := paymentId
  eventId := eventId
  buyerAddress := bid.bidder
  ownerAddress := bid.bidder
  ticketTierId := tierId
  tokenAddress := bid.tokenAddress
  amount := bid.amount
  platformFee := fee
  organizerAmount := organizerAmount
  status := .confirmed
  transactionHash := ""
  createdAt := timestamp
  confirmedAt := some timestamp
  refundedAmount := 0
  isSoulbound := false
  lastCheckedInAt := 0
  referralAmount := 0
  referrer := none

/-- A professional organizer pays the fee here. -/
def hammerFeeBps (event : EventInfo) : Nat :=
  event.customFeeBps.getD event.platformFeePercent

/-- The winning bid becomes revenue of the event. The tokens came in with the bid, and are
noted now. -/
def bookHammerPrice (paymentId : PaymentId) (eventId : EventId) (bid : HighestBid)
    (fee organizerAmount : Int) : Entry Registry Unit := do
  modify (·.note [.charged paymentId, .received eventId bid.tokenAddress] bid.amount)
  updateEventBalance eventId organizerAmount fee
  addToTotalVolumeProcessed bid.amount
  addToTotalFeesCollectedByToken bid.tokenAddress fee

def closeAuction (env : Env host) (paymentId : PaymentId) (eventId : EventId)
    (tierId : TierId) : Entry Registry Unit := do
  requireInitialized
  requireNotPaused
  let event ← getEvent eventId
  requireOnSale event
  let config ← auctionConfigOf event tierId
  require (config.endTime < env.timestamp) (.error .auctionNotEnded)
  let world ← get
  require (isAuctionClosed world.auctions eventId tierId = false) (.error .auctionEnded)
  let bid ← orFault (world.auctions.highestBid.get (eventId, tierId)) (.error .noFundsAvailable)
  modify (·.withAuctions (setAuctionClosed eventId tierId))
  let fee ← checked (mulDiv bid.amount (hammerFeeBps event) maxBps)
  let organizerAmount ← checked (checkedSub bid.amount fee)
  bookHammerPrice paymentId eventId bid fee organizerAmount
  incrementInventory host eventId tierId bid.bidder 1 bid.tokenAddress
  modify (·.withTickets fun tickets => tickets.storePayment
    (auctionRecord paymentId eventId tierId bid fee organizerAmount env.timestamp))

/-! ### What a bid does -/

@[simp]
def takeLines (bid : HighestBid) : List (Posting Account) :=
  [(.held bid.tokenAddress, bid.amount), (.escrowTotal, bid.amount),
    (.escrow bid.tokenAddress, bid.amount)]

@[simp]
def returnLines (host : Host) (previous : Option HighestBid) : List (Posting Account) :=
  match previous with
  | none => []
  | some bid =>
    [(.held bid.tokenAddress, if bid.bidder = host.contract then 0 else -bid.amount),
      (.escrowTotal, -bid.amount), (.escrow bid.tokenAddress, -bid.amount)]

@[simp]
def bidChange (host : Host) (eventId : EventId) (tierId : TierId) (bid : HighestBid)
    (previous : Option HighestBid) : Change where
  lines := takeLines bid ++ returnLines host previous
  auctions := setHighestBid eventId tierId bid

/-- What the return of a bid adds to a holder of a token. -/
def repayment (host : Host) (previous : Option HighestBid) (token holder : Address) : Int :=
  match previous with
  | none => 0
  | some bid => Tokens.moved bid.tokenAddress host.contract bid.bidder bid.amount token holder

variable {env : Env host} {world : World Registry} {bid : HighestBid} {eventId : EventId}
  {tierId : TierId} {paymentId : PaymentId}

omit [RegistryApi Registry] in
theorem takeBid_ensures (outside : bid.bidder ≠ host.contract) :
    Ensures (takeBid host bid) world fun _ next =>
      0 ≤ bid.amount ∧ Does host (.posting (takeLines bid)) world next ∧
        ∀ token holder, next.tokens.balance token holder = world.tokens.balance token holder +
          Tokens.moved bid.tokenAddress bid.bidder host.contract bid.amount token holder := by
  simp only [takeBid, ensures_rules, ensures_pullIn, ensures_counters]
  intro _ _ allowed _ _
  have pulled : Does host (.posting [(.held bid.tokenAddress, bid.amount)]) world _ :=
    Does.pull_outside outside bid.tokenAddress bid.amount []
  exact ⟨allowed.1, (pulled.trans_posting (.addEscrowTotal bid.amount)).trans_posting
    (.addEscrow bid.tokenAddress bid.amount), fun _ _ => rfl⟩

omit [RegistryApi Registry] in
theorem returnBid_ensures {host : Host} {previous : Option HighestBid} :
    Ensures (returnBid host previous) world fun _ next =>
      Does host (.posting (returnLines host previous)) world next ∧
        ∀ token holder, next.tokens.balance token holder =
          world.tokens.balance token holder + repayment host previous token holder := by
  cases previous with
  | none =>
    simp only [returnBid, ensures_pure]
    exact ⟨Does.refl world, fun _ _ => (add_zero _).symm⟩
  | some bid =>
    simp only [returnBid, subtractFromActiveEscrowTotal, subtractFromActiveEscrowByToken,
      ensures_bind, ensures_payOut, ensures_counters]
    intro _ _ _
    have paid : Does host (.posting [_]) world _ :=
      Does.pay bid.tokenAddress bid.bidder bid.amount []
    exact ⟨(paid.trans_posting (.addEscrowTotal (-bid.amount))).trans_posting
      (.addEscrow bid.tokenAddress (-bid.amount)), fun _ _ => rfl⟩

/-- The configuration of the auction of a tier. -/
def EventInfo.auctionConfig (event : EventInfo) (tierId : TierId) : Option AuctionConfig :=
  (event.tiers tierId).bind fun tier => tier.auctionConfig.head?

variable {event : EventInfo}

theorem EventInfo.auctionConfig_eq_some {tier : TicketTier} {config : AuctionConfig}
    (found : event.tiers tierId = some tier) (head : tier.auctionConfig.head? = some config) :
    event.auctionConfig tierId = some config := by
  rw [auctionConfig, found, Option.bind_some, head]

/-- What a successful bid has checked. -/
structure BidOf (env : Env host) (world : World Registry) (eventId : EventId) (tierId : TierId)
    (bid : HighestBid) (event : EventInfo) (config : AuctionConfig) : Prop where
  eventEq : RegistryApi.getEvent world.registry eventId = some event
  onSale : event.isActive = true ∧ event.status ≠ .cancelled
  configEq : event.auctionConfig tierId = some config
  inTime : env.timestamp ≤ config.endTime
  enough : ∃ least, minRequired config (world.auctions.highestBid.get (eventId, tierId)) =
    some least ∧ least ≤ bid.amount

/-- What a bid does, and what each holder has of the tokens after it. -/
theorem placeBid_ensures :
    Ensures (placeBid env eventId tierId bid) world fun _ next =>
      bid.bidder ≠ host.contract ∧ 0 ≤ bid.amount ∧
        (∃ event config, BidOf env world eventId tierId bid event config) ∧
        Does host (bidChange host eventId tierId bid
          (world.auctions.highestBid.get (eventId, tierId))) world next ∧
        ∀ token holder, next.tokens.balance token holder = world.tokens.balance token holder +
          Tokens.moved bid.tokenAddress bid.bidder host.contract bid.amount token holder +
          repayment host (world.auctions.highestBid.get (eventId, tierId)) token holder := by
  simp only [placeBid, requireOnSale, auctionConfigOf, checked, ensures_bind, ensures_get,
    ensures_checks, ensures_require, ensures_getEvent, ensures_orFault]
  intro _ _ signed _ _ event found onSale _ tier tierEq config configEq inTime least leastEq enough
  have outside := ne_contract_of_signed env signed
  refine (takeBid_ensures outside).mono ?_
  rintro _ taken ⟨nonneg, takenDoes, paid⟩
  refine returnBid_ensures.mono ?_
  rintro _ returned ⟨returnedDoes, repaid⟩
  rw [ensures_modify]
  have money := takenDoes.trans_posting returnedDoes
  refine ⟨outside, nonneg, ⟨event, config, found, onSale, event.auctionConfig_eq_some tierEq
    configEq, inTime, least, leastEq, enough⟩, (money.trans (.withAuctions (setHighestBid eventId
    tierId bid))).congr_lines fun account => ?_, fun token holder => ?_⟩
  · simp [Change.andThen]
  · exact (repaid token holder).trans (by rw [paid])

/-! ### What a closing does -/

/-- The auction of a tier that is on sale has ended. -/
structure AuctionEnded (env : Env host) (event : EventInfo) (tierId : TierId)
    (config : AuctionConfig) : Prop where
  onSale : event.isActive = true ∧ event.status ≠ .cancelled
  configEq : event.auctionConfig tierId = some config
  ended : config.endTime < env.timestamp

/-- The event, the bid and the fee of a successful closing. -/
structure ClosingOf (world : World Registry) (eventId : EventId) (tierId : TierId)
    (event : EventInfo) (bid : HighestBid) (fee : Int) : Prop where
  eventEq : RegistryApi.getEvent world.registry eventId = some event
  opened : isAuctionClosed world.auctions eventId tierId = false
  bidEq : world.auctions.highestBid.get (eventId, tierId) = some bid
  feeEq : fee = (bid.amount * hammerFeeBps event).tdiv maxBps

theorem ClosingOf.fee_nonneg {world : World Registry} {eventId : EventId} {bid : HighestBid}
    {fee : Int} (of : ClosingOf world eventId tierId event bid fee) (nonneg : 0 ≤ bid.amount) :
    0 ≤ fee := by
  rw [of.feeEq]
  exact Int.tdiv_nonneg (Int.mul_nonneg nonneg (Int.natCast_nonneg _)) (Int.natCast_nonneg _)

@[simp]
def hammerLines (paymentId : PaymentId) (eventId : EventId) (bid : HighestBid) (fee : Int) :
    List (Posting Account) :=
  World.noted [.charged paymentId, .received eventId bid.tokenAddress] bid.amount ++
    [(.organizer eventId, bid.amount - fee), (.withdrawn eventId, 0), (.platform eventId, fee),
      (.fees bid.tokenAddress, fee)]

@[simp]
def closingChange (env : Env host) (paymentId : PaymentId) (eventId : EventId) (tierId : TierId)
    (bid : HighestBid) (fee : Int) : Change where
  lines := hammerLines paymentId eventId bid fee
  tickets := fun tickets => tickets.storePayment
    (auctionRecord paymentId eventId tierId bid fee (bid.amount - fee) env.timestamp)
  auctions := setAuctionClosed eventId tierId
  callsRegistry := true

omit [RegistryApi Registry] in
theorem bookHammerPrice_ensures (host : Host) {fee : Int} :
    Ensures (bookHammerPrice paymentId eventId bid fee (bid.amount - fee)) world fun _ next =>
      Does host (.posting (hammerLines paymentId eventId bid fee)) world next ∧
        next.tokens = world.tokens := by
  simp only [bookHammerPrice, ensures_rules, ensures_updateEventBalance, ensures_counters]
  intro _ _ _ _
  have noted : Does host _ world _ :=
    Does.note [.charged paymentId, .received eventId bid.tokenAddress] bid.amount
  exact ⟨((noted.trans_posting (.creditEvent eventId (bid.amount - fee) fee)).then_nothing
    (.addVolume bid.amount)).trans_posting (.addFees bid.tokenAddress fee), rfl⟩

/-- A closing moves no tokens. -/
theorem closeAuction_ensures :
    Ensures (closeAuction env paymentId eventId tierId) world fun _ next =>
      ∃ event bid fee, ClosingOf world eventId tierId event bid fee ∧
        (∃ config, AuctionEnded env event tierId config) ∧
        RegistryApi.incrementInventory world.registry host.contract eventId tierId bid.bidder 1
          bid.tokenAddress = some next.registry ∧
        Does host (closingChange env paymentId eventId tierId bid fee) world next ∧
        next.tokens = world.tokens := by
  simp only [closeAuction, requireOnSale, auctionConfigOf, checked, ensures_rules, ensures_checks,
    ensures_getEvent]
  intro _ _ _ event found onSale tier tierEq config configEq ended opened bid bidEq fee feeEq
    organizerAmount organizerEq
  obtain rfl := eq_of_checkedSub organizerEq
  refine (bookHammerPrice_ensures host).mono ?_
  rintro _ booked ⟨bookedDoes, sameTokens⟩
  rw [ensures_incrementInventory]
  intro registry incremented
  have closed : Does host _ world _ := Does.withAuctions (setAuctionClosed eventId tierId)
  have issued := ((closed.trans bookedDoes).trans (.withRegistry registry)).trans
    (.withTickets fun tickets => tickets.storePayment
      (auctionRecord paymentId eventId tierId bid fee (bid.amount - fee) env.timestamp))
  refine ⟨event, bid, fee, ⟨found, opened, bidEq, eq_of_mulDiv feeEq⟩, ⟨config, onSale,
    event.auctionConfig_eq_some tierEq configEq, ended⟩, ?_,
    issued.congr_lines fun account => ?_, sameTokens⟩
  · rw [bookedDoes.registry rfl] at incremented
    exact incremented
  · simp [Change.andThen]

end Agora.TicketPayment

/-
This file shows which entry points of the contract depend on the registry of discount
hashes: `process_payment`, which looks up the hash of the code it is given, and
`add_discount_hashes`, which writes. Every other step does the same whatever is
registered, and so does a payment without a code.

The parts that the entry points are made of are gone through once, in the order of the
modules that define them. The entry points are opened down to these at the end, and
instance search does the rest.
-/

import Agora.Lib.Blind
import Agora.TicketPayment.Contract

namespace Agora.TicketPayment

open Soroban

variable {Registry : Type} {host : Host}

/-- The same state, where the listed hashes are looked up in another registry of hashes. -/
@[reducible]
def World.withListed (listed : List BytesN32) (hashes : Store BytesN32 Unit)
    (world : World Registry) : World Registry :=
  { world with
    discounts := { world.discounts with hash := world.discounts.hash.redirect listed hashes } }

/-- The entry point does not depend on which of the listed hashes are registered. -/
abbrev HashBlind {Value : Type} (listed : List BytesN32) (hashes : Store BytesN32 Unit)
    (entry : Entry Registry Value) : Prop :=
  Blind (World.withListed listed hashes) entry

variable {listed : List BytesN32} {hashes : Store BytesN32 Unit}

-- the search for the instances of a long entry point counts every step under each of its tails
set_option synthInstance.maxSize 100000

/-! ### Updates -/

instance withTickets_blind (update : Tickets → Tickets) :
    HashBlind listed hashes (modify (·.withTickets update) : Entry Registry Unit) :=
  blind_modify fun _ => rfl

instance withSettings_blind (update : Settings → Settings) :
    HashBlind listed hashes (modify (·.withSettings update) : Entry Registry Unit) :=
  blind_modify fun _ => rfl

instance withRegistry_blind (registry : Registry) :
    HashBlind listed hashes (modify (·.withRegistry registry) : Entry Registry Unit) :=
  blind_modify fun _ => rfl

instance withAuctions_blind (update : Auctions → Auctions) :
    HashBlind listed hashes (modify (·.withAuctions update) : Entry Registry Unit) :=
  blind_modify fun _ => rfl

instance withGovernance_blind (update : Governance → Governance) :
    HashBlind listed hashes (modify (·.withGovernance update) : Entry Registry Unit) :=
  blind_modify fun _ => rfl

instance withListing_blind (listing : ResaleListing) :
    HashBlind listed hashes (modify (·.withListing listing) : Entry Registry Unit) :=
  blind_modify fun _ => rfl

instance note_blind (headings : List Trail) (amount : Int) :
    HashBlind listed hashes (modify (·.note headings amount) : Entry Registry Unit) :=
  blind_modify fun _ => rfl

instance withTokens_blind (tokens : Tokens) (headings : List Trail) (amount : Int) :
    HashBlind listed hashes
      (modify fun world => { world with tokens := tokens }.note headings amount :
        Entry Registry Unit) :=
  blind_modify fun _ => rfl

instance setEventBalance_blind (eventId : EventId) (balance : EventBalance) :
    HashBlind listed hashes (setEventBalance eventId balance : Entry Registry Unit) :=
  blind_modify fun _ => rfl

/-! ### Guards -/

instance requireInitialized_blind :
    HashBlind listed hashes (requireInitialized : Entry Registry Unit) := by
  unfold requireInitialized
  infer_instance

instance requireNotPaused_blind :
    HashBlind listed hashes (requireNotPaused : Entry Registry Unit) := by
  unfold requireNotPaused
  infer_instance

instance requireAuth_blind (env : Env host) (address : Address) :
    HashBlind listed hashes (requireAuth env address : Entry Registry Unit) := by
  unfold requireAuth
  infer_instance

instance requireAdmin_blind (env : Env host) :
    HashBlind listed hashes (requireAdmin env : Entry Registry Address) := by
  unfold requireAdmin
  infer_instance

instance getPayment_blind (paymentId : PaymentId) :
    HashBlind listed hashes (getPayment paymentId : Entry Registry Payment) := by
  unfold getPayment
  infer_instance

instance checked_blind (value : Option Int) :
    HashBlind listed hashes (checked value : Entry Registry Int) := by
  unfold checked
  infer_instance

variable [RegistryApi Registry]

instance getEvent_blind (eventId : EventId) :
    HashBlind listed hashes (getEvent eventId : Entry Registry EventInfo) := by
  unfold getEvent requireRegistry
  infer_instance

instance requireUndisputed_blind (eventId : EventId) :
    HashBlind listed hashes (requireUndisputed eventId : Entry Registry Unit) := by
  unfold requireUndisputed isEventDisputed
  infer_instance

/-! ### Bookkeeping -/

section Bookkeeping

variable (token : Address) (amount : Int) (headings : List Trail)

instance payOut_blind (target : Address) :
    HashBlind listed hashes (payOut host token target amount headings : Entry Registry Unit) := by
  unfold payOut
  infer_instance

instance updateEventBalance_blind (eventId : EventId) (organizerAmount platformFee : Int) :
    HashBlind listed hashes
      (updateEventBalance eventId organizerAmount platformFee : Entry Registry Unit) := by
  unfold updateEventBalance
  infer_instance

instance addToTotalVolumeProcessed_blind :
    HashBlind listed hashes (addToTotalVolumeProcessed amount : Entry Registry Unit) := by
  unfold addToTotalVolumeProcessed
  have : HashBlind listed hashes (modify (·.addVolume amount) : Entry Registry Unit) :=
    blind_modify fun _ => rfl
  infer_instance

instance addToTotalFeesCollectedByToken_blind :
    HashBlind listed hashes
      (addToTotalFeesCollectedByToken token amount : Entry Registry Unit) := by
  unfold addToTotalFeesCollectedByToken
  have : HashBlind listed hashes (modify (·.addFees token amount) : Entry Registry Unit) :=
    blind_modify fun _ => rfl
  infer_instance

instance addToActiveEscrowTotal_blind :
    HashBlind listed hashes (addToActiveEscrowTotal amount : Entry Registry Unit) := by
  unfold addToActiveEscrowTotal
  have : HashBlind listed hashes (modify (·.addEscrowTotal amount) : Entry Registry Unit) :=
    blind_modify fun _ => rfl
  infer_instance

instance subtractFromActiveEscrowTotal_blind :
    HashBlind listed hashes (subtractFromActiveEscrowTotal amount : Entry Registry Unit) := by
  unfold subtractFromActiveEscrowTotal
  infer_instance

instance addToActiveEscrowByToken_blind :
    HashBlind listed hashes (addToActiveEscrowByToken token amount : Entry Registry Unit) := by
  unfold addToActiveEscrowByToken
  have : HashBlind listed hashes (modify (·.addEscrow token amount) : Entry Registry Unit) :=
    blind_modify fun _ => rfl
  infer_instance

instance subtractFromActiveEscrowByToken_blind :
    HashBlind listed hashes
      (subtractFromActiveEscrowByToken token amount : Entry Registry Unit) := by
  unfold subtractFromActiveEscrowByToken
  infer_instance

end Bookkeeping

/-! ### Refunds -/

section Refunds

variable (env : Env host) (eventId : EventId) (paymentId : PaymentId)

instance unbook_blind (payment : Payment) (refund organizerBack : Int) :
    HashBlind listed hashes
      (unbook eventId payment refund organizerBack : Entry Registry Unit) := by
  unfold unbook trapping
  infer_instance

instance internalRefund_blind :
    HashBlind listed hashes (internalRefund env paymentId : Entry Registry Unit) := by
  unfold internalRefund cleanBalance payIfPositive decrementInventory
  infer_instance

instance refundVia_blind (path : RefundPath) :
    HashBlind listed hashes (refundVia env paymentId path : Entry Registry Unit) := by
  unfold refundVia requestGuestRefund adminRefund claimAutomaticRefund
  cases path <;> infer_instance

instance requireCancelled_blind :
    HashBlind listed hashes (requireCancelled eventId : Entry Registry Unit) := by
  unfold requireCancelled isEventCancelledForRefund
  infer_instance

instance refundTurn_blind (fits : Payment → Bool) (select : Selection) (totals : BatchTotals) :
    HashBlind listed hashes
      (refundTurn host fits select totals paymentId : Entry Registry BatchTotals) := by
  unfold refundTurn refundItem trapping
  refine .get_bind fun world => ?_
  dsimp only
  cases world.tickets.getPayment paymentId with
  | none => exact blind_pure totals
  | some payment =>
    dsimp only
    cases select paymentId payment <;> infer_instance

instance issuePartialRefund_blind (percentageBps batchSize : Nat) :
    HashBlind listed hashes
      (issuePartialRefund env eventId percentageBps batchSize : Entry Registry Nat) := by
  unfold issuePartialRefund partialRefundIndex lockPercentage partialRefundPercentage
    setPartialRefundPercentage setPartialRefundIndex refundWindow
  infer_instance

instance cascadeTurn_blind (count : Nat) :
    HashBlind listed hashes (cascadeTurn env eventId count paymentId : Entry Registry Nat) := by
  unfold cascadeTurn
  refine .get_bind fun world => ?_
  dsimp only
  cases world.tickets.getPayment paymentId with
  | none => exact blind_pure count
  | some payment =>
    dsimp only
    infer_instance

end Refunds

/-! ### Listings, bids and configuration -/

section Others

variable (env : Env host) (paymentId : PaymentId) (payment : Payment)

instance requireResaleCap_blind (event : EventInfo) (tierId : TierId) (price : Int) :
    HashBlind listed hashes (requireResaleCap event tierId price : Entry Registry Unit) := by
  unfold requireResaleCap
  cases event.resaleCapBps <;> infer_instance

instance checkSalePrice_blind (salePrice : Option Int) :
    HashBlind listed hashes (checkSalePrice payment salePrice : Entry Registry Unit) := by
  unfold checkSalePrice
  cases salePrice <;> infer_instance

instance checkAskPrice_blind (askPrice : Int) :
    HashBlind listed hashes (checkAskPrice payment askPrice : Entry Registry Unit) := by
  unfold checkAskPrice requireRegistry
  refine .bind inferInstance fun _ => .get_bind fun world => ?_
  dsimp only
  cases RegistryApi.getEvent world.registry payment.eventId with
  | none => exact blind_pure ()
  | some event =>
    dsimp only
    infer_instance

instance listForResale_blind (askPrice : Int) :
    HashBlind listed hashes (listForResale env paymentId askPrice : Entry Registry Unit) := by
  unfold listForResale isListed
  infer_instance

instance countTowardsCap_blind (token : Address) (amount : Int) :
    HashBlind listed hashes (countTowardsCap env token amount : Entry Registry Unit) := by
  unfold countTowardsCap
  have (day : Nat) (withdrawn : Int) : HashBlind listed hashes
      (modify (·.withDailyAmount token day withdrawn) : Entry Registry Unit) :=
    blind_modify fun _ => rfl
  infer_instance

instance returnBid_blind (previous : Option HighestBid) :
    HashBlind listed hashes (returnBid host previous : Entry Registry Unit) := by
  unfold returnBid
  cases previous <;> infer_instance

instance placeBid_blind (eventId : EventId) (tierId : TierId) (bid : HighestBid) :
    HashBlind listed hashes (placeBid env eventId tierId bid : Entry Registry Unit) := by
  unfold placeBid eventAcceptsToken isTokenWhitelisted requireOnSale auctionConfigOf takeBid
    pullIn
  infer_instance

instance applyChange_blind (change : ParameterChange) :
    HashBlind listed hashes (applyChange change : Entry Registry Unit) := by
  unfold applyChange
  cases change <;> infer_instance

instance milestoneTurn_blind (event : EventInfo) (balance : EventBalance)
    (totals : MilestoneTotals) (milestone : EscrowMilestone) :
    HashBlind listed hashes
      (milestoneTurn event balance totals milestone : Entry Registry MilestoneTotals) := by
  unfold milestoneTurn
  infer_instance

instance releaseMilestoneEscrow_blind (eventId : EventId) :
    HashBlind listed hashes (releaseMilestoneEscrow env eventId : Entry Registry Int) := by
  unfold releaseMilestoneEscrow getEscrowMilestones
  have (state : EscrowState) : HashBlind listed hashes (modify fun world : World Registry =>
      { world with escrowState := world.escrowState.set eventId state }) :=
    blind_modify fun _ => rfl
  infer_instance

instance createDiscountCode_blind (eventId : EventId) (code : String)
    (percentage expiresAt maxUses : Nat) :
    HashBlind listed hashes
      (createDiscountCode env eventId code percentage expiresAt maxUses : Entry Registry Unit) := by
  unfold createDiscountCode
  have (data : DiscountData) : HashBlind listed hashes
      (modify (·.withDiscounts (storeCode eventId code data)) : Entry Registry Unit) :=
    blind_modify fun _ => rfl
  infer_instance

end Others

/-! ### Purchases -/

section Purchases

variable (env : Env host) (purchase : Purchase)

omit [RegistryApi Registry] in
/-- The hash of the code is the only one that is looked up. -/
theorem applyCodePreimage_blind {preimage : Option Bytes} (price : Int)
    (unlisted : ∀ code ∈ preimage, host.sha256 code ∉ listed) :
    HashBlind listed hashes (applyCodePreimage host preimage price :
      Entry Registry (Int × Option BytesN32)) := by
  unfold applyCodePreimage
  cases preimage with
  | none => exact blind_pure (price, none)
  | some code =>
    refine .get_bind fun world => ?_
    dsimp only
    rw [Store.get_redirect_of_notMem (unlisted code rfl)]
    infer_instance

instance applyDiscountCode_blind (eventId : EventId) (code : Option String) (price : Int) :
    HashBlind listed hashes (applyDiscountCode env eventId code price : Entry Registry Int) := by
  unfold applyDiscountCode
  cases code with
  | none => exact blind_pure price
  | some code =>
    have (data : DiscountData) : HashBlind listed hashes (modify (·.withDiscounts fun discounts =>
        { discounts with code := discounts.code.set (eventId, code) data }) :
          Entry Registry Unit) :=
      blind_modify fun _ => rfl
    infer_instance

instance takePayment_blind (split : Split) :
    HashBlind listed hashes (takePayment host purchase split : Entry Registry Unit) := by
  unfold takePayment pullIn
  cases purchase.options.referrer <;> infer_instance

instance markDiscountHashUsed_blind (hash : Option BytesN32) :
    HashBlind listed hashes (markDiscountHashUsed hash : Entry Registry Unit) := by
  cases hash with
  | none => exact blind_pure ()
  | some hash => exact blind_modify fun _ => rfl

instance awardLoyalty_blind (amount : Int) (multiplier : Nat) :
    HashBlind listed hashes (awardLoyalty env purchase amount multiplier : Entry Registry Unit) :=
  blind_modify fun _ => rfl

/-- A payment without a code, or with a code whose hash is not listed, does not depend on the
listed hashes. -/
theorem processPayment_blind
    (unlisted : ∀ code ∈ purchase.options.codePreimage, host.sha256 code ∉ listed) :
    HashBlind listed hashes (processPayment env purchase : Entry Registry PaymentId) := by
  have (price : Int) : HashBlind listed hashes
      (applyCodePreimage host purchase.options.codePreimage price :
        Entry Registry (Int × Option BytesN32)) :=
    applyCodePreimage_blind price unlisted
  unfold processPayment checkPurchase checkEvent eventAcceptsToken isTokenWhitelisted
    isEventCancelledForRefund checkPrice fetchFreshAssetPrice applyGlobalPromo switchPrice bookSale
    incrementInventory requireRegistry
  infer_instance

end Purchases

/-! ### Steps -/

/-- The hash of the code that a payment presents. -/
def Action.presented : Action host Registry → Option BytesN32
  | .call _ (.processPayment purchase) => purchase.options.codePreimage.map host.sha256
  | _ => none

/-- The event for which the action stores discount hashes, and the hashes. -/
def Action.hashesAdded : Action host Registry → Option (EventId × List BytesN32)
  | .call _ (.configure (.addDiscountHashes eventId hashes)) => some (eventId, hashes)
  | _ => none

omit [RegistryApi Registry] in
theorem unlisted_of_presented {env : Env host} {purchase : Purchase}
    (unlisted : ∀ hash ∈ (Action.call env (.processPayment purchase) :
      Action host Registry).presented, hash ∉ listed) :
    ∀ code ∈ purchase.options.codePreimage, host.sha256 code ∉ listed :=
  fun _ given => unlisted _ (Option.mem_map_of_mem _ given)

/-- A step that stores no hashes and presents none of the listed ones does not depend on them. -/
theorem step_withListed {action : Action host Registry} (stores : action.hashesAdded = none)
    (unlisted : ∀ hash ∈ action.presented, hash ∉ listed) (world : World Registry) :
    step (world.withListed listed hashes) action =
      (step world action).withListed listed hashes := by
  cases action with
  | registry next => rfl
  | tokens move => rfl
  | call env call =>
    cases call with
    | configure configuration =>
      cases configuration with
      | addDiscountHashes eventId added => cases stores
      | createDiscountCode | releaseMilestoneEscrow => exact commit_change _
      -- the others are opened to the parts that were gone through above
      | _ =>
        dsimp only [step, callStep, configureStep, setWithdrawalCap, setResaleRoyaltyBps,
          proposeParameterChange, voteOnProposal, executeProposal, proposeEscrowWithdrawal,
          approveEscrowWithdrawal, executeEscrowWithdrawal, initializeContract, setPause, adminSets,
          setOracle, setTransferFee, setAffiliateRate, organizerSets, cancelEvent, openProposal,
          getProposal, validateRecipient]
        exact commit_change _
    | processPayment purchase =>
      have : HashBlind listed hashes (processPayment env purchase : Entry Registry PaymentId) :=
        processPayment_blind env purchase (unlisted_of_presented unlisted)
      exact commit_change _
    | refund | issuePartialRefund | listForResale | placeBid => exact commit_change _
    | _ =>
      dsimp only [step, callStep, requestRefund, claimCancellationRefund, triggerBulkRefund,
        bulkRefundIndex, setBulkRefundIndex, triggerDisputeRefundCascade, confirmPayment, checkIn,
        mintPoap, transferTicket, takeTransferFee, cancelResaleListing, purchaseResaleTicket,
        withdrawOrganizerFunds, requireGoal, releaseFunds, claimRevenue, unescrow,
        settlePlatformFees, withdrawPlatformFees, closeAuction, requireOnSale, auctionConfigOf,
        bookHammerPrice, validateRecipient, activeListing, payRoyalty, royaltyPayee,
        requirePlatformWallet, subtractFromTotalFeesCollectedByToken, refundWindow,
        incrementInventory, payIfPositive, trapping, decrementInventory, requireRegistry, pullIn]
      exact commit_change _

end Agora.TicketPayment

/-
This file models the entry points that configure the contract: its initialisation,
and the settings and discounts of the admin and the organizers.
-/

import Agora.TicketPayment.Change

namespace Agora.TicketPayment

open Soroban

variable {Registry : Type} [RegistryApi Registry] {host : Host}

/-! ### Initialisation -/

structure Configuration where
  admin : Address
  usdcToken : Address
  platformWallet : Address
  eventRegistry : Address

/-- The admin becomes the first governor. -/
def seatAdmin (admin : Address) (governance : Governance) : Governance :=
  { governance with governor := governance.governor.set admin true, totalGovernors := 1 }

/-- The source's `initialize`. -/
def initializeContract (host : Host) (config : Configuration) : Entry Registry Unit := do
  let world ← get
  require (world.settings.initialized = false) (.error .alreadyInitialized)
  validateRecipient host config.admin
  validateRecipient host config.usdcToken
  validateRecipient host config.platformWallet
  validateRecipient host config.eventRegistry
  modify (·.withGovernance (seatAdmin config.admin))
  modify (·.withSettings fun settings =>
    { settings with
      admin := some config.admin
      usdcToken := some config.usdcToken
      platformWallet := some config.platformWallet
      eventRegistry := some config.eventRegistry
      initialized := true
      tokenWhitelist := settings.tokenWhitelist.set config.usdcToken () })

omit [RegistryApi Registry] in
theorem initializeContract_ensures {config : Configuration} {world : World Registry} :
    Ensures (initializeContract host config) world fun _ next =>
      world.settings.initialized = false ∧
        Does host { governance := seatAdmin config.admin, initializes := true } world next := by
  simp only [initializeContract, validateRecipient, ensures_rules]
  intro uninitialized _ _ valid _
  refine ⟨uninitialized, ?_⟩
  exact
    { ledger := (World.ledger_congr rfl rfl rfl).trans (post_nil _).symm
      tickets := rfl
      auctions := rfl
      resale := rfl
      governance := rfl
      discounts := rfl
      escrowState := rfl
      sound := fun sound => ⟨fun own => valid (.inl (Option.some.inj own)), sound.royalty⟩
      cancelled := fun _ => id
      registry := fun _ => rfl
      fees := fun _ => rfl
      initialized := (Bool.or_true _).symm }

/-! ### Settings -/

/-- A setter of the admin. -/
def adminSets (env : Env host) (change : Settings → Settings) : Entry Registry Unit := do
  let _ ← requireAdmin env
  modify (·.withSettings change)

def setPause (env : Env host) (paused : Bool) : Entry Registry Unit :=
  adminSets env fun settings => { settings with isPaused := paused }

def setOracle (env : Env host) (oracleAddress : Address) : Entry Registry Unit :=
  adminSets env fun settings => { settings with oracleAddress := some oracleAddress }

/-- A setter of the organizer of an event. -/
def organizerSets (env : Env host) (eventId : EventId) (change : Settings → Settings) :
    Entry Registry Unit := do
  let event ← getEvent eventId
  requireAuth env event.organizerAddress
  modify (·.withSettings change)

def setTransferFee (env : Env host) (eventId : EventId) (bps : Nat) : Entry Registry Unit := do
  requireInitialized
  let event ← getEvent eventId
  requireAuth env event.organizerAddress
  require (bps ≤ maxBps) (.error .invalidFeePercent)
  modify (·.withSettings fun settings =>
    { settings with transferFee := settings.transferFee.set eventId bps })

def setAffiliateRate (env : Env host) (eventId : EventId) (affiliate : Address) (rateBps : Nat) :
    Entry Registry Unit := do
  requireInitialized
  require (rateBps ≤ maxBps) (.error .invalidFeePercent)
  organizerSets env eventId fun settings =>
    { settings with affiliateRate := settings.affiliateRate.set (eventId, affiliate) rateBps }

/-- The event is cancelled here only; the registry is not told. -/
def cancelEvent (env : Env host) (eventId : EventId) : Entry Registry Unit := do
  requireInitialized
  organizerSets env eventId fun settings =>
    { settings with cancelledForRefund := settings.cancelledForRefund.set eventId () }

/-- The discounts with one more code, or with the code replaced. -/
def storeCode (eventId : EventId) (code : String) (data : DiscountData)
    (discounts : Discounts) : Discounts :=
  { discounts with code := discounts.code.set (eventId, code) data }

def createDiscountCode (env : Env host) (eventId : EventId) (code : String)
    (percentage expiresAt maxUses : Nat) : Entry Registry Unit := do
  let _ ← requireAdmin env
  require (¬(percentage = 0 ∨ 100 < percentage)) (.error .invalidFeePercent)
  modify (·.withDiscounts
    (storeCode eventId code { percentage, expiresAt, maxUses, currentUses := 0 }))

def maxBatchSize : Nat := 50

def addDiscountHash (discounts : Discounts) (hash : BytesN32) : Discounts :=
  { discounts with hash := discounts.hash.set hash () }

def storeHashes (hashes : List BytesN32) (discounts : Discounts) : Discounts :=
  hashes.foldl addDiscountHash discounts

def addDiscountHashes (env : Env host) (eventId : EventId) (hashes : List BytesN32) :
    Entry Registry Unit := do
  requireInitialized
  require (hashes ≠ []) (.error .emptyBatch)
  require (hashes.length ≤ maxBatchSize) (.error .batchTooLarge)
  let event ← getEvent eventId
  requireAuth env event.organizerAddress
  modify (·.withDiscounts (storeHashes hashes))

theorem storeHashes_code (hashes : List BytesN32) (discounts : Discounts) :
    (storeHashes hashes discounts).code = discounts.code := by
  induction hashes generalizing discounts with
  | nil => rfl
  | cons hash rest inductionHypothesis => exact inductionHypothesis _

theorem storeHashes_hashUsed (hashes : List BytesN32) (discounts : Discounts) :
    (storeHashes hashes discounts).hashUsed = discounts.hashUsed := by
  induction hashes generalizing discounts with
  | nil => rfl
  | cons hash rest inductionHypothesis => exact inductionHypothesis _

section SettersEnsure

variable {world : World Registry} {env : Env host} {change : Settings → Settings}

omit [RegistryApi Registry] in
theorem adminSets_ensures (does : Does host .nothing world (world.withSettings change)) :
    Ensures (adminSets env change) world fun _ next => Does host .nothing world next := by
  simp only [adminSets, ensures_rules, ensures_checks]
  exact fun _ _ _ => does

variable {eventId : EventId}

theorem organizerSets_ensures (does : Does host .nothing world (world.withSettings change)) :
    Ensures (organizerSets env eventId change) world fun _ next =>
      Does host .nothing world next := by
  simp only [organizerSets, ensures_rules, ensures_getEvent, ensures_checks]
  exact fun _ _ _ _ => does

omit [RegistryApi Registry] in
theorem setPause_ensures {paused : Bool} :
    Ensures (setPause env paused) world fun _ next => Does host .nothing world next :=
  adminSets_ensures (.withSettings _)

omit [RegistryApi Registry] in
theorem setOracle_ensures {oracleAddress : Address} :
    Ensures (setOracle env oracleAddress) world fun _ next => Does host .nothing world next :=
  adminSets_ensures (.withSettings _)

theorem setTransferFee_ensures {bps : Nat} :
    Ensures (setTransferFee env eventId bps) world fun _ next => Does host .nothing world next := by
  simp only [setTransferFee, ensures_rules, ensures_checks, ensures_getEvent]
  intro _ _ _ _ _ _
  exact .withSettings _

theorem setAffiliateRate_ensures {affiliate : Address} {rateBps : Nat} :
    Ensures (setAffiliateRate env eventId affiliate rateBps) world fun _ next =>
      Does host .nothing world next := by
  simp only [setAffiliateRate, ensures_rules, ensures_checks]
  intro _ _
  exact organizerSets_ensures (.withSettings _)

theorem cancelEvent_ensures :
    Ensures (cancelEvent env eventId) world fun _ next => Does host .nothing world next := by
  simp only [cancelEvent, ensures_bind, ensures_checks]
  intro _
  refine organizerSets_ensures (.withSettings _ (fun sound => ⟨sound.wallet, sound.royalty⟩)
    (fun other before => ?_) rfl)
  simp only [isEventCancelledForRefund, World.withSettings, Store.get_set] at before ⊢
  split
  · rfl
  · exact before

omit [RegistryApi Registry] in
theorem createDiscountCode_ensures {code : String} {percentage expiresAt maxUses : Nat} :
    Ensures (createDiscountCode env eventId code percentage expiresAt maxUses) world
      fun _ next => Does host
        { discounts := storeCode eventId code ⟨percentage, expiresAt, maxUses, 0⟩ } world next := by
  simp only [createDiscountCode, ensures_rules, ensures_checks]
  intro _ _ _ _
  exact .withDiscounts _ rfl

theorem addDiscountHashes_ensures {hashes : List BytesN32} :
    Ensures (addDiscountHashes env eventId hashes) world fun _ next =>
      Does host { discounts := storeHashes hashes } world next := by
  simp only [addDiscountHashes, ensures_rules, ensures_checks, ensures_getEvent]
  intro _ _ _ _ _ _ _
  exact .withDiscounts _ rfl

end SettersEnsure

end Agora.TicketPayment

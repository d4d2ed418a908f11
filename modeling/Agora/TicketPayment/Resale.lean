/-
This file models the resale of tickets: listings, their cancellation, and the
purchase of a listed ticket, in which the price passes through the contract to the
seller and, as a royalty, to the organizer.
-/

import Agora.TicketPayment.Holder

namespace Agora.TicketPayment

open Soroban

variable {Registry : Type} [RegistryApi Registry] {host : Host}

/-! ### Listings -/

/-- The cap of the event, which is not checked for an event the registry does not know. -/
def checkAskPrice (payment : Payment) (askPrice : Int) : Entry Registry Unit := do
  requireRegistry
  let world ← get
  match RegistryApi.getEvent world.registry payment.eventId with
  | none => pure ()
  | some event => requireResaleCap event payment.ticketTierId askPrice

def isListed (world : World Registry) (paymentId : PaymentId) : Bool :=
  match world.resale.get paymentId with
  | some listing => listing.status = .active
  | none => false

def listForResale (env : Env host) (paymentId : PaymentId) (askPrice : Int) :
    Entry Registry Unit := do
  requireInitialized
  requireNotPaused
  require (0 < askPrice) (.error .invalidPrice)
  let payment ← getPayment paymentId
  require (payment.status = .confirmed) (.error .invalidPaymentStatus)
  requireAuth env payment.buyerAddress
  let world ← get
  require (isListed world paymentId = false) (.error .ticketAlreadyListed)
  checkAskPrice payment askPrice
  modify (·.withListing
    { paymentId, eventId := payment.eventId, seller := payment.buyerAddress, askPrice,
      status := .active, listedAt := env.timestamp })

/-- The listing of a ticket that is for sale. -/
def activeListing (paymentId : PaymentId) : Entry Registry ResaleListing := do
  let world ← get
  let listing ← orFault (world.resale.get paymentId) (.error .resaleListingNotFound)
  require (listing.status = .active) (.error .resaleListingNotActive)
  pure listing

def cancelResaleListing (env : Env host) (paymentId : PaymentId) : Entry Registry Unit := do
  requireInitialized
  requireNotPaused
  let listing ← activeListing paymentId
  requireAuth env listing.seller
  modify (·.withListing { listing with status := .cancelled })

/-! ### Purchases -/

def royaltyOf (settings : Settings) (listing : ResaleListing) : Option Int :=
  let bps := settings.getResaleRoyaltyBps listing.eventId
  if 0 < bps then mulDiv listing.askPrice bps maxBps else some 0

/-- The royalty goes to the organizer, or to the seller when the event is not known. -/
def royaltyPayee (world : World Registry) (listing : ResaleListing) : Address :=
  match RegistryApi.getEvent world.registry listing.eventId with
  | some event => event.organizerAddress
  | none => listing.seller

def payRoyalty (host : Host) (token : Address) (listing : ResaleListing) (royalty : Int) :
    Entry Registry Unit := do
  let world ← get
  require (0 < royalty → world.settings.eventRegistry.isSome = true)
    (.panic "Event registry not set")
  payIfPositive host token (royaltyPayee world listing) royalty []

def purchaseResaleTicket (env : Env host) (paymentId : PaymentId) (buyer : Address)
    (maxPrice : Int) : Entry Registry Unit := do
  requireInitialized
  requireNotPaused
  requireAuth env buyer
  let listing ← activeListing paymentId
  require (buyer ≠ listing.seller) (.error .invalidAddress)
  require (listing.askPrice ≤ maxPrice) (.error .priceMismatch)
  let world ← get
  let royalty ← checked (royaltyOf world.settings listing)
  let proceeds ← checked (checkedSub listing.askPrice royalty)
  let token ← orFault world.settings.usdcToken (.panic "USDC token not set")
  require (listing.askPrice ≤ world.tokens.allowance token buyer host.contract)
    (.error .insufficientAllowance)
  pullIn host token buyer listing.askPrice []
  payIfPositive host token listing.seller proceeds []
  payRoyalty host token listing royalty
  let payment ← getPayment paymentId
  modify (·.withTickets (handOver paymentId payment listing.seller buyer))
  modify (·.withListing { listing with status := .completed })

def setResaleRoyaltyBps (env : Env host) (eventId : EventId) (bps : Nat) :
    Entry Registry Unit := do
  let _ ← requireAdmin env
  require (bps ≤ maxResaleRoyaltyBps) (.error .invalidRoyaltyBps)
  modify (·.withSettings fun settings =>
    { settings with resaleRoyaltyBps := settings.resaleRoyaltyBps.set eventId bps })

/-! ### What they do -/

variable {env : Env host} {world : World Registry} {paymentId : PaymentId} {askPrice : Int}

theorem checkAskPrice_ensures {payment : Payment} :
    Ensures (checkAskPrice payment askPrice) world fun _ next => next = world := by
  simp only [checkAskPrice, requireRegistry, ensures_rules]
  intro _
  cases RegistryApi.getEvent world.registry payment.eventId with
  | none => simp only [ensures_pure]
  | some event => exact requireResaleCap_ensures

/-- What a write of a listing does. -/
def listingChange (listing : ResaleListing) : Change where
  resale := fun resale => resale.set listing.paymentId listing

/-- The listing that `list_for_resale` writes. -/
def listingFor (timestamp : Nat) (paymentId : PaymentId) (payment : Payment) (askPrice : Int) :
    ResaleListing where
  paymentId := paymentId
  eventId := payment.eventId
  seller := payment.buyerAddress
  askPrice := askPrice
  status := .active
  listedAt := timestamp

/-- What a successful listing has checked. -/
structure ListingOf (env : Env host) (world : World Registry) (paymentId : PaymentId)
    (askPrice : Int) (payment : Payment) : Prop where
  positive : 0 < askPrice
  stored : world.tickets.getPayment paymentId = some payment
  confirmed : payment.status = .confirmed
  signed : env.signed payment.buyerAddress = true
  unlisted : isListed world paymentId = false

theorem listForResale_ensures :
    Ensures (listForResale env paymentId askPrice) world fun _ next => ∃ payment,
      ListingOf env world paymentId askPrice payment ∧
        next = world.withListing (listingFor env.timestamp paymentId payment askPrice) := by
  simp only [listForResale, ensures_bind, ensures_checks, ensures_require, ensures_get]
  intro _ _ positive payment stored confirmed signed unlisted
  refine checkAskPrice_ensures.mono ?_
  rintro _ _ rfl
  rw [ensures_modify]
  exact ⟨payment, ⟨positive, stored, confirmed, signed, unlisted⟩, rfl⟩

omit [RegistryApi Registry] in
theorem ensures_activeListing {outcome : ResaleListing → World Registry → Prop} :
    Ensures (activeListing paymentId) world outcome ↔
      ∀ listing, world.resale.get paymentId = some listing → listing.status = .active →
        outcome listing world := by
  simp only [activeListing, ensures_rules]

omit [RegistryApi Registry] in
theorem cancelResaleListing_ensures :
    Ensures (cancelResaleListing env paymentId) world fun _ next => ∃ listing,
      world.resale.get paymentId = some listing ∧ listing.status = .active ∧
        env.signed listing.seller = true ∧
        Does host (listingChange { listing with status := .cancelled }) world next := by
  simp only [cancelResaleListing, ensures_rules, ensures_checks, ensures_activeListing]
  intro _ _ listing listed active signed
  exact ⟨listing, listed, active, signed, .withListing _⟩

/-- The postings of a resale: the price comes in, the proceeds and the royalty go out. -/
@[simp]
def resaleLines (host : Host) (token seller payee : Address) (askPrice royalty : Int) :
    List (Posting Account) :=
  [(.held token, askPrice),
    (.held token, -if seller = host.contract then 0 else max (askPrice - royalty) 0),
    (.held token, -if payee = host.contract then 0 else max royalty 0)]

/-- The listing, the record and the terms of a successful resale. -/
structure ResaleOf (env : Env host) (world : World Registry) (paymentId : PaymentId)
    (buyer : Address) (listing : ResaleListing) (payment : Payment) (token : Address)
    (royalty : Int) : Prop where
  signed : env.signed buyer = true
  listed : world.resale.get paymentId = some listing
  active : listing.status = .active
  distinct : buyer ≠ listing.seller
  askPrice_nonneg : 0 ≤ listing.askPrice
  royaltyEq : royaltyOf world.settings listing = some royalty
  token : world.settings.usdcToken = some token
  stored : world.tickets.getPayment paymentId = some payment

variable {listing : ResaleListing} {royalty : Int}

omit [RegistryApi Registry] in
/-- Sound settings keep the royalty between nothing and the price. -/
theorem royalty_bounds {settings : Settings} (sound : settings.Sound host)
    (nonneg : 0 ≤ listing.askPrice) (found : royaltyOf settings listing = some royalty) :
    0 ≤ royalty ∧ royalty ≤ listing.askPrice := by
  have bounded : settings.getResaleRoyaltyBps listing.eventId ≤ maxBps :=
    (sound.royalty listing.eventId).trans (show maxResaleRoyaltyBps ≤ maxBps by decide)
  simp only [royaltyOf] at found
  split at found
  · exact mulDiv_bounds found nonneg (Int.natCast_nonneg _) (Int.ofNat_le.mpr bounded)
  · cases found
    exact ⟨le_rfl, nonneg⟩

@[simp]
def resaleChange (host : Host) (payee : Address) (paymentId : PaymentId) (buyer : Address)
    (listing : ResaleListing) (payment : Payment) (token : Address) (royalty : Int) : Change where
  lines := resaleLines host token listing.seller payee listing.askPrice royalty
  tickets := handOver paymentId payment listing.seller buyer
  resale := fun resale => resale.set listing.paymentId { listing with status := .completed }

theorem payRoyalty_ensures {host : Host} :
    Ensures (payRoyalty host token listing royalty) world fun _ next =>
      Does host (.posting [(.held token, -if royaltyPayee world listing = host.contract then 0
        else max royalty 0)]) world next ∧
      ∀ other holder, next.tokens.balance other holder = world.tokens.balance other holder +
        Tokens.moved token host.contract (royaltyPayee world listing) (max royalty 0) other
          holder := by
  simp only [payRoyalty, ensures_rules]
  intro _
  exact payIfPositive_ensures.mono fun _ _ paid =>
    ⟨paid.1, paid.2.1⟩

/-- What the parties of a resale gain in its token, apart from the contract. -/
def resaleGain (listing : ResaleListing) (buyer payee : Address) (royalty : Int)
    (holder : Address) : Int :=
  (if holder = listing.seller then max (listing.askPrice - royalty) 0 else 0) +
    (if holder = payee then max royalty 0 else 0) -
    (if holder = buyer then listing.askPrice else 0)

theorem purchaseResaleTicket_ensures {buyer : Address} {maxPrice : Int} :
    Ensures (purchaseResaleTicket env paymentId buyer maxPrice) world fun _ next =>
      ∃ listing payment token royalty,
        ResaleOf env world paymentId buyer listing payment token royalty ∧
          listing.askPrice ≤ maxPrice ∧
          Does host (resaleChange host (royaltyPayee world listing) paymentId buyer listing payment
            token royalty) world next ∧
          ∀ holder, holder ≠ host.contract → next.tokens.balance token holder =
            world.tokens.balance token holder +
              resaleGain listing buyer (royaltyPayee world listing) royalty holder := by
  simp only [purchaseResaleTicket, checked, ensures_rules, ensures_checks, ensures_activeListing,
    ensures_pullIn]
  intro _ _ signed listing listed active distinct bounded royalty royaltyEq proceeds proceedsEq
    token tokenEq _ _ allowed
  have pulled : Does host (.posting [(.held token, listing.askPrice)]) world _ :=
    Does.pull_outside (ne_contract_of_signed env signed) token listing.askPrice []
  refine payIfPositive_ensures.mono ?_
  rintro _ _ ⟨paid, proceedsPaid, tokens, trail, rfl⟩
  refine payRoyalty_ensures.mono ?_
  rintro _ settled ⟨royaltyDoes, royaltyPaid⟩
  have money := (pulled.trans_posting paid).trans_posting royaltyDoes
  intro payment stored
  rw [money.tickets] at stored
  refine ⟨listing, payment, token, royalty,
    ⟨signed, listed, active, distinct, allowed.1, royaltyEq, tokenEq, stored⟩, bounded, ?_, ?_⟩
  · rw [resaleChange, resaleLines, ← eq_of_checkedSub proceedsEq]
    exact (money.posting_then_tickets (.withTickets (handOver paymentId payment listing.seller
      buyer))).trans (.withListing { listing with status := .completed })
  · intro holder outside
    have bought : (world.pull host token buyer listing.askPrice []).tokens.balance token holder =
        world.tokens.balance token holder + Tokens.moved token buyer host.contract
          listing.askPrice token holder := rfl
    have settledPaid : settled.tokens.balance token holder = _ + Tokens.moved token host.contract
      (royaltyPayee world listing) (max royalty 0) token holder := royaltyPaid token holder
    refine settledPaid.trans ?_
    rw [proceedsPaid token holder, bought, eq_of_checkedSub proceedsEq]
    simp only [Tokens.moved, resaleGain, if_pos, if_neg outside]
    ring

omit [RegistryApi Registry] in
theorem setResaleRoyaltyBps_ensures {eventId : EventId} {bps : Nat} :
    Ensures (setResaleRoyaltyBps env eventId bps) world fun _ next =>
      Does host .nothing world next := by
  simp only [setResaleRoyaltyBps, ensures_rules, ensures_checks]
  intro _ _ _ bounded
  refine .withSettings _ fun sound => ⟨sound.wallet, fun other => ?_⟩
  simp only [Settings.getResaleRoyaltyBps, Store.get_set]
  split
  · exact bounded
  · exact sound.royalty other

end Agora.TicketPayment

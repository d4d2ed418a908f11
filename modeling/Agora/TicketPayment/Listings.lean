/-
This file asks what a listing of a ticket promises: that the ticket belongs to the
seller, and that the seller is paid on the terms of the day of the listing.

A listing is written once and read again at the purchase. Nothing that happens to the
ticket in between looks at it: a listed ticket can be transferred, refunded, checked in
or issued anew, and the listing stays active. The royalty is read at the purchase, so
that it is the rate of the settlement which counts.
-/

import Agora.EventRegistry.System
import Agora.TicketPayment.Reachable

namespace Agora.TicketPayment

open Soroban EventRegistry

variable {Registry : Type} [RegistryApi Registry] {host : Host}

/-! ### Tickets that are for sale -/

/-- The record of a ticket that its seller may sell. -/
structure ForSale (listing : ResaleListing) (payment : Payment) : Prop where
  confirmed : payment.status = .confirmed
  transferable : payment.isSoulbound = false
  holder : payment.buyerAddress = listing.seller

/-- The listing is stored under its own id, and the ticket of an active one is for sale. -/
structure ListingSound (tickets : Tickets) (paymentId : PaymentId) (listing : ResaleListing) :
    Prop where
  keyed : listing.paymentId = paymentId
  forSale : listing.status = .active →
    ∃ payment, tickets.getPayment paymentId = some payment ∧ ForSale listing payment

/-- The ticket stays confirmed and in the same hands. -/
structure StaysForSale (payment record : Payment) : Prop where
  status : payment.status = .confirmed → record.status = .confirmed
  holder : record.buyerAddress = payment.buyerAddress

theorem StaysForSale.refl (payment : Payment) : StaysForSale payment payment := ⟨id, rfl⟩

theorem StaysForSale.trans (first second third : Payment) (head : StaysForSale first second)
    (tail : StaysForSale second third) : StaysForSale first third :=
  ⟨tail.status ∘ head.status, tail.holder.trans head.holder⟩

/-- The condition on a step: a listed ticket is neither issued anew, by a batch or an auction,
nor refunded, checked in or transferred. -/
def SparesListed (world : World Registry) : Action host Registry → Prop
  | .call _ (.processPayment purchase) => purchase.quantity = 1 ∨
      ∀ index ∈ List.range purchase.quantity, isListed world (batchPaymentId index) = false
  | .call _ (.refund _ paymentId)
  | .call _ (.claimCancellationRefund paymentId)
  | .call _ (.checkIn paymentId _ _)
  | .call _ (.transferTicket paymentId _ _)
  | .call _ (.closeAuction paymentId _ _) => isListed world paymentId = false
  | .call env (.triggerBulkRefund eventId batchSize) =>
      ∀ item ∈ bulkItems env world eventId batchSize, isListed world item.paymentId = false
  | .call env (.triggerDisputeRefundCascade eventId) =>
      ∀ item ∈ cascadeItems env world eventId, isListed world item.paymentId = false
  | _ => True

/-! ### The steps -/

variable {timestamp : Nat} {ids : List PaymentId}

/-- A batch refunds every payment under the id it found it under. -/
theorem bulk_item_keyed {tickets : Tickets}
    (keyed : tickets.Keyed)
    {item : BatchItem} (member : item ∈ selectedAmong (bulkItem timestamp) tickets ids) :
    item.record.paymentId = item.paymentId := by
  obtain ⟨paymentId, payment, same, selected⟩ := (keyed.walk
    (fun _ payment item selected _ => rfl)).2 item member
  obtain ⟨_, rfl⟩ := bulkItem_eq_some selected
  exact same

variable {world : World Registry} {paymentId : PaymentId}

variable {action : Action host Registry} {change : Change} {payment : Payment}

/-- A step that spares the listed tickets leaves them for sale, unless it sells them. -/
theorem Effect.staysForSale (wellformed : Wellformed host world)
    (spares : SparesListed world action) (effect : Effect world action change)
    (listed : isListed world paymentId = true)
    (stored : world.tickets.getPayment paymentId = some payment)
    (unsold : ∀ env buyer maxPrice,
      action ≠ .call env (.purchaseResaleTicket paymentId buyer maxPrice)) :
    ∃ record, (change.tickets world.tickets).getPayment paymentId = some record ∧
      StaysForSale payment record := by
  have keyed := wellformed.keyed
  -- what is spared is a different ticket
  have differs {other : PaymentId} (spared : isListed world other = false) :
      paymentId ≠ other := by
    rintro rfl
    rw [listed] at spared
    cases spared
  have spared {tickets : Tickets}
      (same : tickets.getPayment paymentId = world.tickets.getPayment paymentId) :
      ∃ record, tickets.getPayment paymentId = some record ∧ StaysForSale payment record :=
    ⟨payment, same.trans stored, .refl payment⟩
  cases effect with
  | nothing | registry | configured | inflow | withdrawal | claim | settlement | feeWithdrawal
  | poap | listing | bid =>
    exact spared rfl
  | sale env purchase sale of =>
    refine spared ((getPayment_issueTickets purchase sale.share env.timestamp world.tickets
      paymentId).trans (if_neg ?_))
    rintro ⟨index, member, rfl⟩
    by_cases single : purchase.quantity = 1
    · rw [Purchase.subPaymentId, if_pos single, of.unstored] at stored
      cases stored
    · rw [Purchase.subPaymentId, if_neg single] at differs
      exact differs (spares.resolve_left single index member) rfl
  | confirm env confirmed transactionHash =>
    have read := getPayment_confirmTickets env.timestamp confirmed paymentId transactionHash
      world.tickets
    by_cases same : paymentId = confirmed
    · subst same
      rw [if_pos rfl, stored] at read
      exact ⟨payment.confirmed env.timestamp transactionHash, read, fun _ => rfl, rfl⟩
    · exact spared (read.trans (if_neg same))
  | refund env path refunded record event refundable found =>
    exact spared ((getPayment_writeRefunded paymentId).trans (if_neg (differs spares)))
  | cancellationRefund env refunded record refundable nonneg =>
    exact spared ((getPayment_writeRefunded paymentId).trans (if_neg (differs spares)))
  | bulkRefund | cascade =>
    -- the batch spares the listed tickets
    refine spared (getPayment_storeRecords (fun item member same => ?_) _)
    rw [← same, bulk_item_keyed keyed member, spares item member] at listed
    cases listed
  | partialRefund =>
    refine follows_walk (partialItem_refunding _) keyed .refl .trans
      (fun paymentId payment item selected => ?_) _ paymentId payment stored
    obtain ⟨_, _, _, rfl⟩ := partialItem_eq_some selected
    exact ⟨id, rfl⟩
  | checkIn env used scanner rawSecret record usedStored unused =>
    refine spared ((getPayment_checkInTickets env.timestamp used paymentId record _).trans
      (if_neg ?_))
    rw [keyed used record usedStored]
    exact differs spares
  | transfer env handed target salePrice record fee of =>
    exact spared ((getPayment_handOver handed paymentId record _ target _).trans
      (if_neg (differs spares)))
  | resale env bought buyer maxPrice listing record token royalty of =>
    refine spared ((getPayment_handOver bought paymentId record _ buyer _).trans (if_neg ?_))
    rintro rfl
    exact unsold env buyer maxPrice rfl
  | closing env won eventId tierId event bid fee of =>
    exact spared ((Tickets.getPayment_storePayment _ paymentId _).trans (if_neg (differs spares)))

/-! ### The listings of a run -/

/-- Every active listing is of a ticket that is for sale. -/
structure ListingsHeld (host : Host) (world : World Registry) : Prop where
  wellformed : Wellformed host world
  transferable : world.tickets.Every fun _ payment => payment.isSoulbound = false
  listings : ∀ paymentId listing, world.resale.get paymentId = some listing →
    ListingSound world.tickets paymentId listing

variable {listing : ResaleListing}

omit [RegistryApi Registry] in
theorem isListed_of_active (found : world.resale.get paymentId = some listing)
    (active : listing.status = .active) : isListed world paymentId = true := by
  simp [isListed, found, active]

/-- No ticket is issued soulbound, and none becomes it. -/
theorem Effect.transferable (effect : Effect world action change) (keyed : world.tickets.Keyed)
    (transferable : world.tickets.Every fun _ payment => payment.isSoulbound = false) :
    (change.tickets world.tickets).Every fun _ payment => payment.isSoulbound = false :=
  effect.every_of_issued keyed transferable
    (fun _ _ _ same before => same.terms.isSoulbound.trans before) (fun _ _ _ _ _ _ => rfl)
    (fun _ _ _ _ _ _ _ _ _ => rfl)

section

variable (held : ListingsHeld host world) (spares : SparesListed world action)
  (effect : Effect world action change)

include held spares effect

/-- A listing that the step does not write stays sound. -/
theorem ListingsHeld.unwritten (found : world.resale.get paymentId = some listing)
    (unsold : ∀ env buyer maxPrice,
      action ≠ .call env (.purchaseResaleTicket paymentId buyer maxPrice)) :
    ListingSound (change.tickets world.tickets) paymentId listing := by
  have sound := held.listings paymentId listing found
  refine ⟨sound.keyed, fun active => ?_⟩
  obtain ⟨payment, stored, forSale⟩ := sound.forSale active
  obtain ⟨record, written, stays⟩ := effect.staysForSale held.wellformed spares
    (isListed_of_active found active) stored unsold
  exact ⟨record, written, stays.status forSale.confirmed,
    effect.transferable held.wellformed.keyed held.transferable paymentId record written,
    stays.holder.trans forSale.holder⟩

theorem Effect.listingsSound (paymentId : PaymentId) (listing : ResaleListing)
    (found : (change.resale world.resale).get paymentId = some listing) :
    ListingSound (change.tickets world.tickets) paymentId listing := by
  have unwritten (unsold : ∀ env buyer maxPrice,
        action ≠ .call env (.purchaseResaleTicket paymentId buyer maxPrice))
      (kept : world.resale.get paymentId = some listing) :=
    held.unwritten spares effect kept unsold
  cases effect with
  | nothing => exact held.listings paymentId listing found
  | listing env call written writes =>
    replace found : (world.resale.set written.paymentId written).get paymentId = some listing :=
      found
    rw [Store.get_set] at found
    cases writes with
    | listed id askPrice payment of =>
      split at found
      · rename_i same
        cases found
        cases same
        exact ⟨rfl, fun _ => ⟨payment, of.stored, of.confirmed,
          held.transferable _ payment of.stored, rfl⟩⟩
      · exact unwritten (fun _ _ _ absurdity => nomatch absurdity) found
    | cancelled id before stored active signed =>
      split at found
      · rename_i same
        cases found
        exact ⟨same.symm, fun absurdity => nomatch absurdity⟩
      · exact unwritten (fun _ _ _ absurdity => nomatch absurdity) found
  | resale env id buyer maxPrice before payment token royalty of =>
    replace found : (world.resale.set before.paymentId { before with status := .completed }).get
      paymentId = some listing := found
    rw [(held.listings id before of.listed).keyed, Store.get_set] at found
    split at found
    · rename_i same
      cases found
      exact ⟨same.symm, fun absurdity => nomatch absurdity⟩
    · rename_i differs
      refine unwritten (fun _ _ _ absurdity => differs ?_) found
      cases absurdity
      rfl
  | _ => exact unwritten (fun _ _ _ absurdity => nomatch absurdity) found

end

theorem step_listingsHeld (world : World Registry) (action : Action host Registry)
    (spares : SparesListed world action) (held : ListingsHeld host world) :
    ListingsHeld host (step world action) := by
  obtain ⟨change, effect, does⟩ := step_takes held.wellformed.escrowState action
  refine ⟨step_wellformed world action held.wellformed, ?_, ?_⟩
  · rw [does.tickets]
    exact effect.transferable held.wellformed.keyed held.transferable
  · rw [does.tickets, does.resale]
    exact effect.listingsSound held spares

theorem reached_listingsHeld {registry : Registry} {actions : List (Action host Registry)}
    (spares : Respects step SparesListed (.fresh registry) actions) :
    ListingsHeld host (reached registry actions) :=
  respects_invariant (ListingsHeld host) step_listingsHeld _ actions spares
    ⟨wellformed_fresh registry, Tickets.every_empty _, fun _ _ absurdity => nomatch absurdity⟩

/-! ### Purchases of listed tickets -/

variable {settings : Settings} {royalty : Int}

/-- A purchase hands the ticket to the buyer and pays the seller of the listing. -/
theorem purchaseResaleTicket_settles {env : Env host} {paymentId : PaymentId} {buyer : Address}
    {maxPrice : Int} (wellformed : Wellformed host world) :
    Ensures (purchaseResaleTicket env paymentId buyer maxPrice) world fun _ next =>
      ∃ listing payment token royalty,
        ResaleOf env world paymentId buyer listing payment token royalty ∧
        next.tickets.getPayment paymentId = some { payment with buyerAddress := buyer } ∧
        next.tokens.balance token listing.seller = world.tokens.balance token listing.seller +
          (listing.askPrice - royalty +
            if listing.seller = royaltyPayee world listing then royalty else 0) := by
  refine purchaseResaleTicket_ensures.mono ?_
  rintro _ next ⟨listing, payment, token, royalty, of, _, does, balance⟩
  refine ⟨listing, payment, token, royalty, of, ?_, ?_⟩
  · rw [does.tickets]
    exact (getPayment_handOver paymentId paymentId payment _ buyer _).trans (if_pos rfl)
  · -- the seller gets the price less the royalty, and the royalty too if it is due to them
    obtain ⟨royaltyNonneg, bounded⟩ :=
      royalty_bounds wellformed.settings of.askPrice_nonneg of.royaltyEq
    rw [balance _ (wellformed.sellers paymentId listing of.listed), resaleGain, if_pos rfl,
      if_neg (Ne.symm of.distinct), max_eq_left royaltyNonneg,
      max_eq_left (Int.sub_nonneg.mpr bounded), Int.sub_zero]

/-- Where no step touches a listed ticket, the ticket of every active listing is confirmed,
transferable and held by the seller, and a purchase takes it from the holder whom it pays. -/
theorem listed_ticket_belongs_to_seller (registry : Registry)
    (actions : List (Action host Registry))
    (spares : Respects step SparesListed (.fresh registry) actions) :
    (∀ paymentId listing, (reached registry actions).resale.get paymentId = some listing →
      listing.status = .active → ∃ payment,
        (reached registry actions).tickets.getPayment listing.paymentId = some payment ∧
          ForSale listing payment) ∧
    ∀ (env : Env host) (paymentId : PaymentId) (buyer : Address) (maxPrice : Int),
      Ensures (purchaseResaleTicket env paymentId buyer maxPrice) (reached registry actions)
        fun _ next => ∃ listing payment token royalty,
          ResaleOf env (reached registry actions) paymentId buyer listing payment token royalty ∧
          payment.status = .confirmed ∧
          next.tickets.getPayment paymentId = some { payment with buyerAddress := buyer } ∧
          next.tokens.balance token payment.buyerAddress =
            (reached registry actions).tokens.balance token payment.buyerAddress +
              (listing.askPrice - royalty + if payment.buyerAddress =
                royaltyPayee (reached registry actions) listing then royalty else 0) := by
  have held := reached_listingsHeld spares
  refine ⟨fun paymentId listing found active => ?_, fun env paymentId buyer maxPrice => ?_⟩
  · have sound := held.listings paymentId listing found
    rw [sound.keyed]
    exact sound.forSale active
  · refine (purchaseResaleTicket_settles held.wellformed).mono ?_
    rintro _ next ⟨listing, payment, token, royalty, of, written, paid⟩
    obtain ⟨record, stored, forSale⟩ :=
      (held.listings paymentId listing of.listed).forSale of.active
    cases of.stored.symm.trans stored
    rw [← forSale.holder] at paid
    exact ⟨listing, payment, token, royalty, of, forSale.confirmed, written, paid⟩

/-- A ticket is sold, confirmed and listed. -/
def ticketListed : List (Action EventRegistry.stage EventRegistry.Registry) :=
  setUp ++
    [.call (allSign 1) (.processPayment (ticketFor aliceAddress "ticket" 1)),
      .call (allSign 2) (.confirmPayment "ticket" "hash"),
      .call (allSign 3) (.listForResale "ticket" 1000)]

theorem listed_ticket_belongs_to_alice :
    ∃ payment, (reached (registryWith concert) ticketListed).tickets.getPayment "ticket" =
        some payment ∧ ForSale ⟨"ticket", "concert", aliceAddress, 1000, .active, 3⟩ payment :=
  (listed_ticket_belongs_to_seller (registryWith concert) ticketListed
    ⟨trivial, trivial, trivial, trivial, trivial, .inl rfl, trivial, trivial, trivial⟩).1
    "ticket" ⟨"ticket", "concert", aliceAddress, 1000, .active, 3⟩ rfl rfl

/-- A listed ticket is refunded and then sold: the seller has the price twice, and the buyer a
refunded ticket. -/
theorem refunded_ticket_sold :
    let refunded := ticketListed ++ [.call (allSign 4) (.refund .guest "ticket")]
    let sold := refunded ++ [.call (allSign 5) (.purchaseResaleTicket "ticket" bobAddress 1000)]
    let before := reached (registryWith concert) refunded
    let after := reached (registryWith concert) sold
    (before.resale.get "ticket").map (·.status) = some .active ∧
      (before.tickets.getPayment "ticket").map (·.status) = some .refunded ∧
      (after.tickets.getPayment "ticket").map (fun payment =>
        (payment.status, payment.buyerAddress)) = some (.refunded, bobAddress) ∧
      after.tokens.balance EventRegistry.usdcAddress aliceAddress =
        before.tokens.balance EventRegistry.usdcAddress aliceAddress + 950 := by
  decide

/-! ### The cap on a listing -/

/-- A price is within the cap on the price of the tier, which is ten percent above it where the
organizer has set none. -/
def WithinResaleCap (event : EventInfo) (tierId : TierId) (price : Int) : Prop :=
  ∃ tier, event.tiers tierId = some tier ∧
    price ≤ tier.price * (maxBps + event.resaleCapBps.getD 1000) / maxBps

/-- A listing that no check but that of its price refuses. -/
structure Listable (env : Env host) (world : World Registry) (paymentId : PaymentId)
    (askPrice : Int) (payment : Payment) : Prop extends
    ListingOf env world paymentId askPrice payment where
  initialized : world.settings.initialized = true
  unpaused : world.settings.isPaused = false
  connected : world.settings.eventRegistry.isSome = true

variable {event : EventInfo}

omit [RegistryApi Registry] in
/-- A cap that the organizer has set is kept. -/
theorem requireResaleCap_within (set : event.resaleCapBps.isSome = true) {tierId : TierId}
    {price : Int} (positive : 0 < price) :
    Ensures (requireResaleCap event tierId price) world fun _ _ =>
      WithinResaleCap event tierId price := by
  obtain ⟨capBps, cap⟩ := Option.isSome_iff_exists.mp set
  simp only [requireResaleCap, cap, checked, ensures_rules]
  intro tier found maxPrice computed bounded
  have quotient : maxPrice = (tier.price * (maxBps + capBps)).tdiv 10000 := eq_of_mulDiv computed
  rw [Int.tdiv_eq_ediv, show Int.sign 10000 = 1 from rfl] at quotient
  refine ⟨tier, found, ?_⟩
  rw [cap, Option.getD_some]
  -- A negative product is rounded up, but to no positive price.
  show price ≤ tier.price * (maxBps + capBps) / 10000
  split at quotient <;> omega

/-- The check keeps the cap exactly where the registry resolves the event and the organizer has
set a cap; elsewhere it checks nothing. -/
theorem checkAskPrice_within_iff {askPrice : Int} (positive : 0 < askPrice)
    (resolves : ∀ found, RegistryApi.getEvent world.registry payment.eventId = some found →
      found = event) :
    Ensures (checkAskPrice payment askPrice) world
        (fun _ _ => WithinResaleCap event payment.ticketTierId askPrice) ↔
      (world.settings.eventRegistry.isSome = true →
        (RegistryApi.getEvent world.registry payment.eventId = some event ∧
          event.resaleCapBps.isSome = true) ∨
        WithinResaleCap event payment.ticketTierId askPrice) := by
  simp only [checkAskPrice, requireRegistry, ensures_rules]
  refine forall_congr' fun _ => ?_
  cases found : RegistryApi.getEvent world.registry payment.eventId with
  | none => simp [ensures_pure]
  | some event =>
    cases resolves event found
    cases cap : event.resaleCapBps with
    | none => simp [requireResaleCap, cap, ensures_pure]
    | some capBps =>
      have set : event.resaleCapBps.isSome = true := cap ▸ rfl
      simp [requireResaleCap_within set positive]

theorem listing_within_cap_iff (env : Env host) (world : World Registry) (paymentId : PaymentId)
    (askPrice : Int) (payment : Payment) (event : EventInfo)
    (stored : world.tickets.getPayment paymentId = some payment)
    (resolves : ∀ found, RegistryApi.getEvent world.registry payment.eventId = some found →
      found = event) :
    Ensures (listForResale env paymentId askPrice) world
        (fun _ _ => WithinResaleCap event payment.ticketTierId askPrice) ↔
      (Listable env world paymentId askPrice payment →
        (RegistryApi.getEvent world.registry payment.eventId = some event ∧
          event.resaleCapBps.isSome = true) ∨
        WithinResaleCap event payment.ticketTierId askPrice) := by
  simp only [listForResale, ensures_rules, ensures_checks]
  constructor
  · intro lists listable
    exact (checkAskPrice_within_iff listable.positive resolves).mp (lists listable.initialized
      listable.unpaused listable.positive payment stored listable.confirmed listable.signed
      listable.unlisted) listable.connected
  · intro condition initialized unpaused positive record same confirmed signed unlisted
    cases stored.symm.trans same
    refine (checkAskPrice_within_iff positive resolves).mpr fun connected => condition ?_
    exact ⟨⟨positive, stored, confirmed, signed, unlisted⟩, initialized, unpaused, connected⟩

theorem capped_listing_within :
    let world := reached (registryWith { concert with resaleCapBps := some 500 })
      ticketListed.dropLast
    ∃ payment event, world.tickets.getPayment "ticket" = some payment ∧
      RegistryApi.getEvent world.registry payment.eventId = some event ∧
      Ensures (listForResale (allSign 3) "ticket" 1050) world
        fun _ _ => WithinResaleCap event payment.ticketTierId 1050 := by
  refine ⟨_, _, rfl, rfl, ?_⟩
  refine (listing_within_cap_iff _ _ "ticket" 1050 _ _ rfl ?_).mpr fun _ => .inl ⟨rfl, rfl⟩
  rintro found ⟨⟩
  rfl

/-- The organizer of the concert has set no cap, and a ticket of 1000 is listed at 5000. -/
theorem uncapped_listing_above :
    let world := reached (registryWith concert) ticketListed.dropLast
    (∃ event, RegistryApi.getEvent world.registry "concert" = some event ∧
        ¬ WithinResaleCap event "general" 5000) ∧
      ((step world (.call (allSign 3) (.listForResale "ticket" 5000))).resale.get "ticket").map
        (·.askPrice) = some 5000 := by
  refine ⟨⟨_, rfl, ?_⟩, by decide⟩
  rintro ⟨tier, ⟨⟩, within⟩
  exact absurd within (by decide)

/-! ### The terms of a listing -/

/-- The royalty on a price at a rate, rounded down. -/
def royaltyShare (price : Int) (bps : Nat) : Int :=
  (price * bps).tdiv maxBps

omit [RegistryApi Registry] in
theorem royaltyOf_eq_some (found : royaltyOf settings listing = some royalty) :
    royalty = royaltyShare listing.askPrice (settings.getResaleRoyaltyBps listing.eventId) := by
  simp only [royaltyOf] at found
  split at found
  · exact eq_of_mulDiv found
  · rename_i none
    cases found
    rw [Nat.eq_zero_of_not_pos none, royaltyShare]
    simp

/-- What a purchase brings the seller of the listing, apart from a royalty that is due to
them. -/
def sellerReceives (world next : World Registry) (token : Address) (listing : ResaleListing) :
    Int :=
  next.tokens.balance token listing.seller - world.tokens.balance token listing.seller -
    if listing.seller = royaltyPayee world listing then
      royaltyShare listing.askPrice (world.settings.getResaleRoyaltyBps listing.eventId)
    else 0

/-- The step leaves the listing of the ticket as it is. -/
def KeepsListing (paymentId : PaymentId) (world : World Registry) (action : Action host Registry) :
    Prop :=
  (step world action).resale.get paymentId = world.resale.get paymentId

/-- The seller of a listing that stays in place until it is settled receives the price less the
royalty of the day of the listing exactly when the rate at the settlement gives the same
royalty. -/
theorem resale_terms_iff (registry : Registry) (earlier between : List (Action host Registry))
    (listEnv env : Env host) (paymentId : PaymentId) (price maxPrice : Int) (buyer : Address)
    (posted : World Registry)
    (listed : (listForResale listEnv paymentId price).run (reached registry earlier) =
      .ok ((), posted))
    (kept : Respects step (KeepsListing paymentId) posted between) :
    Ensures (purchaseResaleTicket env paymentId buyer maxPrice) (runActions step posted between)
      fun _ next => ∃ payment token,
        (reached registry earlier).tickets.getPayment paymentId = some payment ∧
        (runActions step posted between).settings.usdcToken = some token ∧
        (sellerReceives (runActions step posted between) next token
            (listingFor listEnv.timestamp paymentId payment price) =
          price - royaltyShare price
            ((reached registry earlier).settings.getResaleRoyaltyBps payment.eventId) ↔
        royaltyShare price
            ((runActions step posted between).settings.getResaleRoyaltyBps payment.eventId) =
          royaltyShare price
            ((reached registry earlier).settings.getResaleRoyaltyBps payment.eventId)) := by
  obtain ⟨payment, of, postedEq⟩ := listForResale_ensures () posted listed
  have run : runActions step posted between = reached registry (earlier ++
      .call listEnv (.listForResale paymentId price) :: between) := by
    rw [reached, runActions_append]
    show _ = runActions step (commit (listForResale listEnv paymentId price)
      (reached registry earlier)) between
    rw [commit, listed]
  have wellformed : Wellformed host (runActions step posted between) :=
    run ▸ reached_wellformed registry _
  have found : (runActions step posted between).resale.get paymentId =
      some (listingFor listEnv.timestamp paymentId payment price) := by
    rw [respects_invariant (fun later => later.resale.get paymentId = posted.resale.get paymentId)
      (fun _ _ keeps same => keeps.trans same) posted between kept rfl, postedEq]
    exact Store.get_set_self _ _ _
  refine (purchaseResaleTicket_settles wellformed).mono ?_
  rintro _ next ⟨listing, record, token, royalty, resale, _, paid⟩
  cases resale.listed.symm.trans found
  refine ⟨payment, token, of.stored, resale.token, ?_⟩
  have settled := royaltyOf_eq_some resale.royaltyEq
  have receives : sellerReceives (runActions step posted between) next token
      (listingFor listEnv.timestamp paymentId payment price) = price - royalty := by
    rw [sellerReceives, paid, ← settled]
    simp only [listingFor]
    omega
  simp only [listingFor] at settled
  rw [receives, ← settled]
  omega

/-- The administrator raises the royalty, sets it back and the ticket is bought. -/
theorem resale_terms_of_rate_restored :
    let between : List (Action EventRegistry.stage EventRegistry.Registry) :=
      [.call (allSign 4) (.configure (.setResaleRoyaltyBps "concert" 2000)),
        .call (allSign 5) (.configure (.setResaleRoyaltyBps "concert" 500))]
    let start := reached (registryWith concert) (ticketListed.take 7)
    let world := runActions step (reached (registryWith concert) ticketListed) between
    let sold := commit (purchaseResaleTicket (allSign 6) "ticket" bobAddress 1000) world
    ∃ payment token, start.tickets.getPayment "ticket" = some payment ∧
      world.settings.usdcToken = some token ∧
      (sellerReceives world sold token (listingFor 3 "ticket" payment 1000) =
          1000 - royaltyShare 1000 (start.settings.getResaleRoyaltyBps payment.eventId) ↔
        royaltyShare 1000 (world.settings.getResaleRoyaltyBps payment.eventId) =
          royaltyShare 1000 (start.settings.getResaleRoyaltyBps payment.eventId)) :=
  resale_terms_iff (registryWith concert) (ticketListed.take 7)
    [.call (allSign 4) (.configure (.setResaleRoyaltyBps "concert" 2000)),
      .call (allSign 5) (.configure (.setResaleRoyaltyBps "concert" 500))]
    (allSign 3) (allSign 6) "ticket" 1000 1000 bobAddress
    (reached (registryWith concert) ticketListed) rfl ⟨rfl, rfl, trivial⟩ () _ rfl

/-- The seller listed at a royalty of five per cent and is charged twenty. -/
theorem royalty_raised_after_listing :
    let raised := ticketListed ++
      [.call (allSign 4) (.configure (.setResaleRoyaltyBps "concert" 2000))]
    let before := reached (registryWith concert) raised
    let after := reached (registryWith concert)
      (raised ++ [.call (allSign 5) (.purchaseResaleTicket "ticket" bobAddress 1000)])
    (after.tickets.getPayment "ticket").map (·.buyerAddress) = some bobAddress ∧
      (reached (registryWith concert) ticketListed).settings.getResaleRoyaltyBps "concert" = 500 ∧
      after.tokens.balance EventRegistry.usdcAddress aliceAddress =
        before.tokens.balance EventRegistry.usdcAddress aliceAddress + 800 := by
  decide

end Agora.TicketPayment

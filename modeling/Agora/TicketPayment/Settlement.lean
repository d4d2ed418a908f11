/-
This file is about the settlement of a resale: who pays, who is paid, whose the ticket is
afterwards, and whether it can be settled again.

The money is accounted for, and a listing that is settled is closed until the ticket is
listed anew. The record of the ticket names a buyer and an owner, and only the buyer changes.
-/

import Agora.TicketPayment.Listings

namespace Agora.TicketPayment

open Soroban EventRegistry

variable {Registry : Type} [RegistryApi Registry] {host : Host} {world next : World Registry}
  {paymentId : PaymentId} {listing : ResaleListing}

/-! ### Listings that are closed -/

/-- A listing that a step leaves was there before, or is stored under its own id, and then it is
active only if the step has listed the ticket. -/
theorem Effect.listing_of_get {action : Action host Registry} {change : Change}
    (effect : Effect world action change)
    (found : (change.resale world.resale).get paymentId = some listing) :
    world.resale.get paymentId = some listing ∨ listing.paymentId = paymentId ∧
      (listing.status = .active →
        ∃ env askPrice, action = .call env (.listForResale paymentId askPrice)) := by
  cases effect with
  | listing env call written writes =>
    replace found : (world.resale.set written.paymentId written).get paymentId = some listing :=
      found
    rw [Store.get_set] at found
    split at found
    · rename_i same
      cases found
      refine .inr ⟨same.symm, fun active => ?_⟩
      cases writes with
      | listed id askPrice => exact ⟨env, askPrice, by rw [same]; rfl⟩
      | cancelled => cases active
    · exact .inl found
  | resale env id buyer maxPrice before =>
    replace found : (world.resale.set before.paymentId { before with status := .completed }).get
      paymentId = some listing := found
    rw [Store.get_set] at found
    split at found
    · rename_i same
      cases found
      exact .inr ⟨same.symm, fun absurdity => by cases absurdity⟩
    · exact .inl found
  | _ => exact .inl found

/-- Every listing is stored under the id of its ticket. -/
def ListingsKeyed (world : World Registry) : Prop :=
  ∀ paymentId listing, world.resale.get paymentId = some listing → listing.paymentId = paymentId

theorem reached_listingsKeyed {registry : Registry} {actions : List (Action host Registry)} :
    ListingsKeyed (reached registry actions) := by
  refine reached_invariant ListingsKeyed ?_ (respects_true _ _)
    (fun _ _ absurdity => by cases absurdity)
  intro world action _ wellformed keyed paymentId listing found
  obtain ⟨change, effect, does⟩ := step_takes wellformed.escrowState action
  rw [does.resale] at found
  exact (effect.listing_of_get found).elim (keyed paymentId listing) And.left

/-- The step does not list the ticket. -/
def Unlisting (paymentId : PaymentId) (_ : World Registry) (action : Action host Registry) : Prop :=
  ∀ env askPrice, action ≠ .call env (.listForResale paymentId askPrice)

omit [RegistryApi Registry] in
theorem isListed_eq_false_iff : isListed world paymentId = false ↔
    ∀ listing, world.resale.get paymentId = some listing → listing.status ≠ .active := by
  unfold isListed
  cases world.resale.get paymentId with
  | none => simp
  | some listing => simp

/-- A ticket that is not for sale stays so until it is listed. -/
theorem unlisted_stays (escrowState : world.escrowState = .empty)
    (unlisted : isListed world paymentId = false) (actions : List (Action host Registry))
    (unlisting : Respects step (Unlisting paymentId) world actions) :
    isListed (runActions step world actions) paymentId = false := by
  refine (respects_invariant (fun world => world.escrowState = .empty ∧
    isListed world paymentId = false) ?_ world actions unlisting ⟨escrowState, unlisted⟩).2
  rintro world action unlisting ⟨escrowState, unlisted⟩
  obtain ⟨change, effect, does⟩ := step_takes escrowState action
  refine ⟨does.escrowState.trans escrowState, isListed_eq_false_iff.mpr ?_⟩
  intro listing found active
  rw [does.resale] at found
  rcases effect.listing_of_get found with before | ⟨_, listed⟩
  · exact isListed_eq_false_iff.mp unlisted listing before active
  · obtain ⟨env, askPrice, same⟩ := listed active
    exact unlisting env askPrice same

/-! ### The settlement -/

/-- What a settlement promises: the price is paid and shared out, nothing stays behind, the
ticket is the buyer's, and the listing is closed. -/
structure Settles (host : Host) (world next : World Registry) (paymentId : PaymentId)
    (listing : ResaleListing) (token buyer organizer : Address) (maxPrice : Int) : Prop where
  bounded : listing.askPrice ≤ maxPrice
  paid : next.tokens.balance token buyer = world.tokens.balance token buyer - listing.askPrice
  received : next.tokens.balance token listing.seller -
      world.tokens.balance token listing.seller +
    (next.tokens.balance token organizer - world.tokens.balance token organizer) = listing.askPrice
  held : next.tokens.balance token host.contract = world.tokens.balance token host.contract
  royalty : (RegistryApi.getEvent world.registry listing.eventId).isSome = true →
    next.tokens.balance token organizer = world.tokens.balance token organizer +
      royaltyShare listing.askPrice (world.settings.getResaleRoyaltyBps listing.eventId)
  owned : ∃ record, next.tickets.getPayment paymentId = some record ∧
    record.buyerAddress = buyer ∧ record.ownerAddress = buyer
  once : ∀ actions : List (Action host Registry),
    Respects step (Unlisting paymentId) next actions →
    ∀ (env : Env host) (other : Address) (price : Int), Ensures
      (purchaseResaleTicket env paymentId other price) (runActions step next actions)
      fun _ _ => False

omit [RegistryApi Registry] in
/-- The buyer pays the price, and the seller and the organizer share it. -/
theorem resaleGain_shares {buyer payee organizer : Address} {royalty : Int}
    (bounds : 0 ≤ royalty ∧ royalty ≤ listing.askPrice) (distinct : buyer ≠ listing.seller)
    (notBuyer : organizer ≠ buyer) (notSeller : organizer ≠ listing.seller)
    (either : payee = organizer ∨ payee = listing.seller) :
    resaleGain listing buyer payee royalty buyer = -listing.askPrice ∧
      resaleGain listing buyer payee royalty listing.seller +
        resaleGain listing buyer payee royalty organizer = listing.askPrice ∧
      (payee = organizer → resaleGain listing buyer payee royalty organizer = royalty) := by
  obtain ⟨nonneg, le⟩ := bounds
  unfold resaleGain
  rw [max_eq_left nonneg, max_eq_left (Int.sub_nonneg.mpr le)]
  rcases either with rfl | rfl
  · simp [distinct, distinct.symm, notBuyer, notBuyer.symm, notSeller, notSeller.symm]
  · simp [distinct, distinct.symm, notBuyer, notSeller, notSeller.symm]

/-- A settlement keeps its promises exactly when the record names the buyer as the owner
already. -/
theorem resale_settles_iff (registry : Registry) (actions : List (Action host Registry))
    (env : Env host) (paymentId : PaymentId) (buyer organizer : Address) (maxPrice : Int) :
    Ensures (purchaseResaleTicket env paymentId buyer maxPrice) (reached registry actions)
      fun _ next => ∃ listing payment token royalty,
        ResaleOf env (reached registry actions) paymentId buyer listing payment token royalty ∧
        ((∀ event ∈ RegistryApi.getEvent (reached registry actions).registry listing.eventId,
            event.organizerAddress = organizer) →
          organizer ≠ buyer → organizer ≠ listing.seller → organizer ≠ host.contract →
          (Settles host (reached registry actions) next paymentId listing token buyer organizer
            maxPrice ↔ payment.ownerAddress = buyer)) := by
  have wellformed := reached_wellformed registry actions
  refine purchaseResaleTicket_ensures.mono ?_
  rintro _ next ⟨listing, payment, token, royalty, of, bounded, does, balance⟩
  refine ⟨listing, payment, token, royalty, of, fun resolved notBuyer notSeller outside => ?_⟩
  have written :
      next.tickets.getPayment paymentId = some { payment with buyerAddress := buyer } := by
    rw [does.tickets]
    exact (getPayment_handOver paymentId paymentId payment _ buyer _).trans (if_pos rfl)
  constructor
  · intro settles
    obtain ⟨record, stored, _, owner⟩ := settles.owned
    cases written.symm.trans stored
    exact owner
  intro owner
  have sellerOutside := wellformed.sellers paymentId listing of.listed
  have bounds := royalty_bounds wellformed.settings of.askPrice_nonneg of.royaltyEq
  have payee : royaltyPayee (reached registry actions) listing = organizer ∨
      royaltyPayee (reached registry actions) listing = listing.seller ∧
        RegistryApi.getEvent (reached registry actions).registry listing.eventId = none := by
    unfold royaltyPayee
    cases found : RegistryApi.getEvent (reached registry actions).registry listing.eventId with
    | none => exact .inr ⟨rfl, rfl⟩
    | some event => exact .inl (resolved event found)
  obtain ⟨paid, received, share⟩ := resaleGain_shares bounds of.distinct notBuyer notSeller
    (payee.imp_right And.left)
  refine ⟨bounded, ?_, ?_, ?_, fun known => ?_, ⟨_, written, rfl, owner⟩, ?_⟩
  · rw [balance _ (ne_contract_of_signed env of.signed), paid, sub_eq_add_neg]
  · rw [balance _ sellerOutside, balance _ outside, add_sub_cancel_left, add_sub_cancel_left,
      received]
  · have payeeOutside : royaltyPayee (reached registry actions) listing ≠ host.contract :=
      payee.elim (fun same => same ▸ outside) fun same => same.1 ▸ sellerOutside
    have held := congrFun does.ledger (.held token)
    rw [post_apply] at held
    refine held.trans ?_
    simp [sellerOutside, payeeOutside, World.ledger, bounds.1, bounds.2]
    omega
  · have known : royaltyPayee (reached registry actions) listing = organizer := by
      refine payee.resolve_right fun unknown => ?_
      rw [unknown.2] at known
      cases known
    rw [balance _ outside, share known, royaltyOf_eq_some of.royaltyEq]
  · intro later unlisting env other price _ final run
    have closed : isListed next paymentId = false := by
      rw [isListed, does.resale]
      have key := reached_listingsKeyed paymentId listing of.listed
      simp [key]
    have unlisted := unlisted_stays (does.escrowState.trans wellformed.escrowState) closed later
      unlisting
    obtain ⟨_, _, _, _, again, _⟩ := purchaseResaleTicket_ensures _ _ run
    rw [isListed_of_active again.listed again.active] at unlisted
    cases unlisted

/-- Alice buys a ticket for Bob, lists it, and Bob buys it from her. -/
def givenAndListed : List (Action stage EventRegistry.Registry) :=
  setUp ++
    [.call (allSign 1) (.processPayment { ticketFor aliceAddress "ticket" 1 with
        recipientAddress := some bobAddress }),
      .call (allSign 2) (.confirmPayment "ticket" "hash"),
      .call (allSign 3) (.listForResale "ticket" 1000)]

theorem given_ticket_settles :
    ∃ next listing, (purchaseResaleTicket (allSign 4) "ticket" bobAddress 1000).run
        (reached (registryWith concert) givenAndListed) = .ok ((), next) ∧
      Settles stage (reached (registryWith concert) givenAndListed) next "ticket" listing
        usdcAddress bobAddress organizerAddress 1000 := by
  obtain ⟨next, run⟩ : ∃ next, (purchaseResaleTicket (allSign 4) "ticket" bobAddress 1000).run
    (reached (registryWith concert) givenAndListed) = .ok ((), next) := ⟨_, rfl⟩
  obtain ⟨listing, payment, token, royalty, of, settles⟩ := resale_settles_iff
    (registryWith concert) givenAndListed (allSign 4) "ticket" bobAddress organizerAddress 1000
    () next run
  cases of.listed
  cases of.token
  cases of.stored
  exact ⟨next, _, run, (settles (by rintro event ⟨⟩; rfl) (by decide) (by decide)
    (by decide)).mpr rfl⟩

/-- Bob buys the ticket that Alice has bought for herself, and she stays its owner. -/
theorem sold_ticket_keeps_owner :
    let next := reached (registryWith concert)
      (ticketListed ++ [.call (allSign 4) (.purchaseResaleTicket "ticket" bobAddress 1000)])
    (next.tickets.getPayment "ticket").map (fun payment =>
      (payment.buyerAddress, payment.ownerAddress)) = some (bobAddress, aliceAddress) := by
  decide

end Agora.TicketPayment

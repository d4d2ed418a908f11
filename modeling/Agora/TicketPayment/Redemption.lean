/-
This file proves that no discount is redeemed more often than it should be: a hash is
accepted once, and the uses of a code since it was last created are counted and stay
within its limit.

The use of a code is counted in the middle of a sale, before checks that may still fail,
and the hash is marked as spent near its end. Either way a sale that fails leaves no
trace, so it is enough to look at the sales that succeed.
-/

import Agora.EventRegistry.System
import Agora.TicketPayment.Reachable

namespace Agora.TicketPayment

open Soroban EventRegistry

variable {Registry : Type} [RegistryApi Registry] {host : Host}

/-! ### Redemptions -/

/-- One for a sale that accepts the hash. -/
def redemptions (hash : BytesN32) (world : World Registry) : Action host Registry → Nat
  | .call env (.processPayment purchase) =>
    if purchase.options.codePreimage.map host.sha256 = some hash ∧
      accepted (processPayment env purchase) world = true then 1 else 0
  | _ => 0

/-- The uses of a code of an event: a sale with the code that succeeds is one more, and the
creation of the code starts anew. -/
def countUses (eventId : EventId) (code : String) (world : World Registry) :
    Action host Registry → Nat → Nat
  | .call env (.processPayment purchase), uses =>
    if (purchase.eventId = eventId ∧ purchase.options.discountCode = some code) ∧
      accepted (processPayment env purchase) world = true then uses + 1 else uses
  | .call env (.configure (.createDiscountCode event created percentage expiresAt maxUses)), uses =>
    if (event = eventId ∧ created = code) ∧
      accepted (createDiscountCode env event created percentage expiresAt maxUses) world = true
    then 0 else uses
  | _, uses => uses

/-- The uses of a code in a run since it was last created. -/
def usesSinceCreation (registry : Registry) (actions : List (Action host Registry))
    (eventId : EventId) (code : String) : Nat :=
  runFold step (countUses eventId code) (.fresh registry) actions 0

/-! ### What a step does to the discounts -/

/-- What a step does to the codes and to the spent hashes. -/
inductive DiscountTurn (world : World Registry) (action : Action host Registry) : Prop
  | kept
      (code : (step world action).discounts.code = world.discounts.code)
      (hashUsed : (step world action).discounts.hashUsed = world.discounts.hashUsed)
      (redeems : ∀ hash, redemptions hash world action = 0)
      (counts : ∀ eventId code uses, countUses eventId code world action uses = uses)
  | sold (env : Env host) (purchase : Purchase) (sale : Sale)
      (actionEq : action = .call env (.processPayment purchase))
      (accepts : accepted (processPayment env purchase) world = true)
      (of : sale.Of env world purchase)
      (discounts : (step world action).discounts = purchase.redeem host world.discounts)
  | created (env : Env host) (eventId : EventId) (code : String)
      (percentage expiresAt maxUses : Nat)
      (actionEq : action =
        .call env (.configure (.createDiscountCode eventId code percentage expiresAt maxUses)))
      (accepts :
        accepted (createDiscountCode env eventId code percentage expiresAt maxUses) world = true)
      (discounts : (step world action).discounts =
        storeCode eventId code ⟨percentage, expiresAt, maxUses, 0⟩ world.discounts)

section Turns

variable {world : World Registry} {env : Env host}

theorem DiscountTurn.processPayment {purchase : Purchase} :
    DiscountTurn world (.call env (.processPayment purchase)) := by
  obtain ⟨refused, unchanged⟩ | ⟨accepts, value, run⟩ :=
    commit_cases_accepted (TicketPayment.processPayment env purchase) world
  · have same : step world (.call env (.processPayment purchase)) = world := unchanged
    exact .kept (by rw [same]) (by rw [same]) (fun hash => by simp [redemptions, refused])
      fun eventId code uses => by simp [countUses, refused]
  · obtain ⟨sale, of, does, _⟩ := processPayment_ensures value _ run
    exact .sold env purchase sale rfl accepts of does.discounts

theorem DiscountTurn.createDiscountCode {eventId : EventId} {code : String}
    {percentage expiresAt maxUses : Nat} :
    DiscountTurn world
      (.call env (.configure (.createDiscountCode eventId code percentage expiresAt maxUses))) := by
  obtain ⟨refused, unchanged⟩ | ⟨accepts, value, run⟩ := commit_cases_accepted
    (TicketPayment.createDiscountCode env eventId code percentage expiresAt maxUses) world
  · have same : step world (.call env (.configure
      (.createDiscountCode eventId code percentage expiresAt maxUses))) = world := unchanged
    exact .kept (by rw [same]) (by rw [same]) (fun hash => rfl)
      fun event created uses => by simp [countUses, refused]
  · have does := createDiscountCode_ensures value _ run
    exact .created env eventId code percentage expiresAt maxUses rfl accepts does.discounts

variable {action : Action host Registry}

/-- Every other step leaves the codes and the spent hashes alone. -/
theorem DiscountTurn.other (escrow : world.escrowState = .empty)
    (noSale : ∀ env purchase, action ≠ .call env (.processPayment purchase))
    (noCode : ∀ env eventId code percentage expiresAt maxUses, action ≠
      .call env (.configure (.createDiscountCode eventId code percentage expiresAt maxUses))) :
    DiscountTurn world action := by
  have same : (step world action).discounts.code = world.discounts.code ∧
      (step world action).discounts.hashUsed = world.discounts.hashUsed := by
    obtain ⟨change, effect, does⟩ := step_takes escrow action
    rw [does.discounts]
    cases effect with
    | sale env purchase => exact absurd rfl (noSale env purchase)
    | configured env call governance discounts initializes configures =>
      cases configures with
      | codeCreated => exact absurd rfl (noCode _ _ _ _ _ _)
      | hashesAdded eventId hashes =>
        exact ⟨storeHashes_code hashes _, storeHashes_hashUsed hashes _⟩
      | _ => exact ⟨rfl, rfl⟩
    | _ => exact ⟨rfl, rfl⟩
  refine .kept same.1 same.2 (fun hash => ?_) fun eventId code uses => ?_
  · unfold redemptions
    split
    · exact absurd rfl (noSale _ _)
    · rfl
  · unfold countUses
    split
    · exact absurd rfl (noSale _ _)
    · exact absurd rfl (noCode _ _ _ _ _ _)
    · rfl

theorem step_discountTurn (escrow : world.escrowState = .empty) :
    DiscountTurn world action := by
  by_cases sells : ∃ env purchase, action = .call env (.processPayment purchase)
  · obtain ⟨env, purchase, rfl⟩ := sells
    exact .processPayment
  by_cases creates : ∃ env eventId code percentage expiresAt maxUses, action =
      .call env (.configure (.createDiscountCode eventId code percentage expiresAt maxUses))
  · obtain ⟨env, eventId, code, percentage, expiresAt, maxUses, rfl⟩ := creates
    exact .createDiscountCode
  · exact .other escrow (fun env purchase same => sells ⟨env, purchase, same⟩)
      fun env eventId code percentage expiresAt maxUses same =>
        creates ⟨env, eventId, code, percentage, expiresAt, maxUses, same⟩

end Turns

/-! ### Hashes -/

section Hashes

theorem hashUsed_countUse (eventId : EventId) (code : Option String) (discounts : Discounts) :
    (countUse eventId code discounts).hashUsed = discounts.hashUsed := by
  unfold countUse
  split
  · rfl
  · split <;> rfl

theorem hashUsed_redeem (purchase : Purchase) (discounts : Discounts) (hash : BytesN32) :
    ((purchase.redeem host discounts).hashUsed.get hash).isSome =
      (decide (purchase.options.codePreimage.map host.sha256 = some hash) ||
        (discounts.hashUsed.get hash).isSome) := by
  unfold Purchase.redeem spendHash
  cases purchase.options.codePreimage with
  | none => simp [hashUsed_countUse]
  | some preimage =>
    simp only [Option.map_some, hashUsed_countUse, Store.get_set, Option.some.injEq]
    by_cases same : host.sha256 preimage = hash
    · simp [same]
    · simp [same, Ne.symm same]

/-- One for a hash that is spent. -/
def spent (hash : BytesN32) (world : World Registry) : Nat :=
  if (world.discounts.hashUsed.get hash).isSome then 1 else 0

/-- A hash is spent by the sale that redeems it, and no other. -/
theorem step_spent {hash : BytesN32} {world : World Registry} (escrow : world.escrowState = .empty)
    {action : Action host Registry} :
    spent hash (step world action) = spent hash world + redemptions hash world action := by
  unfold spent
  cases step_discountTurn escrow with
  | kept code hashUsed redeems => rw [hashUsed, redeems, add_zero]
  | created env eventId code percentage expiresAt maxUses actionEq accepts discounts =>
    rw [discounts, actionEq]
    rfl
  | sold env purchase sale actionEq accepts of discounts =>
    rw [discounts, hashUsed_redeem, actionEq, redemptions]
    cases presented : purchase.options.codePreimage with
    | none => simp
    | some preimage =>
      have unspent := (of.hashValid preimage presented).2
      by_cases same : host.sha256 preimage = hash
      · subst same
        simp [unspent, accepts]
      · simp [same]

end Hashes

/-! ### Codes -/

section Codes

/-- The uses of a code are counted and within its limit. A code that is not known has none. -/
def UsesCounted (eventId : EventId) (code : String) (world : World Registry) (uses : Nat) : Prop :=
  match world.discounts.code.get (eventId, code) with
  | none => uses = 0
  | some data => data.currentUses = uses ∧ uses ≤ data.maxUses

theorem code_redeem (purchase : Purchase) (discounts : Discounts) :
    (purchase.redeem host discounts).code =
      (countUse purchase.eventId purchase.options.discountCode discounts).code := by
  unfold Purchase.redeem spendHash
  split <;> rfl

theorem UsesCounted.sold {env : Env host} {world next : World Registry} {purchase : Purchase}
    {sale : Sale} {eventId : EventId} {code : String} {uses : Nat}
    (counted : UsesCounted eventId code world uses) (of : sale.Of env world purchase)
    (discounts : next.discounts = purchase.redeem host world.discounts) :
    UsesCounted eventId code next (if purchase.eventId = eventId ∧
      purchase.options.discountCode = some code then uses + 1 else uses) := by
  unfold UsesCounted at counted ⊢
  rw [discounts, code_redeem]
  cases presented : purchase.options.discountCode with
  | none =>
    rw [if_neg fun both => by cases both.2]
    exact counted
  | some used =>
    obtain ⟨data, found, left⟩ := of.codeValid used presented
    -- the use counts for this code and for no other
    simp only [countUse, found, Store.get_set]
    by_cases same : purchase.eventId = eventId ∧ used = code
    · obtain ⟨rfl, rfl⟩ := same
      rw [found] at counted
      rw [if_pos rfl, if_pos ⟨rfl, rfl⟩, ← counted.1]
      exact ⟨rfl, left⟩
    · rw [if_neg fun key => same ⟨(Prod.mk.inj key).1.symm, (Prod.mk.inj key).2.symm⟩,
        if_neg fun both => same ⟨both.1, Option.some.inj both.2⟩]
      exact counted

theorem step_usesCounted {eventId : EventId} {code : String} {world : World Registry}
    (escrow : world.escrowState = .empty) {action : Action host Registry} {uses : Nat}
    (counted : UsesCounted eventId code world uses) :
    UsesCounted eventId code (step world action) (countUses eventId code world action uses) := by
  cases step_discountTurn escrow with
  | kept same hashUsed redeems counts =>
    rw [counts]
    unfold UsesCounted
    rw [same]
    exact counted
  | sold env purchase sale actionEq accepts of discounts =>
    have sold := counted.sold of discounts
    rw [actionEq] at sold ⊢
    simpa only [countUses, accepts, and_true] using sold
  | created env event created percentage expiresAt maxUses actionEq accepts discounts =>
    unfold UsesCounted at counted ⊢
    rw [discounts, actionEq, storeCode, Store.get_set]
    simp only [countUses, accepts, and_true, Prod.mk.injEq]
    by_cases same : event = eventId ∧ created = code
    · obtain ⟨rfl, rfl⟩ := same
      rw [if_pos ⟨rfl, rfl⟩, if_pos ⟨rfl, rfl⟩]
      exact ⟨rfl, Nat.zero_le _⟩
    · rw [if_neg fun both => same ⟨both.1.symm, both.2.symm⟩, if_neg same]
      exact counted

end Codes

/-! ### The runs -/

/-- Over every run each hash is redeemed by one sale at most, the uses of each code since its
creation are counted and within its limit, and a sale that fails changes nothing. -/
theorem codes_not_over_redeemed (registry : Registry) (actions : List (Action host Registry)) :
    (∀ hash, runTotal step (redemptions hash) (.fresh registry) actions ≤ 1) ∧
    (∀ eventId code, UsesCounted eventId code (reached registry actions)
      (usesSinceCreation registry actions eventId code)) ∧
    ∀ (env : Env host) (purchase : Purchase),
      ¬Succeeds (processPayment env purchase) (reached registry actions) (fun _ _ => True) →
      step (reached registry actions) (.call env (.processPayment purchase)) =
        reached registry actions := by
  refine ⟨fun hash => ?_, fun eventId code => ?_, fun env purchase fails => ?_⟩
  · have total := quantity_add_runTotal (Wellformed host) (spent hash) (redemptions hash)
      (fun world action _ => step_wellformed world action)
      (fun world action _ wellformed => step_spent wellformed.escrowState) _ actions
      (respects_true _ actions) (wellformed_fresh registry)
    have once : spent hash (reached registry actions) ≤ 1 := by
      unfold spent
      split <;> omega
    exact (total.trans (zero_add _)).symm.trans_le once
  · exact (runFold_invariant
      (fun world uses => Wellformed host world ∧ UsesCounted eventId code world uses)
      (fun world action uses both => ⟨step_wellformed world action both.1,
        step_usesCounted both.1.escrowState both.2⟩)
      ⟨wellformed_fresh registry, rfl⟩).2
  · obtain ⟨_, unchanged⟩ | ⟨accepts, _⟩ :=
      commit_cases_accepted (processPayment env purchase) (reached registry actions)
    · exact unchanged
    · exact absurd (accepted_eq_true_iff.mp accepts) fails

/-- A code with one use is created, and Alice and Bob both try it. -/
def codeTriedTwice : List (Action stage EventRegistry.Registry) :=
  let options : PurchaseOptions := ⟨none, none, some "SPRING"⟩
  setUp ++
    [.call (allSign 1) (.configure (.createDiscountCode "concert" "SPRING" 50 100 1)),
      .call (allSign 2) (.processPayment { ticketFor aliceAddress "ticket" 1 with options }),
      .call (allSign 3) (.processPayment { ticketFor bobAddress "other" 1 with options })]

example : usesSinceCreation (registryWith concert) codeTriedTwice "concert" "SPRING" = 1 ∧
    (reached (registryWith concert) codeTriedTwice).tickets.getPayment "other" = none := by
  decide

end Agora.TicketPayment

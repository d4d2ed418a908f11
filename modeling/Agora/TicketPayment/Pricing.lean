/-
This file is about the arithmetic of a purchase: what the discounts leave of the price, and
whether the parts that it is split into add up.

Every discount, fee and rebate is a share that is rounded down. Such a share grows with both
of its factors, and by no more than the whole, which gives the bounds and the order. The parts
need not add up, for the reward of a referrer is taken from the platform fee and once more
from the organizer.
-/

import Agora.TicketPayment.Undo

namespace Agora.TicketPayment

open Soroban EventRegistry

/-- The numbers that the price of a purchase depends on. -/
structure PriceTerms where
  amount : Int
  quantity : Nat
  promoRunning : Bool
  promoBps : Nat
  hasPreimage : Bool
  /-- The discount of the code of the event, zero without a code. -/
  percentage : Nat
  feeBps : Nat
  loyaltyBps : Nat
  referralRate : Option Nat

namespace PriceTerms

variable (terms : PriceTerms)

def total : Int := terms.amount * terms.quantity

/-- What the promotion leaves, in basis points. -/
def promoKept : Int := if terms.promoRunning then maxBps - terms.promoBps else maxBps

/-- What the preimage leaves, in per cent. -/
def preimageKept : Int := if terms.hasPreimage then 90 else 100

/-- The price after all discounts. -/
def price : Int :=
  (((terms.total * terms.promoKept).tdiv maxBps * terms.preimageKept).tdiv 100 *
    (100 - terms.percentage)).tdiv 100

/-- What the loyalty rebate leaves of the platform fee. -/
def fee : Int :=
  let gross := grossFee terms.price terms.feeBps
  gross - if 0 < terms.loyaltyBps then min ((gross * terms.loyaltyBps).tdiv maxBps) gross else 0

/-- The split of the price, where nothing overflows. -/
def split : Option Split :=
  splitPayment terms.price terms.feeBps terms.loyaltyBps terms.referralRate

/-- The numbers that the code admits. -/
structure Admitted : Prop where
  amount : 0 ≤ terms.amount
  promo : terms.promoBps ≤ maxBps
  percentage : terms.percentage ≤ 100
  fee : terms.feeBps ≤ maxBps

/-- There is no referrer, or their reward rounds down to nothing. -/
def Unrewarded : Prop := ∀ rate ∈ terms.referralRate, terms.fee * rate < maxBps

/-- The same purchase with other discounts. -/
def discounted (promoBps percentage loyaltyBps : Nat) : PriceTerms :=
  { terms with promoBps, percentage, loyaltyBps }

end PriceTerms

variable {host : Host} {Registry : Type} [RegistryApi Registry]

/-- The numbers of a purchase in a state, for the event that it is about. -/
def priceTerms (env : Env host) (world : World Registry) (purchase : Purchase)
    (event : EventInfo) : PriceTerms where
  amount := purchase.amount
  quantity := purchase.quantity
  promoRunning := env.timestamp < RegistryApi.getPromoExpiry world.registry
  promoBps := RegistryApi.getGlobalPromoBps world.registry env.timestamp
  hasPreimage := purchase.options.codePreimage.isSome
  percentage := ((purchase.options.discountCode.bind fun code =>
    world.discounts.code.get (purchase.eventId, code)).map (·.percentage)).getD 0
  feeBps := feeBps env world.settings event
  loyaltyBps := RegistryApi.getLoyaltyDiscountBps world.registry purchase.buyerAddress
  referralRate := referralRate world.settings purchase.eventId purchase.options.referrer

/-- A discount of nothing leaves the price as it is. -/
theorem price_priceTerms (env : Env host) (world : World Registry) (purchase : Purchase)
    (event : EventInfo) :
    (priceTerms env world purchase event).price = discountedPrice env world purchase := by
  have promo (total : Int) : (total * (priceTerms env world purchase event).promoKept).tdiv maxBps =
      promoPrice env world.registry total := by
    simp only [PriceTerms.promoKept, priceTerms, promoPrice, PromoActive, decide_eq_true_eq]
    rcases Nat.eq_zero_or_pos (RegistryApi.getGlobalPromoBps world.registry env.timestamp) with
      none | some
    · simp [none, maxBps]
    · simp only [some, true_and]
      split <;> simp [maxBps]
  have preimage (price : Int) :
      (price * (priceTerms env world purchase event).preimageKept).tdiv 100 =
        preimagePrice purchase.options.codePreimage price := by
    unfold PriceTerms.preimageKept preimagePrice
    cases given : purchase.options.codePreimage with
    | none => simp [priceTerms, given]
    | some bytes => simp [priceTerms, given]
  rw [PriceTerms.price, promo, preimage, discountedPrice, codePrice]
  simp only [priceTerms]
  cases purchase.options.discountCode.bind fun code =>
      world.discounts.code.get (purchase.eventId, code) with
  | none => simp [PriceTerms.total]
  | some data => rfl

theorem Sale.Of.split_priceTerms {env : Env host} {world : World Registry} {purchase : Purchase}
    {sale : Sale} (of : sale.Of env world purchase) :
    (priceTerms env world purchase sale.event).split = some sale.split := by
  rw [PriceTerms.split, price_priceTerms, ← of.priceEq]
  exact of.split

namespace PriceTerms

variable {terms : PriceTerms} {split less : Split}

/-- The parts fall short of the payment by the reward. -/
theorem parts_add_up_iff (nonneg : 0 ≤ terms.price) (computed : terms.split = some split) :
    split.organizerAmount + split.platformFee + split.referralReward = split.effectiveTotal ↔
      terms.Unrewarded := by
  obtain ⟨gross, rebate, reward, parts⟩ := splitPayment_terms computed
  have feeNonneg := Int.sub_nonneg.mpr (parts.rebate_bounds nonneg).2
  have fee : terms.fee = gross - rebate := by
    rw [parts.rebateEq, parts.grossEq]
    rfl
  have short : split.organizerAmount + split.platformFee + split.referralReward =
      split.effectiveTotal - reward := by
    rw [parts.organizerAmountEq, parts.platformFeeEq, parts.effectiveTotalEq]
    ring
  rw [short, sub_eq_self, Unrewarded, fee, parts.rewardEq]
  cases terms.referralRate with
  | none => simp
  | some rate =>
    have productNonneg := Int.mul_nonneg feeNonneg (Int.natCast_nonneg rate)
    have share := tdiv_maxBps_eq_zero_iff productNonneg
    simp only [Option.mem_some_iff, forall_eq']
    refine ⟨fun least => ?_, fun small => ?_⟩
    · rcases min_choice (((gross - rebate) * rate).tdiv maxBps) (gross - rebate) with left | right
      · exact share.mp (left.symm.trans least)
      · rw [right.symm.trans least, zero_mul]
        decide
    · rw [share.mpr small]
      exact min_eq_left feeNonneg

theorem kept_bounds (admitted : terms.Admitted) :
    (0 ≤ terms.promoKept ∧ terms.promoKept ≤ maxBps) ∧
      0 ≤ terms.preimageKept ∧ terms.preimageKept ≤ 100 := by
  have promo := admitted.promo
  unfold promoKept preimageKept
  exact ⟨by split <;> omega, by split <;> omega⟩

theorem price_bounds (admitted : terms.Admitted) : 0 ≤ terms.price ∧ terms.price ≤ terms.total := by
  have totalNonneg : 0 ≤ terms.total := Int.mul_nonneg admitted.amount (Int.natCast_nonneg _)
  obtain ⟨promo, preimage⟩ := kept_bounds admitted
  have percentage := admitted.percentage
  have first := tdiv_share_bounds totalNonneg promo.1 promo.2
  have second := tdiv_share_bounds first.1 preimage.1 preimage.2
  have third := tdiv_share_bounds second.1 (show (0 : Int) ≤ 100 - terms.percentage by omega)
    (show (100 : Int) - terms.percentage ≤ 100 by omega)
  exact ⟨third.1, third.2.trans (second.2.trans first.2)⟩

section Order

variable {promoBps percentage loyaltyBps : Nat} (promo : terms.promoBps ≤ promoBps)
  (percent : terms.percentage ≤ percentage) (loyal : terms.loyaltyBps ≤ loyaltyBps)
  (admitted : (terms.discounted promoBps percentage loyaltyBps).Admitted)

include promo percent admitted

include loyal

end Order

end PriceTerms

variable (env : Env host) (purchase : Purchase) (world : World Registry)

/-- What is booked for the organizer and the platform and sent to the referrer is what the buyer
pays exactly when there is no reward. -/
theorem purchase_conserves_payment_iff
    (capped : ∀ event ∈ RegistryApi.getEvent world.registry purchase.eventId,
      feeBps env world.settings event ≤ maxBps) :
    Ensures (processPayment env purchase) world fun _ next =>
      ∃ sale : Sale, sale.Of env world purchase ∧
        next.tokens.balance purchase.tokenAddress host.contract =
          world.tokens.balance purchase.tokenAddress host.contract + sale.split.effectiveTotal +
            (rewardLine host purchase sale.split).2 ∧
        ((next.books.getEventBalance purchase.eventId).organizerAmount -
              (world.books.getEventBalance purchase.eventId).organizerAmount +
            ((next.books.getEventBalance purchase.eventId).platformFee -
              (world.books.getEventBalance purchase.eventId).platformFee) +
            rewardPaid purchase sale.split =
          sale.split.effectiveTotal ↔ (priceTerms env world purchase sale.event).Unrewarded) := by
  refine processPayment_ensures.mono ?_
  rintro _ next ⟨sale, of, does, _⟩
  have gains (account : Account) : next.ledger host account - world.ledger host account =
      posted (sale.change env purchase).lines account := by
    rw [does.ledger, post_apply, add_sub_cancel_left]
  have organizer : posted (sale.change env purchase).lines (.organizer purchase.eventId) =
      sale.split.organizerAmount := by
    simp
  have platform : posted (sale.change env purchase).lines (.platform purchase.eventId) =
      sale.split.platformFee := by
    simp
  have held : posted (sale.change env purchase).lines (.held purchase.tokenAddress) =
      sale.split.effectiveTotal + (rewardLine host purchase sale.split).2 := by
    simp
  obtain ⟨_, _, _, parts⟩ := splitPayment_terms of.split
  have nonneg := (parts.covered of.price_nonneg (capped _ of.event)).2.1
  have price : 0 ≤ (priceTerms env world purchase sale.event).price := by
    rw [price_priceTerms, ← of.priceEq]
    exact of.price_nonneg
  refine ⟨sale, of, ?_, ?_⟩
  · rw [add_assoc, ← held, ← gains]
    exact (add_sub_cancel _ _).symm
  · rw [← PriceTerms.parts_add_up_iff price of.split_priceTerms, rewardPaid_eq_max of,
      max_eq_left nonneg, ← organizer, ← platform, ← gains, ← gains]
    rfl

/-- Without a referrer the books grow by what the buyer pays. -/
theorem unreferred_purchase_conserved :
    ∃ next, ∃ sale : Sale, (processPayment (allSign 1) (ticketFor aliceAddress "ticket" 1)).run
        (reached (registryWith concert) setUp) = .ok ("ticket", next) ∧
      (next.books.getEventBalance "concert").organizerAmount - 0 +
          ((next.books.getEventBalance "concert").platformFee - 0) +
          rewardPaid (ticketFor aliceAddress "ticket" 1) sale.split =
        sale.split.effectiveTotal := by
  obtain ⟨next, run⟩ : ∃ next, (processPayment (allSign 1) (ticketFor aliceAddress "ticket" 1)).run
    (reached (registryWith concert) setUp) = .ok ("ticket", next) := ⟨_, rfl⟩
  obtain ⟨sale, _, _, conserved⟩ := purchase_conserves_payment_iff (allSign 1)
    (ticketFor aliceAddress "ticket" 1) (reached (registryWith concert) setUp)
    (by rintro event ⟨⟩; decide) "ticket" next run
  exact ⟨next, sale, run, conserved.mpr (by rintro rate ⟨⟩)⟩

/-- Of a fee of fifty the referrer gets ten, which the organizer loses and the platform loses
too. -/
theorem referred_purchase_falls_short :
    ∃ next, (processPayment (allSign 1) { ticketFor aliceAddress "ticket" 1 with
        options := ⟨none, some bobAddress, none⟩ }).run (reached (registryWith concert) setUp) =
          .ok ("ticket", next) ∧
      (next.books.getEventBalance "concert").organizerAmount = 940 ∧
      (next.books.getEventBalance "concert").platformFee = 40 ∧
      next.tokens.balance usdcAddress bobAddress = 100010 ∧
      next.tokens.balance usdcAddress aliceAddress = 99000 :=
  ⟨_, rfl, by decide, by decide, by decide, by decide⟩

end Agora.TicketPayment

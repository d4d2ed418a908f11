/-
This file models the engine of the bonding curves: the spot price of a ticket and the cost of
several tickets, the integral of the price over the supply that they take. No entry point of the
contract calls it yet.

Only the power saturates. Every other operation is checked, as the crate is built, so a price or
a cost may be missing. `bondingCurvePrice_eq` and `bondingCurveIntegralCost_eq` say when, and what
the value is otherwise.
-/

import Mathlib.Algebra.Order.Ring.Pow
import Mathlib.Tactic.Linarith
import Agora.TicketPayment.Types

namespace Agora.TicketPayment

open Soroban

structure BondingCurveConfig where
  aScaled : Int
  bExponent : Nat
  cBase : Int
  initialSupply : Nat
  deriving DecidableEq, Repr

def paramScale : Int := 1000000

def maxExponent : Nat := 4

def validateBondingCurveConfig (config : BondingCurveConfig) : Except TicketPaymentError Unit :=
  if config.aScaled ≤ 0 then .error .invalidPrice
  else if config.bExponent = 0 ∨ maxExponent < config.bExponent then .error .invalidPrice
  else if config.cBase < 0 then .error .invalidPrice
  else if config.initialSupply = 0 then .error .maxSupplyExceeded
  else .ok ()

def saturatingMul (first second : Int) : Int :=
  max (-2 ^ 127) (min (first * second) (2 ^ 127 - 1))

def integerPow (base : Int) : Nat → Int
  | 0 => 1
  | exp + 1 => saturatingMul (integerPow base exp) base

def bondingCurvePrice (config : BondingCurveConfig) (remainingSupply : Nat) : Option Int := do
  let component ← mulDiv config.aScaled (integerPow remainingSupply config.bExponent) paramScale
  checkedAdd component config.cBase

def integralAt (config : BondingCurveConfig) (s : Int) : Option Int := do
  let quotient ← mulDiv config.aScaled (integerPow s (config.bExponent + 1)) (config.bExponent + 1)
  let share ← checkedDiv quotient paramScale
  let base ← checkedMul config.cBase s
  checkedAdd share base

/-- No result where the source overflows. -/
def bondingCurveIntegralCost (config : BondingCurveConfig) (remainingSupply quantity : Nat) :
    Option (Except TicketPaymentError Int) :=
  if quantity = 0 then some (.ok 0)
  else if remainingSupply < quantity then some (.error .maxSupplyExceeded)
  else do
    let start ← integralAt config remainingSupply
    let stop ← integralAt config (remainingSupply - quantity : Nat)
    let cost ← checkedSub start stop
    if cost < 0 then some (.error .arithmeticError) else some (.ok cost)

/-- The cost of purchases one after another, each from the supply that the earlier ones left. -/
def sequenceCost (config : BondingCurveConfig) : Nat → List Nat → Option Int
  | _, [] => some 0
  | remainingSupply, quantity :: rest => do
    let .ok cost ← bondingCurveIntegralCost config remainingSupply quantity | none
    let others ← sequenceCost config (remainingSupply - quantity) rest
    some (cost + others)

namespace BondingCurveConfig

/-- A configuration that the check has accepted. -/
structure Valid (config : BondingCurveConfig) : Prop where
  a_pos : 0 < config.aScaled
  c_nonneg : 0 ≤ config.cBase

theorem valid_of_validate {config : BondingCurveConfig}
    (accepted : validateBondingCurveConfig config = .ok ()) : config.Valid := by
  unfold validateBondingCurveConfig at accepted
  split at accepted
  · cases accepted
  split at accepted
  · cases accepted
  split at accepted
  · cases accepted
  exact ⟨by omega, by omega⟩

/-! ### Powers -/

/-- The power, up to the largest value of its type. -/
def power (supply exp : Nat) : Int := min ((supply : Int) ^ exp) (2 ^ 127 - 1)

variable {supply : Nat} {exp : Nat}

theorem power_nonneg : 0 ≤ power supply exp :=
  le_min (pow_nonneg (Int.natCast_nonneg _) _) (by decide)

variable {more : Nat}

theorem power_mono (le : supply ≤ more) (exp : Nat) :
    power supply exp ≤ power more exp :=
  min_le_min_right _ (pow_le_pow_left₀ (Int.natCast_nonneg _) (Int.ofNat_le.mpr le) exp)

theorem integerPow_eq (supply exp : Nat) : integerPow supply exp = power supply exp := by
  induction exp with
  | zero => rfl
  | succ exp inductionHypothesis =>
    rw [integerPow, inductionHypothesis, saturatingMul, power, power, pow_succ (supply : Int)]
    have nonneg : 0 ≤ (supply : Int) := Int.natCast_nonneg supply
    have powerNonneg : 0 ≤ (supply : Int) ^ exp := pow_nonneg nonneg exp
    rcases le_total ((supply : Int) ^ exp) (2 ^ 127 - 1) with fits | large
    · rw [min_eq_left fits, max_eq_right]
      exact (by decide : (-2 ^ 127 : Int) ≤ 0).trans
        (le_min (Int.mul_nonneg powerNonneg nonneg) (by decide))
    · -- a power beyond the range is not one of nothing, so the next one is beyond it as well
      have positive : 1 ≤ (supply : Int) := by
        by_contra none
        have small : (supply : Int) ^ exp ≤ 1 := pow_le_one₀ nonneg (by omega)
        omega
      have grown (value : Int) (le : 2 ^ 127 - 1 ≤ value) : 2 ^ 127 - 1 ≤ value * supply :=
        le.trans (le_mul_of_one_le_right (by omega) positive)
      rw [min_eq_right large, min_eq_right (grown _ le_rfl), min_eq_right (grown _ large)]
      decide

/-- Up to a power that is in range, the powers of a smaller supply are exact. -/
theorem power_of_fits {low top : Nat} (le : low ≤ supply) (lower : exp ≤ top)
    (fits : (supply : Int) ^ top < 2 ^ 127) : power low exp = (low : Int) ^ exp := by
  have nonneg : 0 ≤ (low : Int) := Int.natCast_nonneg low
  refine min_eq_left ?_
  rcases Nat.eq_zero_or_pos low with none | positive
  · exact (pow_le_one₀ nonneg (by omega)).trans (by decide)
  · have higher : (low : Int) ^ exp ≤ (low : Int) ^ top := pow_le_pow_right₀ (by omega) lower
    have larger : (low : Int) ^ top ≤ (supply : Int) ^ top :=
      pow_le_pow_left₀ nonneg (Int.ofNat_le.mpr le) top
    omega

/-- A bound in whole multiples of the divisors survives the rounding. -/
theorem ediv_ediv_le_add {small large first second : Int} (firstPos : 0 < first)
    (secondPos : 0 < second) (count : Int) (le : small ≤ large + count * (first * second)) :
    small / first / second ≤ large / first / second + count := by
  have positive := Int.mul_pos firstPos secondPos
  rw [Int.ediv_ediv_of_nonneg firstPos.le, Int.ediv_ediv_of_nonneg firstPos.le,
    ← Int.add_mul_ediv_right _ _ positive.ne']
  exact Int.ediv_le_ediv positive le

/-- What the rounded integral grows by, compared with the rounded slopes at its ends. -/
theorem slope_bounds {a low step : Int} (aNonneg : 0 ≤ a) (lowNonneg : 0 ≤ low)
    (stepNonneg : 0 ≤ step) :
    a * low ^ (exp + 1) / (exp + 1) / paramScale + step * (a * low ^ exp / paramScale) ≤
        a * (low + step) ^ (exp + 1) / (exp + 1) / paramScale ∧
      a * (low + step) ^ (exp + 1) / (exp + 1) / paramScale ≤
        a * low ^ (exp + 1) / (exp + 1) / paramScale +
          step * (a * (low + step) ^ exp / paramScale + 1) := by
  have scale : 0 < paramScale := by decide
  have width : 0 ≤ (exp + 1) * step := Int.mul_nonneg (by omega) stepNonneg
  have below := pow_add_mul_le_add_pow lowNonneg (show 0 ≤ 2 * low + step by omega) (exp + 1)
  have above := pow_add_mul_le_add_pow (show 0 ≤ low + step by omega)
    (show 0 ≤ 2 * (low + step) + -step by omega) (exp + 1)
  rw [Int.add_neg_cancel_right] at above
  rw [Nat.add_sub_cancel, Nat.cast_succ] at below above
  constructor
  · have slope := Int.mul_le_mul_of_nonneg_left (Int.ediv_mul_le (a * low ^ exp) scale.ne') width
    have rise := Int.mul_le_mul_of_nonneg_left below aNonneg
    rw [← le_sub_iff_add_le, sub_eq_add_neg]
    exact ediv_ediv_le_add (by omega) scale _ (by linarith only [slope, rise])
  · have slope := Int.mul_le_mul_of_nonneg_left
      (Int.lt_ediv_add_one_mul_self (a * (low + step) ^ exp) scale).le width
    have rise := Int.mul_le_mul_of_nonneg_left above aNonneg
    exact ediv_ediv_le_add (by omega) scale _ (by linarith only [slope, rise])

/-! ### Prices and costs -/

/-- The spot price, apart from the range of its type. -/
def spot (config : BondingCurveConfig) (supply : Nat) : Int :=
  config.aScaled * power supply config.bExponent / paramScale + config.cBase

/-- The integral of the price from nothing up to a supply, apart from the range of its type. -/
def integral (config : BondingCurveConfig) (supply : Nat) : Int :=
  config.aScaled * power supply (config.bExponent + 1) / (config.bExponent + 1) / paramScale +
    config.cBase * supply

/-- The product and the sum of the spot price are in range. -/
def PriceFits (config : BondingCurveConfig) (supply : Nat) : Prop :=
  config.aScaled * power supply config.bExponent < 2 ^ 127 ∧ config.spot supply < 2 ^ 127

/-- The product and the sum of the integral are in range. -/
def IntegralFits (config : BondingCurveConfig) (supply : Nat) : Prop :=
  config.aScaled * power supply (config.bExponent + 1) < 2 ^ 127 ∧ config.integral supply < 2 ^ 127

instance (config : BondingCurveConfig) (supply : Nat) : Decidable (config.PriceFits supply) :=
  inferInstanceAs (Decidable (_ ∧ _))

instance (config : BondingCurveConfig) (supply : Nat) : Decidable (config.IntegralFits supply) :=
  inferInstanceAs (Decidable (_ ∧ _))

section Computed

variable {config : BondingCurveConfig} (valid : config.Valid)

include valid

theorem Valid.product_nonneg (supply exp : Nat) : 0 ≤ config.aScaled * power supply exp :=
  Int.mul_nonneg valid.a_pos.le power_nonneg

theorem Valid.bondingCurvePrice_eq (supply : Nat) :
    bondingCurvePrice config supply =
      if config.PriceFits supply then some (config.spot supply) else none := by
  have nonneg := valid.product_nonneg supply config.bExponent
  have share : 0 ≤ config.aScaled * power supply config.bExponent / paramScale :=
    Int.ediv_nonneg nonneg (by decide)
  rw [bondingCurvePrice, integerPow_eq, mulDiv_of_nonneg valid.a_pos.le power_nonneg (by decide)]
  by_cases product : config.aScaled * power supply config.bExponent < 2 ^ 127
  · rw [if_pos product]
    simp only [PriceFits, product, true_and]
    exact checkedI128_of_nonneg (Int.add_nonneg share valid.c_nonneg)
  · rw [if_neg product, if_neg fun fits => product fits.1]
    rfl

/-- What fits for a supply fits for a smaller one. -/
theorem Valid.priceFits_anti (le : supply ≤ more) (fits : config.PriceFits more) :
    config.PriceFits supply := by
  have product := Int.mul_le_mul_of_nonneg_left (power_mono le config.bExponent) valid.a_pos.le
  have share := Int.ediv_le_ediv (show 0 < paramScale by decide) product
  exact ⟨product.trans_lt fits.1, (Int.add_le_add_right share _).trans_lt fits.2⟩

theorem Valid.share_nonneg (supply : Nat) :
    0 ≤ config.aScaled * power supply (config.bExponent + 1) / (config.bExponent + 1) /
      paramScale :=
  Int.ediv_nonneg (Int.ediv_nonneg (valid.product_nonneg _ _) (by omega)) (by decide)

theorem Valid.integralAt_eq (supply : Nat) :
    integralAt config supply =
      if config.IntegralFits supply then some (config.integral supply) else none := by
  have nonneg := valid.product_nonneg supply (config.bExponent + 1)
  have share := valid.share_nonneg supply
  have base : 0 ≤ config.cBase * supply := Int.mul_nonneg valid.c_nonneg (Int.natCast_nonneg _)
  rw [integralAt, integerPow_eq, mulDiv_of_nonneg valid.a_pos.le power_nonneg (by omega)]
  by_cases product : config.aScaled * power supply (config.bExponent + 1) < 2 ^ 127
  · have quotient := (Int.ediv_le_self (config.bExponent + 1) nonneg).trans_lt product
    have divided := checkedDiv_of_nonneg (Int.ediv_nonneg nonneg (by omega)) quotient
      (show 0 < paramScale by decide)
    rw [if_pos product]
    simp only [Option.bind_eq_bind, Option.bind_some, divided, IntegralFits, product, true_and,
      checkedMul_of_nonneg valid.c_nonneg (Int.natCast_nonneg supply)]
    split
    · exact checkedI128_of_nonneg (Int.add_nonneg share base)
    · rw [if_neg (by unfold integral; omega)]
      rfl
  · rw [if_neg product, if_neg fun fits => product fits.1]
    rfl

theorem Valid.integral_mono (le : supply ≤ more) :
    config.integral supply ≤ config.integral more := by
  have product := Int.mul_le_mul_of_nonneg_left (power_mono le (config.bExponent + 1))
    valid.a_pos.le
  have share := Int.ediv_le_ediv (show 0 < paramScale by decide)
    (Int.ediv_le_ediv (show 0 < (config.bExponent + 1 : Int) by omega) product)
  exact Int.add_le_add share
    (Int.mul_le_mul_of_nonneg_left (Int.ofNat_le.mpr le) valid.c_nonneg)

theorem Valid.integral_nonneg (supply : Nat) : 0 ≤ config.integral supply := by
  simpa [integral, power] using valid.integral_mono (Nat.zero_le supply)

theorem Valid.integralFits_anti (le : supply ≤ more) (fits : config.IntegralFits more) :
    config.IntegralFits supply :=
  ⟨(Int.mul_le_mul_of_nonneg_left (power_mono le _) valid.a_pos.le).trans_lt fits.1,
    (valid.integral_mono le).trans_lt fits.2⟩

variable {quantity : Nat}

/-- The cost is a difference of integrals, which is never negative. -/
theorem Valid.bondingCurveIntegralCost_eq (ordered : quantity ≤ supply) :
    bondingCurveIntegralCost config supply quantity =
      if quantity = 0 ∨ config.IntegralFits supply then
        some (.ok (config.integral supply - config.integral (supply - quantity)))
      else none := by
  have mono := valid.integral_mono (Nat.sub_le supply quantity)
  rw [bondingCurveIntegralCost]
  by_cases none : quantity = 0
  · rw [if_pos none, if_pos (.inl none), none, Nat.sub_zero, Int.sub_self]
  rw [if_neg none, if_neg (Nat.not_lt.mpr ordered), valid.integralAt_eq, valid.integralAt_eq]
  by_cases fits : config.IntegralFits supply
  · have rest := valid.integralFits_anti (Nat.sub_le supply quantity) fits
    simp only [if_pos fits, if_pos rest, if_pos (Or.inr fits), Option.bind_eq_bind,
      Option.bind_some, checkedSub_of_le (valid.integral_nonneg _) mono fits.2]
    rw [if_neg (by omega)]
  · have missing : ¬(quantity = 0 ∨ config.IntegralFits supply) := fun either =>
      either.elim none fits
    simp only [if_neg fits, if_neg missing]
    rfl

theorem Valid.cost_of_fits (fits : config.IntegralFits supply) (ordered : quantity ≤ supply) :
    bondingCurveIntegralCost config supply quantity =
      some (.ok (config.integral supply - config.integral (supply - quantity))) := by
  rw [valid.bondingCurveIntegralCost_eq ordered, if_pos (.inr fits)]

/-- The costs of purchases one after another add up to a difference of integrals as well. -/
theorem Valid.sequenceCost_eq (fits : config.IntegralFits supply) {quantities : List Nat}
    (ordered : quantities.sum ≤ supply) :
    sequenceCost config supply quantities =
      some (config.integral supply - config.integral (supply - quantities.sum)) := by
  induction quantities generalizing supply with
  | nil => rw [sequenceCost, List.sum_nil, Nat.sub_zero, Int.sub_self]
  | cons quantity rest inductionHypothesis =>
    rw [List.sum_cons] at ordered ⊢
    have later := inductionHypothesis (valid.integralFits_anti (Nat.sub_le supply quantity) fits)
      (by omega)
    simp only [sequenceCost, valid.cost_of_fits fits (by omega : quantity ≤ supply), later,
      Option.bind_eq_bind, Option.bind_some, Nat.sub_sub]
    congr 1
    omega

end Computed

end BondingCurveConfig

section Curves

open BondingCurveConfig

variable (config : BondingCurveConfig) (supply : Nat)

/-- For an accepted configuration both functions come to an end, with a result that is not
negative, exactly when the products and sums they make for the supply are in range. -/
theorem bonding_curve_completes_iff (accepted : validateBondingCurveConfig config = .ok ())
    (quantity : Nat) (ordered : quantity ≤ supply) :
    (∃ price cost, bondingCurvePrice config supply = some price ∧ 0 ≤ price ∧
        bondingCurveIntegralCost config supply quantity = some (.ok cost) ∧ 0 ≤ cost) ↔
      config.PriceFits supply ∧ (quantity = 0 ∨ config.IntegralFits supply) := by
  have valid := valid_of_validate accepted
  rw [valid.bondingCurvePrice_eq, valid.bondingCurveIntegralCost_eq ordered]
  constructor
  · rintro ⟨price, cost, priceEq, _, costEq, _⟩
    exact ⟨by_contra fun missing => by simp [missing] at priceEq,
      by_contra fun missing => by simp [missing] at costEq⟩
  · rintro ⟨priceFits, costFits⟩
    have share := Int.ediv_nonneg (valid.product_nonneg supply config.bExponent)
      (show 0 ≤ paramScale by decide)
    exact ⟨_, _, if_pos priceFits, Int.add_nonneg share valid.c_nonneg, if_pos costFits,
      Int.sub_nonneg.mpr (valid.integral_mono (Nat.sub_le supply quantity))⟩

/-- A price of 100, and of one more for each ticket that is left. -/
def gentleCurve : BondingCurveConfig := ⟨1000000, 1, 100, 10⟩

theorem gentle_curve_completes :
    ∃ price cost, bondingCurvePrice gentleCurve 10 = some price ∧ 0 ≤ price ∧
      bondingCurveIntegralCost gentleCurve 10 3 = some (.ok cost) ∧ 0 ≤ cost :=
  (bonding_curve_completes_iff gentleCurve 10 rfl 3 (by decide)).mpr ⟨by decide, .inr (by decide)⟩

/-- The fourth power of the largest supply is cut off, and its product with the amplitude
overflows. -/
theorem quartic_curve_overflows :
    validateBondingCurveConfig ⟨1000000, 4, 0, 4294967295⟩ = .ok () ∧
      bondingCurvePrice ⟨1000000, 4, 0, 4294967295⟩ 4294967295 = none ∧
      bondingCurveIntegralCost ⟨1000000, 4, 0, 4294967295⟩ 4294967295 1 = none :=
  ⟨rfl, by decide, by decide⟩

/-- Where the integral is in range, an order costs as much as its parts, however it is split. -/
theorem split_order_costs_same (accepted : validateBondingCurveConfig config = .ok ())
    (fits : config.IntegralFits supply) :
    (∀ first second, first + second ≤ supply → ∃ head tail,
      bondingCurveIntegralCost config supply first = some (.ok head) ∧
        bondingCurveIntegralCost config (supply - first) second = some (.ok tail) ∧
        bondingCurveIntegralCost config supply (first + second) = some (.ok (head + tail))) ∧
    ∀ quantities : List Nat, quantities.sum ≤ supply → ∃ total,
      sequenceCost config supply quantities = some total ∧
        bondingCurveIntegralCost config supply quantities.sum = some (.ok total) := by
  have valid := valid_of_validate accepted
  constructor
  · intro first second ordered
    have rest := valid.integralFits_anti (Nat.sub_le supply first) fits
    refine ⟨_, _, valid.cost_of_fits fits (by omega), valid.cost_of_fits rest (by omega), ?_⟩
    rw [valid.cost_of_fits fits ordered, Nat.sub_sub, sub_add_sub_cancel]
  · intro quantities ordered
    exact ⟨_, valid.sequenceCost_eq fits ordered, valid.cost_of_fits fits ordered⟩

theorem gentle_curve_splits :
    ∃ total, sequenceCost gentleCurve 10 [3, 4, 2] = some total ∧
      bondingCurveIntegralCost gentleCurve 10 9 = some (.ok total) :=
  (split_order_costs_same gentleCurve 10 rfl (by decide)).2 [3, 4, 2] (by decide)

/-- Both products are in range here, and their sum is not. -/
theorem full_curve_overflows :
    validateBondingCurveConfig ⟨2000000, 1, 2 ^ 127 - 1, 1⟩ = .ok () ∧
      checkedMul 2000000 (integerPow 1 2) = some 2000000 ∧
      checkedMul (2 ^ 127 - 1) 1 = some (2 ^ 127 - 1) ∧
      bondingCurveIntegralCost ⟨2000000, 1, 2 ^ 127 - 1, 1⟩ 1 1 = none :=
  ⟨rfl, by decide, by decide, by decide⟩

/-- Where nothing overflows, the cost is at least the quantity times the spot price after the
order, and at most the quantity times the spot price before it, and one more for each ticket. -/
theorem integral_cost_between_spot_prices (accepted : validateBondingCurveConfig config = .ok ())
    (quantity : Nat) (ordered : quantity ≤ supply)
    (powerFits : (supply : Int) ^ (config.bExponent + 1) < 2 ^ 127)
    (priceFits : config.PriceFits supply) (integralFits : config.IntegralFits supply) :
    ∃ low cost high, bondingCurvePrice config (supply - quantity) = some low ∧
      bondingCurveIntegralCost config supply quantity = some (.ok cost) ∧
      bondingCurvePrice config supply = some high ∧
      quantity * low ≤ cost ∧ cost ≤ quantity * high + quantity := by
  have valid := valid_of_validate accepted
  have restFits := valid.priceFits_anti (Nat.sub_le supply quantity) priceFits
  refine ⟨_, _, _, (valid.bondingCurvePrice_eq _).trans (if_pos restFits),
    valid.cost_of_fits integralFits ordered,
    (valid.bondingCurvePrice_eq _).trans (if_pos priceFits), ?_⟩
  obtain ⟨rest, rfl⟩ := Nat.exists_eq_add_of_le' ordered
  have whole {part exp : Nat} (le : part ≤ rest + quantity) (lower : exp ≤ config.bExponent + 1) :=
    power_of_fits le lower powerFits
  obtain ⟨below, above⟩ := slope_bounds valid.a_pos.le (Int.natCast_nonneg rest)
    (Int.natCast_nonneg quantity)
  rw [Nat.add_sub_cancel]
  simp only [spot, integral, whole, Nat.le_add_right, le_refl, Nat.cast_add]
  constructor
  · linarith only [below]
  · linarith only [above]

theorem gentle_curve_sandwiched :
    ∃ low cost high, bondingCurvePrice gentleCurve 7 = some low ∧
      bondingCurveIntegralCost gentleCurve 10 3 = some (.ok cost) ∧
      bondingCurvePrice gentleCurve 10 = some high ∧ 3 * low ≤ cost ∧ cost ≤ 3 * high + 3 :=
  integral_cost_between_spot_prices gentleCurve 10 rfl 3 (by decide) (by decide) (by decide)
    (by decide)

end Curves

end Agora.TicketPayment

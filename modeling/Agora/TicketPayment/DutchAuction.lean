/-
This file models the engine of the Dutch auctions: the price that decays over time, and
the purchase in two steps, where a buyer commits to the price of the moment by a hash and
reveals it later. No entry point of the contract calls it yet.

The price is computed with the checked operations of the source, so it may be missing.
`currentDutchPrice_eq` separates the two questions once and for all: when the product in
it fits, and what the price is then.
-/

import Mathlib.Tactic.Linarith
import Agora.Lib.Store
import Agora.TicketPayment.Types

namespace Agora.TicketPayment

open Soroban

/-! ### Configurations -/

structure DutchAuctionConfig where
  startPrice : Int
  reservePrice : Int
  startTime : Nat
  endTime : Nat
  exponential : Bool
  deriving DecidableEq, Repr

/-- The check of a configuration at a ledger time. -/
def validateDutchAuctionConfig (now : Nat) (config : DutchAuctionConfig) :
    Except TicketPaymentError Unit := do
  if config.reservePrice ≤ 0 then throw .invalidPrice
  if config.startPrice ≤ config.reservePrice then throw .invalidPrice
  if config.endTime ≤ config.startTime then throw .invalidPrice
  if config.endTime ≤ now then throw .auctionEnded

namespace DutchAuctionConfig

/-- The values are in the ranges of their types, an i128 and a u64. -/
structure Typed (config : DutchAuctionConfig) : Prop where
  startPrice : config.startPrice < 2 ^ 127
  endTime : config.endTime < 2 ^ 64

/-- A configuration that some check has accepted. -/
structure Valid (config : DutchAuctionConfig) : Prop where
  typed : config.Typed
  reserve_pos : 0 < config.reservePrice
  reserve_lt_start : config.reservePrice < config.startPrice
  start_lt_end : config.startTime < config.endTime

theorem valid_of_validate {config : DutchAuctionConfig} {now : Nat} (typed : config.Typed)
    (accepted : validateDutchAuctionConfig now config = .ok ()) : config.Valid := by
  unfold validateDutchAuctionConfig at accepted
  by_cases reserve : config.reservePrice ≤ 0
  · rw [if_pos reserve] at accepted
    cases accepted
  by_cases start : config.startPrice ≤ config.reservePrice
  · rw [if_neg reserve, if_pos start] at accepted
    cases accepted
  by_cases late : config.endTime ≤ config.startTime
  · rw [if_neg reserve, if_neg start, if_pos late] at accepted
    cases accepted
  exact ⟨typed, Int.not_le.mp reserve, Int.not_le.mp start, Nat.not_le.mp late⟩

/-! ### Prices -/

def spread (config : DutchAuctionConfig) : Int := config.startPrice - config.reservePrice

def total (config : DutchAuctionConfig) : Int := (config.endTime - config.startTime : Nat)

def elapsed (config : DutchAuctionConfig) (now : Nat) : Int := (now - config.startTime : Nat)

end DutchAuctionConfig

def currentDutchPriceLinear (config : DutchAuctionConfig) (now : Nat) : Option Int :=
  if config.endTime ≤ now then some config.reservePrice
  else if now ≤ config.startTime then some config.startPrice
  else do
    let spread ← checkedSub config.startPrice config.reservePrice
    let decline ← mulDiv (config.elapsed now) spread config.total
    checkedSub config.startPrice decline

/-- The fractions of the exponential decay are in millionths. -/
def dutchScale : Int := 1000000

/-- The factor `2f - f²` of the fraction `f` of the time that remains. -/
def dutchFactor (config : DutchAuctionConfig) (now : Nat) : Option Int := do
  let remaining ← checkedSub config.total (config.elapsed now)
  let f ← mulDiv remaining dutchScale config.total
  let double ← checkedMul 2 f
  let square ← mulDiv f f dutchScale
  checkedSub double square

def currentDutchPriceExponential (config : DutchAuctionConfig) (now : Nat) : Option Int :=
  if config.endTime ≤ now then some config.reservePrice
  else if now ≤ config.startTime then some config.startPrice
  else do
    let factor ← dutchFactor config now
    let spread ← checkedSub config.startPrice config.reservePrice
    let share ← mulDiv spread factor dutchScale
    checkedAdd config.reservePrice share

/-- No price where the source overflows. -/
def currentDutchPrice (config : DutchAuctionConfig) (now : Nat) : Option Int :=
  if config.exponential then currentDutchPriceExponential config now
  else currentDutchPriceLinear config now

namespace DutchAuctionConfig

/-- The fraction of the time that remains. -/
def fraction (config : DutchAuctionConfig) (now : Nat) : Int :=
  (config.total - config.elapsed now) * dutchScale / config.total

/-- The concave factor of a fraction. -/
def concave (fraction : Int) : Int := 2 * fraction - fraction * fraction / dutchScale

/-- The product that the price of a running auction rests on. -/
def product (config : DutchAuctionConfig) (now : Nat) : Int :=
  if config.exponential then config.spread * concave (config.fraction now)
  else config.elapsed now * config.spread

/-- The price can be computed. -/
def PriceFits (config : DutchAuctionConfig) (now : Nat) : Prop :=
  config.startTime < now → now < config.endTime → config.product now < 2 ^ 127

instance (config : DutchAuctionConfig) (now : Nat) : Decidable (config.PriceFits now) :=
  inferInstanceAs (Decidable (_ → _ → _))

/-- The price, apart from the range of its type. -/
def price (config : DutchAuctionConfig) (now : Nat) : Int :=
  if config.endTime ≤ now then config.reservePrice
  else if now ≤ config.startTime then config.startPrice
  else if config.exponential then config.reservePrice + config.product now / dutchScale
  else config.startPrice - config.product now / config.total

section Bounds

variable {config : DutchAuctionConfig} {now later : Nat}

theorem Valid.spread_pos (valid : config.Valid) : 0 < config.spread :=
  Int.sub_pos.mpr valid.reserve_lt_start

theorem Valid.total_pos (valid : config.Valid) : 0 < config.total := by
  have := valid.start_lt_end
  unfold total
  omega

theorem elapsed_nonneg (config : DutchAuctionConfig) (now : Nat) : 0 ≤ config.elapsed now :=
  Int.natCast_nonneg _

theorem elapsed_le_total (running : now < config.endTime) : config.elapsed now ≤ config.total := by
  unfold elapsed total
  omega

theorem elapsed_mono (config : DutchAuctionConfig) (le : now ≤ later) :
    config.elapsed now ≤ config.elapsed later := by
  unfold elapsed
  omega

theorem fraction_nonneg (running : now < config.endTime) : 0 ≤ config.fraction now :=
  Int.ediv_nonneg (Int.mul_nonneg (Int.sub_nonneg.mpr (elapsed_le_total running)) (by decide))
    (Int.natCast_nonneg _)

theorem Valid.fraction_le (valid : config.Valid) : config.fraction now ≤ dutchScale := by
  have part : config.total - config.elapsed now ≤ config.total :=
    Int.sub_le_self _ (config.elapsed_nonneg now)
  refine Int.ediv_le_of_le_mul valid.total_pos ?_
  rw [Int.mul_comm dutchScale]
  exact Int.mul_le_mul_of_nonneg_right part (by decide)

theorem Valid.fraction_anti (valid : config.Valid) (le : now ≤ later) :
    config.fraction later ≤ config.fraction now := by
  refine Int.ediv_le_ediv valid.total_pos ?_
  exact Int.mul_le_mul_of_nonneg_right (Int.sub_le_sub_left (config.elapsed_mono le) _) (by decide)

/-- Up to the whole, the concave factor grows with the fraction, rounding included. -/
theorem concave_mono {small large : Int} (le : small ≤ large) (whole : large ≤ dutchScale) :
    concave small ≤ concave large := by
  have squares : large * large ≤ small * small + 2 * (large - small) * dutchScale := by
    have grown : (large - small) * (large + small) ≤ (large - small) * (2 * dutchScale) :=
      Int.mul_le_mul_of_nonneg_left (by omega) (by omega)
    linarith only [grown]
  have rounded : large * large / dutchScale ≤ small * small / dutchScale + 2 * (large - small) := by
    rw [← Int.add_mul_ediv_right _ _ (show dutchScale ≠ 0 by decide)]
    exact Int.ediv_le_ediv (by decide) squares
  unfold concave
  omega

theorem concave_bounds {fraction : Int} (nonneg : 0 ≤ fraction) (whole : fraction ≤ dutchScale) :
    0 ≤ concave fraction ∧ concave fraction ≤ dutchScale :=
  ⟨concave_mono nonneg whole, concave_mono whole le_rfl⟩

section

variable (valid : config.Valid)

include valid

theorem Valid.concave_fraction_bounds (running : now < config.endTime) :
    0 ≤ concave (config.fraction now) ∧ concave (config.fraction now) ≤ dutchScale :=
  concave_bounds (fraction_nonneg running) valid.fraction_le

theorem Valid.product_nonneg (running : now < config.endTime) : 0 ≤ config.product now := by
  unfold product
  split
  · exact Int.mul_nonneg valid.spread_pos.le (valid.concave_fraction_bounds running).1
  · exact Int.mul_nonneg (config.elapsed_nonneg now) valid.spread_pos.le

/-- What the price of a running auction adds to the reserve or takes off the start. -/
theorem Valid.product_share_le (running : now < config.endTime) :
    config.product now / (if config.exponential then dutchScale else config.total) ≤
      config.spread := by
  unfold product
  split
  · refine Int.ediv_le_of_le_mul (by decide) ?_
    exact Int.mul_le_mul_of_nonneg_left (valid.concave_fraction_bounds running).2
      valid.spread_pos.le
  · refine Int.ediv_le_of_le_mul valid.total_pos ?_
    rw [Int.mul_comm config.spread]
    exact Int.mul_le_mul_of_nonneg_right (elapsed_le_total running) valid.spread_pos.le

/-- The price stays between the reserve and the start. -/
theorem Valid.price_bounds {now : Nat} :
    config.reservePrice ≤ config.price now ∧ config.price now ≤ config.startPrice := by
  have reserve := valid.reserve_lt_start
  unfold price
  split
  · exact ⟨le_rfl, reserve.le⟩
  rename_i running
  split
  · exact ⟨reserve.le, le_rfl⟩
  have nonneg := valid.product_nonneg (Nat.not_le.mp running)
  have share := valid.product_share_le (Nat.not_le.mp running)
  split
  · rename_i decay
    rw [if_pos decay] at share
    have positive := Int.ediv_nonneg nonneg (show 0 ≤ dutchScale by decide)
    unfold spread at share
    omega
  · rename_i decay
    rw [if_neg decay] at share
    have positive := Int.ediv_nonneg nonneg valid.total_pos.le
    unfold spread at share
    omega

/-- The price never rises. -/
theorem Valid.price_anti (le : now ≤ later) : config.price later ≤ config.price now := by
  by_cases ended : config.endTime ≤ later
  · rw [price, if_pos ended]
    exact valid.price_bounds.1
  by_cases started : now ≤ config.startTime
  · have running : ¬config.endTime ≤ now := by have := valid.start_lt_end; omega
    rw [price.eq_1 config now, if_neg running, if_pos started]
    exact valid.price_bounds.2
  -- both times are in the running auction
  have running : ¬config.endTime ≤ now := by omega
  have laterStarted : ¬later ≤ config.startTime := by omega
  simp only [price, if_neg ended, if_neg running, if_neg started, if_neg laterStarted, product]
  split
  · have factor := concave_mono (valid.fraction_anti le) valid.fraction_le
    have share := Int.ediv_le_ediv (show 0 < dutchScale by decide)
      (Int.mul_le_mul_of_nonneg_left factor valid.spread_pos.le)
    omega
  · have share := Int.ediv_le_ediv valid.total_pos
      (Int.mul_le_mul_of_nonneg_right (config.elapsed_mono le) valid.spread_pos.le)
    omega

end

end Bounds

/-! ### The computed price -/

section Computed

variable {config : DutchAuctionConfig} {now : Nat}

variable (valid : config.Valid)

include valid

theorem Valid.checkedSub_spread :
    checkedSub config.startPrice config.reservePrice = some config.spread :=
  checkedSub_of_le valid.reserve_pos.le valid.reserve_lt_start.le valid.typed.startPrice

theorem Valid.total_fits : config.total < 2 ^ 64 := by
  have := valid.typed.endTime
  unfold total
  omega

theorem Valid.fraction_computed (running : now < config.endTime) :
    mulDiv (config.total - config.elapsed now) dutchScale config.total =
      some (config.fraction now) := by
  have whole := elapsed_le_total running
  have fits := valid.total_fits
  have started := config.elapsed_nonneg now
  have scaled : (config.total - config.elapsed now) * dutchScale < 2 ^ 127 := by
    unfold dutchScale
    omega
  rw [mulDiv_of_nonneg (Int.sub_nonneg.mpr whole) (by decide) valid.total_pos, if_pos scaled]
  rfl

/-- The steps of the exponential decay before the product never overflow. -/
theorem Valid.dutchFactor_eq (running : now < config.endTime) :
    dutchFactor config now = some (concave (config.fraction now)) := by
  have low := fraction_nonneg running
  have high : config.fraction now ≤ 1000000 := valid.fraction_le
  have squareLe : config.fraction now * config.fraction now ≤ 1000000 * 1000000 :=
    Int.mul_le_mul high high low (by decide)
  have remaining : checkedSub config.total (config.elapsed now) =
      some (config.total - config.elapsed now) :=
    checkedSub_of_le (config.elapsed_nonneg now) (elapsed_le_total running)
      (valid.total_fits.trans (by decide))
  have double : checkedMul 2 (config.fraction now) = some (2 * config.fraction now) := by
    rw [checkedMul_of_nonneg (by decide) low, if_pos (by omega)]
  have square : mulDiv (config.fraction now) (config.fraction now) dutchScale =
      some (config.fraction now * config.fraction now / dutchScale) := by
    rw [mulDiv_of_nonneg low low (by decide), if_pos (by omega)]
  have factor : checkedSub (2 * config.fraction now)
      (config.fraction now * config.fraction now / dutchScale) =
      some (concave (config.fraction now)) :=
    checkedSub_of_le (Int.ediv_nonneg (Int.mul_nonneg low low) (by decide))
      (Int.sub_nonneg.mp (valid.concave_fraction_bounds running).1) (by omega)
  simp [dutchFactor, remaining, valid.fraction_computed running, double, square, factor]

theorem Valid.linear_running (decay : config.exponential = false)
    (started : ¬now ≤ config.startTime) (running : ¬config.endTime ≤ now) :
    currentDutchPriceLinear config now =
      if config.product now < 2 ^ 127 then some (config.price now) else none := by
  have productEq : config.elapsed now * config.spread = config.product now := by
    rw [product, decay]
    rfl
  have share := valid.product_share_le (Nat.not_le.mp running)
  have nonneg := valid.product_nonneg (Nat.not_le.mp running)
  rw [decay, if_neg Bool.false_ne_true] at share
  simp only [currentDutchPriceLinear, price, if_neg running, if_neg started, decay,
    valid.checkedSub_spread, Option.bind_eq_bind, Option.bind_some, productEq,
    mulDiv_of_nonneg (config.elapsed_nonneg now) valid.spread_pos.le valid.total_pos]
  split
  · have reserve := valid.reserve_pos
    rw [Option.bind_some, checkedSub_of_le (Int.ediv_nonneg nonneg valid.total_pos.le)
      (by unfold spread at share; omega) valid.typed.startPrice]
    rfl
  · rfl

theorem Valid.exponential_running (decay : config.exponential = true)
    (started : ¬now ≤ config.startTime) (running : ¬config.endTime ≤ now) :
    currentDutchPriceExponential config now =
      if config.product now < 2 ^ 127 then some (config.price now) else none := by
  have productEq : config.spread * concave (config.fraction now) = config.product now := by
    rw [product, if_pos decay]
  have share := valid.product_share_le (Nat.not_le.mp running)
  have nonneg := valid.product_nonneg (Nat.not_le.mp running)
  have factor := (valid.concave_fraction_bounds (Nat.not_le.mp running)).1
  rw [if_pos decay] at share
  simp only [currentDutchPriceExponential, price, if_neg running, if_neg started, if_pos decay,
    valid.dutchFactor_eq (Nat.not_le.mp running), valid.checkedSub_spread, Option.bind_eq_bind,
    Option.bind_some, mulDiv_of_nonneg valid.spread_pos.le factor (show 0 < dutchScale by decide),
    productEq]
  split
  · have reserve := valid.reserve_pos
    have start := valid.typed.startPrice
    have part := Int.ediv_nonneg nonneg (show 0 ≤ dutchScale by decide)
    unfold spread at share
    rw [Option.bind_some, checkedAdd, checkedI128_of_nonneg (by omega), if_pos (by omega)]
  · rfl

/-- The price is computed exactly when its product fits. -/
theorem Valid.currentDutchPrice_eq (now : Nat) :
    currentDutchPrice config now =
      if config.PriceFits now then some (config.price now) else none := by
  by_cases ended : config.endTime ≤ now
  · have fits : config.PriceFits now := fun _ running => absurd ended (Nat.not_le.mpr running)
    simp [currentDutchPrice, currentDutchPriceExponential, currentDutchPriceLinear, price, if_pos
      ended, if_pos fits]
  by_cases started : now ≤ config.startTime
  · have fits : config.PriceFits now := fun running => absurd started (Nat.not_le.mpr running)
    simp [currentDutchPrice, currentDutchPriceExponential, currentDutchPriceLinear, price, if_neg
      ended, if_pos started, if_pos fits]
  have fits : config.PriceFits now ↔ config.product now < 2 ^ 127 :=
    ⟨fun fits => fits (Nat.not_le.mp started) (Nat.not_le.mp ended), fun fits _ _ => fits⟩
  simp only [fits]
  unfold currentDutchPrice
  split
  · exact valid.exponential_running ‹_› started ended
  · exact valid.linear_running (Bool.eq_false_of_not_eq_true ‹_›) started ended

/-- The product fits at every time if the spread fits times the duration and times two million. -/
theorem Valid.priceFits (fits : config.spread * max config.total 2000000 < 2 ^ 127) (now : Nat) :
    config.PriceFits now := by
  intro _ running
  have within {factor : Int} (le : factor ≤ max config.total 2000000) :
      config.spread * factor < 2 ^ 127 :=
    (Int.mul_le_mul_of_nonneg_left le valid.spread_pos.le).trans_lt fits
  unfold product
  split
  · have whole : dutchScale ≤ 2000000 := by decide
    exact within (((valid.concave_fraction_bounds running).2.trans whole).trans (le_max_right _ _))
  · rw [Int.mul_comm]
    exact within ((elapsed_le_total running).trans (le_max_left _ _))

end Computed

/-! ### The two decays -/

section Decays

variable (config : DutchAuctionConfig) (typed : config.Typed) (checkedAt : Nat)
  (accepted : validateDutchAuctionConfig checkedAt config = .ok ())

include typed accepted

/-- The price of an accepted auction is the start price until it starts and the reserve from its
end on, and it stays between the two and never rises. -/
theorem dutch_price_bounded_and_antitone
    (fits : config.spread * max config.total 2000000 < 2 ^ 127) :
    (∀ now ≤ config.startTime, currentDutchPrice config now = some config.startPrice) ∧
    (∀ now, config.endTime ≤ now → currentDutchPrice config now = some config.reservePrice) ∧
    ∀ early late, early ≤ late → ∃ before after,
      currentDutchPrice config early = some before ∧ currentDutchPrice config late = some after ∧
        config.reservePrice ≤ after ∧ after ≤ before ∧ before ≤ config.startPrice := by
  have valid := valid_of_validate typed accepted
  have computed (now : Nat) : currentDutchPrice config now = some (config.price now) := by
    rw [valid.currentDutchPrice_eq, if_pos (valid.priceFits fits now)]
  refine ⟨fun now before => ?_, fun now ended => ?_, fun early late le =>
    ⟨_, _, computed early, computed late, valid.price_bounds.1, valid.price_anti le,
      valid.price_bounds.2⟩⟩
  · have running := before.trans_lt valid.start_lt_end
    rw [computed, price, if_neg (Nat.not_le.mpr running), if_pos before]
  · rw [computed, price, if_pos ended]

/-- In a running auction the exponential price is at least the linear one exactly when a whole
amount lies between the two shares of the spread, before they are rounded. -/
theorem exponential_ge_linear_iff (now : Nat) (started : config.startTime < now)
    (running : now < config.endTime) (linearFits : config.elapsed now * config.spread < 2 ^ 127)
    (exponentialFits : config.spread * concave (config.fraction now) < 2 ^ 127) :
    ∃ linear exponential, currentDutchPriceLinear config now = some linear ∧
      currentDutchPriceExponential config now = some exponential ∧
      (linear ≤ exponential ↔ ∃ amount : Int,
        (config.total - config.elapsed now) * config.spread ≤ amount * config.total ∧
        amount * dutchScale ≤ config.spread * concave (config.fraction now)) := by
  have valid := valid_of_validate typed accepted
  have notYet : ¬now ≤ config.startTime := Nat.not_le.mpr started
  have notOver : ¬config.endTime ≤ now := Nat.not_le.mpr running
  -- neither decay reads which of the two the configuration asks for
  have asked (exponential : Bool) : { config with exponential }.Valid :=
    ⟨⟨valid.typed.1, valid.typed.2⟩, valid.2, valid.3, valid.4⟩
  have linear := (asked false).linear_running rfl notYet notOver
  have exponential := (asked true).exponential_running rfl notYet notOver
  refine ⟨_, _, linear.trans (if_pos linearFits), exponential.trans (if_pos exponentialFits), ?_⟩
  simp only [price, if_neg notYet, if_neg notOver]
  show config.startPrice - config.elapsed now * config.spread / config.total ≤
    config.reservePrice + config.spread * concave (config.fraction now) / dutchScale ↔ _
  have linearShare (amount : Int) :
      (config.total - config.elapsed now) * config.spread ≤ amount * config.total ↔
        config.spread - amount ≤ config.elapsed now * config.spread / config.total := by
    rw [Int.le_ediv_iff_mul_le valid.total_pos, Int.sub_mul, Int.sub_mul,
      Int.mul_comm config.total]
    omega
  have exponentialShare (amount : Int) :
      amount * dutchScale ≤ config.spread * concave (config.fraction now) ↔
        amount ≤ config.spread * concave (config.fraction now) / dutchScale :=
    (Int.le_ediv_iff_mul_le (by decide)).symm
  simp only [linearShare, exponentialShare]
  unfold spread
  constructor
  · intro above
    exact ⟨_, by omega, le_rfl⟩
  · rintro ⟨amount, below, above⟩
    omega

end Decays

/-- The price falls for two million seconds, which is more than the scale of the fractions. -/
def slowAuction : DutchAuctionConfig := ⟨1000000001, 1, 0, 2000000, true⟩

theorem slow_auction_bounded :
    currentDutchPrice slowAuction 0 = some 1000000001 ∧
      currentDutchPrice slowAuction 2000000 = some 1 ∧
      ∃ before after, currentDutchPrice slowAuction 500000 = some before ∧
        currentDutchPrice slowAuction 1500000 = some after ∧
          1 ≤ after ∧ after ≤ before ∧ before ≤ 1000000001 :=
  have bounded := dutch_price_bounded_and_antitone slowAuction ⟨by decide, by decide⟩ 0 rfl
    (by decide)
  ⟨bounded.1 0 (by decide), bounded.2.1 2000000 (by decide), bounded.2.2 _ _ (by decide)⟩

/-- In the middle of the auction half of the spread lies between the two shares. -/
theorem slow_auction_exponential_above :
    ∃ linear exponential, currentDutchPriceLinear slowAuction 1000000 = some linear ∧
      currentDutchPriceExponential slowAuction 1000000 = some exponential ∧
      linear ≤ exponential := by
  obtain ⟨linear, exponential, linearEq, exponentialEq, above⟩ :=
    exponential_ge_linear_iff slowAuction ⟨by decide, by decide⟩ 0 rfl 1000000 (by decide)
      (by decide) (by decide) (by decide)
  exact ⟨linear, exponential, linearEq, exponentialEq,
    above.mpr ⟨500000000, by decide, by decide⟩⟩

/-- In its last second the fraction that remains rounds to nothing. -/
theorem slow_auction_undercut :
    validateDutchAuctionConfig 0 slowAuction = .ok () ∧
      currentDutchPriceLinear slowAuction 1999999 = some 501 ∧
      currentDutchPriceExponential slowAuction 1999999 = some 1 :=
  ⟨rfl, by decide, by decide⟩

end DutchAuctionConfig

/-! ### Commit and reveal -/

def commitExpirySecs : Nat := 300

structure PendingCommit where
  hash : BytesN32
  expiresAt : Nat
  committedPrice : Int
  maxSlippageBps : Nat
  deriving DecidableEq, Repr

/-- The storage of the engine. A pending commit is in temporary storage, which is taken to
outlive it. -/
structure DutchState where
  auction : Store (EventId × TierId) DutchAuctionConfig
  pending : Store (EventId × TierId × Address) PendingCommit

abbrev DutchEntry (Value : Type) := Transaction DutchState (Fault TicketPaymentError) Value

def setDutchAuction (eventId : EventId) (tierId : TierId) (config : DutchAuctionConfig)
    (state : DutchState) : DutchState :=
  { state with auction := state.auction.set (eventId, tierId) config }

def setPendingCommit (eventId : EventId) (tierId : TierId) (buyer : Address)
    (commit : PendingCommit) (state : DutchState) : DutchState :=
  { state with pending := state.pending.set (eventId, tierId, buyer) commit }

def dropPendingCommit (eventId : EventId) (tierId : TierId) (buyer : Address)
    (state : DutchState) : DutchState :=
  { state with pending := state.pending.remove (eventId, tierId, buyer) }

/-- The sixteen bytes of a 128-bit integer, the lowest first. -/
def i128ToLeBytes (value : Int) : Bytes :=
  (List.range 16).map fun index => UInt8.ofNat ((value % 2 ^ 128).toNat / 256 ^ index % 256)

/-- The hash of the secret, the buyer's address in its external form, and the price. -/
def buildCommitHash (host : Host) (toXdr : Address → Bytes) (secret : Bytes) (buyer : Address)
    (priceStroops : Int) : BytesN32 :=
  host.sha256 (secret ++ toXdr buyer ++ i128ToLeBytes priceStroops)

section Entries

variable {host : Host}

def commitPurchase (env : Env host) (eventId : EventId) (tierId : TierId) (buyer : Address)
    (commitHash : BytesN32) (maxSlippageBps : Nat) : DutchEntry Int := do
  require (env.signed buyer = true) .trap
  require (maxSlippageBps ≤ maxBps) (.error .invalidSlippageBps)
  let state ← get
  let config ← orFault (state.auction.get (eventId, tierId)) (.error .auctionNotActive)
  require (env.timestamp < config.endTime) (.error .auctionEnded)
  require (config.startTime ≤ env.timestamp) (.error .auctionNotActive)
  let committedPrice ← orFault (currentDutchPrice config env.timestamp) .trap
  -- the source adds in u64
  require (env.timestamp + commitExpirySecs < 2 ^ 64) .trap
  modify (setPendingCommit eventId tierId buyer
    ⟨commitHash, env.timestamp + commitExpirySecs, committedPrice, maxSlippageBps⟩)
  pure committedPrice

/-- Remove and return the pending commit. -/
def takePendingCommit (eventId : EventId) (tierId : TierId) (buyer : Address) :
    DutchEntry PendingCommit := do
  let state ← get
  let commit ← orFault (state.pending.get (eventId, tierId, buyer)) (.error .invalidSecret)
  modify (dropPendingCommit eventId tierId buyer)
  pure commit

/-- The highest price that the buyer tolerates. -/
def PendingCommit.ceiling (commit : PendingCommit) : Option Int := do
  let slippage ← mulDiv commit.committedPrice commit.maxSlippageBps maxBps
  checkedAdd commit.committedPrice slippage

def revealPurchase (env : Env host) (toXdr : Address → Bytes) (eventId : EventId)
    (tierId : TierId) (buyer : Address) (secret : Bytes) (priceStroops : Int) :
    DutchEntry Int := do
  require (env.signed buyer = true) .trap
  let commit ← takePendingCommit eventId tierId buyer
  require (env.timestamp ≤ commit.expiresAt) (.error .commitExpired)
  require (buildCommitHash host toXdr secret buyer priceStroops = commit.hash)
    (.error .invalidSecret)
  require (priceStroops = commit.committedPrice) (.error .priceMismatch)
  let state ← get
  let config ← orFault (state.auction.get (eventId, tierId)) (.error .auctionNotActive)
  let currentPrice ← orFault (currentDutchPrice config env.timestamp) .trap
  let ceiling ← orFault commit.ceiling .trap
  require (currentPrice ≤ ceiling) (.error .priceOutsideSlippage)
  pure (min currentPrice commit.committedPrice)

/-- What a successful commit has checked and stored. -/
structure CommitOf (env : Env host) (state : DutchState) (eventId : EventId) (tierId : TierId)
    (maxSlippageBps : Nat) (price : Int) (config : DutchAuctionConfig) : Prop where
  configEq : state.auction.get (eventId, tierId) = some config
  slippage : maxSlippageBps ≤ maxBps
  running : config.startTime ≤ env.timestamp ∧ env.timestamp < config.endTime
  priceEq : currentDutchPrice config env.timestamp = some price

variable {env : Env host} {eventId : EventId} {tierId : TierId} {buyer : Address}
  {state : DutchState}

theorem commitPurchase_ensures {commitHash : BytesN32} {maxSlippageBps : Nat} :
    Ensures (commitPurchase env eventId tierId buyer commitHash maxSlippageBps) state
      fun price next => (∃ config, CommitOf env state eventId tierId maxSlippageBps price config) ∧
        next = setPendingCommit eventId tierId buyer
          ⟨commitHash, env.timestamp + commitExpirySecs, price, maxSlippageBps⟩ state := by
  simp only [commitPurchase, ensures_rules]
  intro _ slippage config configEq running started price priceEq _
  exact ⟨⟨config, configEq, slippage, ⟨started, running⟩, priceEq⟩, trivial⟩

/-- What a reveal that finds a commit checks before it looks at the price. -/
structure RevealOf (env : Env host) (toXdr : Address → Bytes) (buyer : Address) (secret : Bytes)
    (priceStroops : Int) (commit : PendingCommit) : Prop where
  signed : env.signed buyer = true
  inTime : env.timestamp ≤ commit.expiresAt
  hashEq : buildCommitHash host toXdr secret buyer priceStroops = commit.hash
  priceEq : priceStroops = commit.committedPrice

variable {toXdr : Address → Bytes} {secret : Bytes} {priceStroops : Int}

theorem revealPurchase_ensures :
    Ensures (revealPurchase env toXdr eventId tierId buyer secret priceStroops) state
      fun _ next => (∃ commit, state.pending.get (eventId, tierId, buyer) = some commit ∧
        RevealOf env toXdr buyer secret priceStroops commit) ∧
        next = dropPendingCommit eventId tierId buyer state := by
  simp only [revealPurchase, takePendingCommit, ensures_rules]
  intro signed commit stored inTime hashEq priceEq _ _ _ _ _ _ _
  exact ⟨⟨commit, stored, signed, inTime, hashEq, priceEq⟩, trivial⟩

/-- A reveal succeeds exactly when it finds a matching commit, the price and the ceiling can be
computed, and the price is below the ceiling. -/
theorem revealPurchase_succeeds_iff (outcome : Int → DutchState → Prop) :
    Succeeds (revealPurchase env toXdr eventId tierId buyer secret priceStroops) state outcome ↔
      ∃ commit, state.pending.get (eventId, tierId, buyer) = some commit ∧
        RevealOf env toXdr buyer secret priceStroops commit ∧
        ∃ config, state.auction.get (eventId, tierId) = some config ∧
          ∃ current, currentDutchPrice config env.timestamp = some current ∧
            ∃ ceiling, commit.ceiling = some ceiling ∧ current ≤ ceiling ∧
              outcome (min current commit.committedPrice)
                (dropPendingCommit eventId tierId buyer state) := by
  simp only [revealPurchase, takePendingCommit, succeeds_rules]
  constructor
  · rintro ⟨signed, commit, stored, inTime, hashEq, priceEq, rest⟩
    exact ⟨commit, stored, ⟨signed, inTime, hashEq, priceEq⟩, rest⟩
  · rintro ⟨commit, stored, of, rest⟩
    exact ⟨of.signed, commit, stored, of.inTime, of.hashEq, of.priceEq, rest⟩

end Entries

end Agora.TicketPayment

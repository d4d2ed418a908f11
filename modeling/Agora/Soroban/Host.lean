/-
This file models what a contract sees of the Soroban host: addresses, byte strings,
the checked arithmetic of the 128-bit signed integers, the environment of one
invocation, and the two ways in which an invocation fails.

Amounts are integers and every operation of the source that can leave the 128-bit
range is checked where the source performs it. A contract cannot sign for its own
address in a call made from outside, which the environment carries as a field.
-/

import Mathlib.Algebra.Order.Ring.Int
import Agora.Lib.Transaction

namespace Agora.Soroban

/-- An account or a contract, by its text form. -/
structure Address where
  strkey : String
  deriving DecidableEq, Repr

abbrev Bytes := List UInt8

abbrev BytesN32 := Vector UInt8 32

/-! ### Checked arithmetic -/

/-- The value fits a signed 128-bit integer. -/
def InI128 (value : Int) : Prop :=
  -2 ^ 127 ≤ value ∧ value < 2 ^ 127

instance (value : Int) : Decidable (InI128 value) :=
  inferInstanceAs (Decidable (_ ∧ _))

def checkedI128 (value : Int) : Option Int :=
  if InI128 value then some value else none

def checkedAdd (first second : Int) : Option Int :=
  checkedI128 (first + second)

def checkedSub (first second : Int) : Option Int :=
  checkedI128 (first - second)

def checkedMul (first second : Int) : Option Int :=
  checkedI128 (first * second)

/-- Division truncates towards zero and fails on a zero divisor. -/
def checkedDiv (first second : Int) : Option Int :=
  if second = 0 then none else checkedI128 (first.tdiv second)

/-- The share `value * numerator / denominator`, as every fee of the contract is computed. -/
def mulDiv (value numerator denominator : Int) : Option Int :=
  (checkedMul value numerator).bind fun product => checkedDiv product denominator

variable {value result : Int}

theorem checkedI128_eq_some : checkedI128 value = some result ↔ InI128 value ∧ value = result := by
  unfold checkedI128
  split
  · simp [*]
  · simp [*]

variable {first second : Int}

theorem eq_of_checkedAdd (sum : checkedAdd first second = some result) : result = first + second :=
  (checkedI128_eq_some.mp sum).2.symm

theorem eq_of_checkedSub (difference : checkedSub first second = some result) :
    result = first - second :=
  (checkedI128_eq_some.mp difference).2.symm

theorem eq_of_checkedMul (product : checkedMul first second = some result) :
    result = first * second :=
  (checkedI128_eq_some.mp product).2.symm

theorem eq_of_checkedDiv (quotient : checkedDiv first second = some result) :
    second ≠ 0 ∧ result = first.tdiv second := by
  unfold checkedDiv at quotient
  split at quotient
  · cases quotient
  · exact ⟨‹_›, (checkedI128_eq_some.mp quotient).2.symm⟩

variable {numerator denominator : Int}

theorem eq_of_mulDiv (share : mulDiv value numerator denominator = some result) :
    result = (value * numerator).tdiv denominator := by
  obtain ⟨product, multiplied, divided⟩ := Option.bind_eq_some_iff.mp share
  rw [(eq_of_checkedDiv divided).2, eq_of_checkedMul multiplied]

/-- A loop that adds with checks comes to the sum when it comes to an end. -/
theorem eq_of_foldlM_add {Item Value : Type} [AddMonoid Value] {reading : Item → Value}
    {add : Value → Item → Option Value}
    (adds : ∀ sum item result, add sum item = some result → result = sum + reading item)
    {items : List Item} {start total : Value} (added : items.foldlM add start = some total) :
    total = start + (items.map reading).sum := by
  induction items generalizing start with
  | nil =>
    cases added
    exact (add_zero _).symm
  | cons item rest inductionHypothesis =>
    rw [List.foldlM_cons] at added
    obtain ⟨next, first, others⟩ := Option.bind_eq_some_iff.mp added
    rw [inductionHypothesis others, adds start item next first, List.map_cons, List.sum_cons,
      add_assoc]

/-! Of values that are not negative only the upper bound of the range matters. -/

theorem checkedI128_of_nonneg (nonneg : 0 ≤ value) :
    checkedI128 value = if value < 2 ^ 127 then some value else none := by
  unfold checkedI128 InI128
  have low : -2 ^ 127 ≤ value := by omega
  simp only [low, true_and]

theorem checkedSub_of_le (nonneg : 0 ≤ second) (le : second ≤ first) (fits : first < 2 ^ 127) :
    checkedSub first second = some (first - second) := by
  rw [checkedSub, checkedI128_of_nonneg (by omega), if_pos (by omega)]

theorem checkedMul_of_nonneg (firstNonneg : 0 ≤ first) (secondNonneg : 0 ≤ second) :
    checkedMul first second = if first * second < 2 ^ 127 then some (first * second) else none :=
  checkedI128_of_nonneg (Int.mul_nonneg firstNonneg secondNonneg)

theorem checkedDiv_of_nonneg (nonneg : 0 ≤ first) (fits : first < 2 ^ 127) (positive : 0 < second) :
    checkedDiv first second = some (first / second) := by
  have quotientLe : first / second ≤ first := Int.ediv_le_self second nonneg
  rw [checkedDiv, if_neg positive.ne', Int.tdiv_eq_ediv_of_nonneg nonneg,
    checkedI128_of_nonneg (Int.ediv_nonneg nonneg positive.le),
    if_pos (quotientLe.trans_lt fits)]

theorem mulDiv_of_nonneg (valueNonneg : 0 ≤ value) (numeratorNonneg : 0 ≤ numerator)
    (positive : 0 < denominator) :
    mulDiv value numerator denominator =
      if value * numerator < 2 ^ 127 then some (value * numerator / denominator) else none := by
  rw [mulDiv, checkedMul_of_nonneg valueNonneg numeratorNonneg]
  split
  · rename_i fits
    rw [Option.bind_some, checkedDiv_of_nonneg (Int.mul_nonneg valueNonneg numeratorNonneg) fits
      positive]
  · rfl

theorem tdiv_share_bounds (nonneg : 0 ≤ value) (part : 0 ≤ numerator)
    (whole : numerator ≤ denominator) :
    0 ≤ (value * numerator).tdiv denominator ∧ (value * numerator).tdiv denominator ≤ value := by
  have denominatorNonneg : 0 ≤ denominator := part.trans whole
  have productNonneg : 0 ≤ value * numerator := Int.mul_nonneg nonneg part
  rw [Int.tdiv_eq_ediv_of_nonneg productNonneg]
  refine ⟨Int.ediv_nonneg productNonneg denominatorNonneg, ?_⟩
  rcases denominatorNonneg.eq_or_lt with zero | positive
  · rw [← zero, Int.ediv_zero]
    exact nonneg
  · refine Int.ediv_le_of_le_mul positive ?_
    exact Int.mul_le_mul_of_nonneg_left whole nonneg

theorem mulDiv_bounds (share : mulDiv value numerator denominator = some result)
    (nonneg : 0 ≤ value) (part : 0 ≤ numerator) (whole : numerator ≤ denominator) :
    0 ≤ result ∧ result ≤ value := by
  rw [eq_of_mulDiv share]
  exact tdiv_share_bounds nonneg part whole

/-! ### Invocations -/

/-- What stays the same over the life of the contract. -/
structure Host where
  contract : Address
  sha256 : Bytes → BytesN32

structure PriceData where
  price : Int
  timestamp : Nat
  deriving DecidableEq, Repr

/-- The environment of one invocation: the ledger time, who signed, and the answers of the
two contracts that are not part of the development. -/
structure Env (host : Host) where
  timestamp : Nat
  signed : Address → Bool
  contract_silent : signed host.contract = false
  lastprice : Address → Address → Option PriceData
  isProMember : Address → Address → Bool

/-- How an invocation fails: with an error of the contract, or by a panic of the code or a
trap of the host. -/
inductive Fault (Error : Type) where
  | error (code : Error)
  | panic (message : String)
  | trap
  deriving DecidableEq, Repr

theorem ne_contract_of_signed {host : Host} (env : Env host) {address : Address}
    (signed : env.signed address = true) : address ≠ host.contract := by
  rintro rfl
  rw [env.contract_silent] at signed
  cases signed

end Agora.Soroban

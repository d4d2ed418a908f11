/-
This file models the subscription contract: its storage, its entry points, and what a call
does with what it has checked.

A subscription is a record by organizer. Beside the records the contract keeps a list of
the Pro members and a number of Pro subscriptions, which the entry points write one by one
under checks of their own. Time is that of the ledger and belongs to the world, so that it
passes between calls.
-/

import Agora.Lib.Store
import Agora.Soroban.Token

namespace Agora.ProSubscription

open Soroban

/-! ### Data -/

inductive ProSubscriptionError where
  | alreadyInitialized
  | notInitialized
  | subscriptionNotFound
  | invalidPrice
  | arithmeticError
  | invalidAddress
  | subscriptionAlreadyActive
  deriving DecidableEq, Repr

/-- The seconds of 30 days. -/
def secondsPerMonth : Nat := 30 * 24 * 60 * 60

inductive SubscriptionTier where
  | basic
  | pro
  deriving DecidableEq, Repr

structure Subscription where
  organizer : Address
  tier : SubscriptionTier
  startedAt : Nat
  expiresAt : Nat
  isActive : Bool
  amountPaid : Int
  paymentToken : Address
  deriving DecidableEq, Repr

/-- What the contract stores. A subscription is stored under the organizer it names. -/
structure Storage where
  admin : Option Address
  initialized : Bool
  platformWallet : Option Address
  paymentToken : Option Address
  proMonthlyPrice : Option Int
  subscription : Store Address Subscription
  proMembersList : List Address
  totalProSubscriptions : Nat
  keyed : ∀ organizer, ∀ record ∈ subscription.get organizer, record.organizer = organizer

namespace Storage

def empty : Storage where
  admin := none
  initialized := false
  platformWallet := none
  paymentToken := none
  proMonthlyPrice := none
  subscription := .empty
  proMembersList := []
  totalProSubscriptions := 0
  keyed _ _ absent := by cases absent

variable (storage : Storage)

def getProMonthlyPrice : Int :=
  storage.proMonthlyPrice.getD 0

def setSubscription (record : Subscription) : Storage :=
  { storage with
    subscription := storage.subscription.set record.organizer record
    keyed := Store.forall_set storage.keyed rfl }

def addToProMembersList (organizer : Address) : Storage :=
  { storage with
    proMembersList :=
      if organizer ∈ storage.proMembersList then storage.proMembersList
      else storage.proMembersList ++ [organizer] }

/-- The first position of the organizer is removed, if there is one. -/
def removeFromProMembersList (organizer : Address) : Storage :=
  { storage with proMembersList := storage.proMembersList.erase organizer }

def incrementTotalProSubscriptions : Storage :=
  { storage with totalProSubscriptions := storage.totalProSubscriptions + 1 }

/-- The subtraction saturates. -/
def decrementTotalProSubscriptions : Storage :=
  { storage with totalProSubscriptions := storage.totalProSubscriptions - 1 }

def isProMember (organizer : Address) (timestamp : Nat) : Bool :=
  match storage.subscription.get organizer with
  | some subscription => subscription.isActive && decide (subscription.expiresAt > timestamp)
  | none => false

end Storage

/-- The contract, the tokens, and the time of the ledger. -/
structure World where
  storage : Storage
  tokens : Tokens
  now : Nat

/-- An entry point of the contract. -/
abbrev Entry (Value : Type) := Transaction World (Fault ProSubscriptionError) Value

namespace World

/-- The contract before its first call. -/
def fresh (tokens : Tokens) (now : Nat) : World := ⟨.empty, tokens, now⟩

def withStorage (world : World) (storage : Storage) : World :=
  { world with storage := storage }

end World

/-! ### Entry points -/

section Entries

variable (contract : Address) (signed : Address → Bool)

def requireAdmin : Entry Unit := do
  let world ← get
  let admin ← orFault world.storage.admin (.error .notInitialized)
  require (signed admin = true) .trap

def validateAddress (address : Address) : Entry Unit :=
  require (address ≠ contract) (.error .invalidAddress)

def requireInitialized : Entry Unit := do
  let world ← get
  require (world.storage.initialized = true) (.error .notInitialized)

def initializeContract (admin platformWallet paymentToken : Address) (proMonthlyPrice : Int) :
    Entry Unit := do
  let world ← get
  require (world.storage.initialized = false) (.error .alreadyInitialized)
  validateAddress contract admin
  validateAddress contract platformWallet
  validateAddress contract paymentToken
  require (0 < proMonthlyPrice) (.error .invalidPrice)
  modify fun world => world.withStorage { world.storage with
    admin := some admin
    platformWallet := some platformWallet
    paymentToken := some paymentToken
    proMonthlyPrice := some proMonthlyPrice
    initialized := true }

/-- The organizer pays for the months, in the token and to the wallet that are set. -/
def payForMonths (organizer : Address) (months : Nat) : Entry (Int × Address) := do
  let world ← get
  let totalAmount ← orFault (checkedMul world.storage.getProMonthlyPrice months)
    (.error .arithmeticError)
  let paymentToken ← orFault world.storage.paymentToken (.error .notInitialized)
  let platformWallet ← orFault world.storage.platformWallet (.error .notInitialized)
  let tokens ← orFault (world.tokens.transfer paymentToken organizer platformWallet totalAmount)
    .trap
  modify fun world => { world with tokens := tokens }
  pure (totalAmount, paymentToken)

/-- The end of so many months, in u64. -/
def monthsAfter (time months : Nat) : Option Nat :=
  if time + secondsPerMonth * months < 2 ^ 64 then some (time + secondsPerMonth * months) else none

def subscribePro (organizer : Address) (months : Nat) : Entry Unit := do
  requireInitialized
  require (signed organizer = true) .trap
  require (months ≠ 0) (.error .invalidPrice)
  let world ← get
  require (world.storage.isProMember organizer world.now = false)
    (.error .subscriptionAlreadyActive)
  let (totalAmount, paymentToken) ← payForMonths organizer months
  let expiresAt ← orFault (monthsAfter world.now months) (.error .arithmeticError)
  modify fun world => world.withStorage ((world.storage.setSubscription {
    organizer := organizer
    tier := .pro
    startedAt := world.now
    expiresAt := expiresAt
    isActive := true
    amountPaid := totalAmount
    paymentToken := paymentToken }).addToProMembersList organizer)
  -- the number is raised in u32 without a check of its own
  require (world.storage.totalProSubscriptions + 1 < 2 ^ 32) .trap
  modify fun world => world.withStorage world.storage.incrementTotalProSubscriptions

/-- An expired subscription is extended from now on, any other one from its end. -/
def renewSubscription (organizer : Address) (months : Nat) : Entry Unit := do
  requireInitialized
  require (signed organizer = true) .trap
  require (months ≠ 0) (.error .invalidPrice)
  let world ← get
  let subscription ← orFault (world.storage.subscription.get organizer)
    (.error .subscriptionNotFound)
  let (totalAmount, _) ← payForMonths organizer months
  let baseTime := if subscription.expiresAt < world.now then world.now else subscription.expiresAt
  let newExpiry ← orFault (monthsAfter baseTime months) (.error .arithmeticError)
  let amountPaid ← orFault (checkedAdd subscription.amountPaid totalAmount)
    (.error .arithmeticError)
  modify fun world => world.withStorage ((world.storage.setSubscription { subscription with
    expiresAt := newExpiry
    isActive := true
    amountPaid := amountPaid }).addToProMembersList organizer)

def cancelSubscription (organizer : Address) : Entry Unit := do
  requireAdmin signed
  let world ← get
  let subscription ← orFault (world.storage.subscription.get organizer)
    (.error .subscriptionNotFound)
  modify fun world => world.withStorage (((world.storage.setSubscription { subscription with
    isActive := false }).removeFromProMembersList organizer).decrementTotalProSubscriptions)

/-- A Basic subscription has no end and costs nothing. -/
def registerBasic (organizer : Address) : Entry Unit := do
  requireInitialized
  require (signed organizer = true) .trap
  let world ← get
  require (∀ existing ∈ world.storage.subscription.get organizer,
    ¬(existing.tier = .pro ∧ existing.isActive = true)) (.error .subscriptionAlreadyActive)
  modify fun world => world.withStorage (world.storage.setSubscription {
    organizer := organizer
    tier := .basic
    startedAt := world.now
    expiresAt := 0
    isActive := true
    amountPaid := 0
    paymentToken := world.storage.paymentToken.getD contract })

def updateProPrice (newPrice : Int) : Entry Unit := do
  requireAdmin signed
  require (0 < newPrice) (.error .invalidPrice)
  modify fun world => world.withStorage { world.storage with proMonthlyPrice := some newPrice }

def updateAdmin (newAdmin : Address) : Entry Unit := do
  requireAdmin signed
  validateAddress contract newAdmin
  modify fun world => world.withStorage { world.storage with admin := some newAdmin }

def updatePlatformWallet (newWallet : Address) : Entry Unit := do
  requireAdmin signed
  validateAddress contract newWallet
  modify fun world => world.withStorage { world.storage with platformWallet := some newWallet }

def updatePaymentToken (newToken : Address) : Entry Unit := do
  requireAdmin signed
  validateAddress contract newToken
  modify fun world => world.withStorage { world.storage with paymentToken := some newToken }

end Entries

/-! ### The machine -/

inductive Call where
  | initializeContract (admin platformWallet paymentToken : Address) (proMonthlyPrice : Int)
  | subscribePro (organizer : Address) (months : Nat)
  | renewSubscription (organizer : Address) (months : Nat)
  | cancelSubscription (organizer : Address)
  | registerBasic (organizer : Address)
  | updateProPrice (newPrice : Int)
  | updateAdmin (newAdmin : Address)
  | updatePlatformWallet (newWallet : Address)
  | updatePaymentToken (newToken : Address)

def entry (contract : Address) (signed : Address → Bool) : Call → Entry Unit
  | .initializeContract admin platformWallet paymentToken proMonthlyPrice =>
    initializeContract contract admin platformWallet paymentToken proMonthlyPrice
  | .subscribePro organizer months => subscribePro signed organizer months
  | .renewSubscription organizer months => renewSubscription signed organizer months
  | .cancelSubscription organizer => cancelSubscription signed organizer
  | .registerBasic organizer => registerBasic contract signed organizer
  | .updateProPrice newPrice => updateProPrice signed newPrice
  | .updateAdmin newAdmin => updateAdmin contract signed newAdmin
  | .updatePlatformWallet newWallet => updatePlatformWallet contract signed newWallet
  | .updatePaymentToken newToken => updatePaymentToken contract signed newToken

/-- One step: a call at some time, time that passes, or other movements of the tokens. -/
inductive Action where
  | call (signed : Address → Bool) (timestamp : Nat) (call : Call)
  | pass (timestamp : Nat)
  | otherTokens (tokens : Tokens)

/-- The world at another time. -/
def World.atTime (world : World) (timestamp : Nat) : World :=
  { world with now := timestamp }

def step (contract : Address) (world : World) : Action → World
  | .call signed timestamp call => commit (entry contract signed call) (world.atTime timestamp)
  | .pass timestamp => world.atTime timestamp
  | .otherTokens tokens => { world with tokens := tokens }

/-! ### What the calls do -/

/-- A payment for months: the token and the wallet that are set, at the price that is set. -/
structure Payment (world : World) (organizer : Address) (months : Nat) where
  token : Address
  wallet : Address
  tokenSet : world.storage.paymentToken = some token
  walletSet : world.storage.platformWallet = some wallet

namespace Payment

variable {world : World} {organizer : Address} {months : Nat}
  (payment : Payment world organizer months)

def amount (_ : Payment world organizer months) : Int :=
  world.storage.getProMonthlyPrice * months

/-- The tokens after the payment. -/
def tokens : Tokens :=
  world.tokens.move payment.token organizer payment.wallet payment.amount

end Payment

/-- The subscription that a purchase stores. -/
def Subscription.bought (world : World) (organizer : Address) (months : Nat)
    (payment : Payment world organizer months) : Subscription where
  organizer := organizer
  tier := .pro
  startedAt := world.now
  expiresAt := world.now + secondsPerMonth * months
  isActive := true
  amountPaid := payment.amount
  paymentToken := payment.token

/-- The subscription that a renewal stores. -/
def Subscription.renewed (subscription : Subscription) (now months : Nat) (amount : Int) :
    Subscription :=
  { subscription with
    expiresAt := max now subscription.expiresAt + secondsPerMonth * months
    isActive := true
    amountPaid := subscription.amountPaid + amount }

def Subscription.cancelled (subscription : Subscription) : Subscription :=
  { subscription with isActive := false }

def Subscription.free (organizer : Address) (now : Nat) (paymentToken : Address) :
    Subscription where
  organizer := organizer
  tier := .basic
  startedAt := now
  expiresAt := 0
  isActive := true
  amountPaid := 0
  paymentToken := paymentToken

/-- What an accepted call does, with what it has checked. -/
inductive Turn (world : World) : Call → World → Prop
  | configured (call : Call) (storage : Storage)
      (subscription : storage.subscription = world.storage.subscription)
      (proMembersList : storage.proMembersList = world.storage.proMembersList)
      (total : storage.totalProSubscriptions = world.storage.totalProSubscriptions)
      (unpaid : ∀ organizer months, call ≠ .subscribePro organizer months ∧
        call ≠ .renewSubscription organizer months) :
      Turn world call (world.withStorage storage)
  | subscribed (organizer : Address) (months : Nat) (payment : Payment world organizer months)
      (outside : world.storage.isProMember organizer world.now = false) :
      Turn world (.subscribePro organizer months)
        { world with
          storage := ((world.storage.setSubscription (.bought world organizer months
            payment)).addToProMembersList organizer).incrementTotalProSubscriptions
          tokens := payment.tokens }
  | renewed (organizer : Address) (months : Nat) (payment : Payment world organizer months)
      (subscription : Subscription)
      (stored : world.storage.subscription.get organizer = some subscription) :
      Turn world (.renewSubscription organizer months)
        { world with
          storage := (world.storage.setSubscription (subscription.renewed world.now months
            payment.amount)).addToProMembersList organizer
          tokens := payment.tokens }
  | cancelled (organizer : Address) (subscription : Subscription)
      (stored : world.storage.subscription.get organizer = some subscription) :
      Turn world (.cancelSubscription organizer)
        (world.withStorage (((world.storage.setSubscription
          subscription.cancelled).removeFromProMembersList
            organizer).decrementTotalProSubscriptions))
  | basic (organizer paymentToken : Address)
      (vacant : ∀ existing ∈ world.storage.subscription.get organizer,
        ¬(existing.tier = .pro ∧ existing.isActive = true)) :
      Turn world (.registerBasic organizer)
        (world.withStorage (world.storage.setSubscription (.free organizer world.now
          paymentToken)))

section Specifications

variable {contract : Address} {signed : Address → Bool} {world : World} {organizer : Address}
  {months : Nat}

theorem payForMonths_ensures :
    Ensures (payForMonths organizer months) world fun paid next =>
      ∃ payment : Payment world organizer months,
        paid = (payment.amount, payment.token) ∧
          next = { world with tokens := payment.tokens } := by
  simp only [payForMonths, ensures_rules]
  intro amount product token tokenSet wallet walletSet tokens moved
  obtain ⟨-, rfl⟩ := Tokens.transfer_eq_some.mp moved
  obtain rfl := eq_of_checkedMul product
  exact ⟨⟨token, wallet, tokenSet, walletSet⟩, rfl, rfl⟩

theorem eq_of_monthsAfter {time months result : Nat}
    (after : monthsAfter time months = some result) :
    result = time + secondsPerMonth * months := by
  unfold monthsAfter at after
  split at after
  · cases after
    rfl
  · cases after

theorem subscribePro_ensures :
    Ensures (subscribePro signed organizer months) world fun _ next =>
      Turn world (.subscribePro organizer months) next := by
  simp only [subscribePro, requireInitialized, ensures_rules]
  intro _ _ _ outside
  refine payForMonths_ensures.mono ?_
  rintro _ _ ⟨payment, rfl, rfl⟩ expiresAt after _
  obtain rfl := eq_of_monthsAfter after
  exact .subscribed organizer months payment outside

theorem renewSubscription_ensures :
    Ensures (renewSubscription signed organizer months) world fun _ next =>
      Turn world (.renewSubscription organizer months) next := by
  simp only [renewSubscription, requireInitialized, ensures_rules]
  intro _ _ _ subscription stored
  refine payForMonths_ensures.mono ?_
  rintro _ _ ⟨payment, rfl, rfl⟩ newExpiry after amountPaid sum
  obtain rfl := eq_of_monthsAfter after
  obtain rfl := eq_of_checkedAdd sum
  have base : (if subscription.expiresAt < world.now then world.now else subscription.expiresAt) =
      max world.now subscription.expiresAt := by
    split <;> omega
  rw [base]
  exact .renewed organizer months payment subscription stored

theorem cancelSubscription_ensures :
    Ensures (cancelSubscription signed organizer) world fun _ next =>
      Turn world (.cancelSubscription organizer) next := by
  simp only [cancelSubscription, requireAdmin, ensures_rules]
  intro _ _ _ subscription stored
  exact .cancelled organizer subscription stored

theorem registerBasic_ensures :
    Ensures (registerBasic contract signed organizer) world fun _ next =>
      Turn world (.registerBasic organizer) next := by
  simp only [registerBasic, requireInitialized, ensures_rules]
  intro _ _ vacant
  exact .basic organizer _ vacant

theorem entry_ensures {call : Call} :
    Ensures (entry contract signed call) world fun _ next => Turn world call next := by
  cases call with
  | initializeContract admin platformWallet paymentToken proMonthlyPrice =>
    simp only [entry, initializeContract, validateAddress, ensures_rules]
    intro _ _ _ _ _
    exact .configured _ _ rfl rfl rfl (by simp)
  | subscribePro organizer months => exact subscribePro_ensures
  | renewSubscription organizer months => exact renewSubscription_ensures
  | cancelSubscription organizer => exact cancelSubscription_ensures
  | registerBasic organizer => exact registerBasic_ensures
  | updateProPrice newPrice =>
    simp only [entry, updateProPrice, requireAdmin, ensures_rules]
    intro _ _ _ _
    exact .configured _ _ rfl rfl rfl (by simp)
  | updateAdmin newAdmin =>
    simp only [entry, updateAdmin, requireAdmin, validateAddress, ensures_rules]
    intro _ _ _ _
    exact .configured _ _ rfl rfl rfl (by simp)
  | updatePlatformWallet newWallet =>
    simp only [entry, updatePlatformWallet, requireAdmin, validateAddress, ensures_rules]
    intro _ _ _ _
    exact .configured _ _ rfl rfl rfl (by simp)
  | updatePaymentToken newToken =>
    simp only [entry, updatePaymentToken, requireAdmin, validateAddress, ensures_rules]
    intro _ _ _ _
    exact .configured _ _ rfl rfl rfl (by simp)

variable (contract signed world) in
/-- A call is refused and only its time remains, or it is accepted and does what it does. -/
theorem step_call_cases (timestamp : Nat) (call : Call) :
    (accepted (entry contract signed call) (world.atTime timestamp) = false ∧
        step contract world (.call signed timestamp call) = world.atTime timestamp) ∨
      (accepted (entry contract signed call) (world.atTime timestamp) = true ∧
        Turn (world.atTime timestamp) call
          (step contract world (.call signed timestamp call))) := by
  refine (commit_cases_accepted (entry contract signed call) (world.atTime timestamp)).imp_right ?_
  rintro ⟨done, value, run⟩
  exact ⟨done, entry_ensures value _ run⟩

end Specifications

end Agora.ProSubscription

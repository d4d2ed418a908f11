/-
This file models the data of the ticket payment contract: its errors, its records,
and the interfaces through which it reads and updates the event registry.

The registry is a contract of its own. Here it is any state with the operations of
`RegistryApi`, so that what is proved of the payment contract holds whatever the
registry answers.
-/

import Agora.Soroban.Host

namespace Agora.TicketPayment

open Soroban

abbrev PaymentId := String

abbrev EventId := String

abbrev TierId := String

inductive TicketPaymentError where
  | alreadyInitialized
  | invalidAddress
  | notInitialized
  | eventNotFound
  | eventInactive
  | tokenNotWhitelisted
  | maxSupplyExceeded
  | paymentNotFound
  | invalidPaymentStatus
  | ticketNotRefundable
  | tierNotFound
  | insufficientAllowance
  | transferVerificationFailed
  | arithmeticError
  | selfReferralNotAllowed
  | priceMismatch
  | invalidPrice
  | invalidDiscountCode
  | discountCodeUsed
  | unauthorized
  | eventNotCompleted
  | noFundsAvailable
  | refundDeadlinePassed
  | withdrawalCapExceeded
  | insufficientFees
  | resalePriceExceedsCap
  | contractPaused
  | invalidSecret
  | commitExpired
  | discountExpired
  | discountMaxUsesReached
  | disputeNotResolved
  | escrowNotInitialized
  | invalidAmount
  | eventCancelled
  | eventDisputed
  | unauthorizedScanner
  | ticketAlreadyUsed
  | goalNotMet
  | oracleNotConfigured
  | oraclePriceUnavailable
  | priceOutsideSlippage
  | invalidSlippageBps
  | auctionNotActive
  | bidTooLow
  | auctionEnded
  | auctionNotEnded
  | notAuctionTier
  | notGovernor
  | invalidProposal
  | proposalNotActive
  | alreadyVoted
  | votingPeriodNotMet
  | insufficientVotes
  | proposalExpired
  | oraclePriceStale
  | cannotRemoveLastGovernor
  | invalidFeePercent
  | eventEnded
  | ticketAlreadyListed
  | resaleListingNotFound
  | resaleListingNotActive
  | nonTransferable
  | invalidRoyaltyBps
  | emptyBatch
  | batchTooLarge
  | paymentAlreadyExists
  | priceLimitExceeded
  deriving DecidableEq, Repr

/-- Transfer fee in basis points where the event has set none. -/
def transferFeeBps : Nat := 100

/-- Basis points of a whole. -/
def maxBps : Nat := 10000

inductive PaymentStatus where
  | pending
  | confirmed
  | refunded
  | failed
  | checkedIn
  deriving DecidableEq, Repr

structure Payment where
  paymentId : PaymentId
  eventId : EventId
  buyerAddress : Address
  ownerAddress : Address
  ticketTierId : TierId
  tokenAddress : Address
  amount : Int
  platformFee : Int
  organizerAmount : Int
  status : PaymentStatus
  transactionHash : String
  createdAt : Nat
  confirmedAt : Option Nat
  refundedAmount : Int
  isSoulbound : Bool
  lastCheckedInAt : Nat
  referralAmount : Int
  referrer : Option Address
  deriving DecidableEq, Repr

structure EventBalance where
  organizerAmount : Int
  totalWithdrawn : Int
  platformFee : Int
  deriving DecidableEq, Repr

structure DiscountData where
  percentage : Nat
  expiresAt : Nat
  maxUses : Nat
  currentUses : Nat
  deriving DecidableEq, Repr

structure PurchaseOptions where
  codePreimage : Option Bytes
  referrer : Option Address
  discountCode : Option String
  deriving DecidableEq, Repr

structure HighestBid where
  bidder : Address
  tokenAddress : Address
  amount : Int
  deriving DecidableEq, Repr

/-! ### The registry as the contract sees it -/

inductive EventStatus where
  | active
  | inactive
  | cancelled
  deriving DecidableEq, Repr

inductive DisputeStatus where
  | opened
  | voting
  | resolvedBuyer
  | resolvedOrganizer
  | expired
  deriving DecidableEq, Repr

structure AuctionConfig where
  startPrice : Int
  endTime : Nat
  minIncrement : Int
  deriving DecidableEq, Repr

structure Milestone where
  salesThreshold : Int
  releasePercent : Nat
  deriving DecidableEq, Repr

structure TicketTier where
  price : Int
  earlyBirdPrice : Int
  earlyBirdDeadline : Nat
  usdPrice : Int
  isRefundable : Bool
  auctionConfig : List AuctionConfig
  loyaltyMultiplier : Nat
  deriving DecidableEq, Repr

structure EventInfo where
  organizerAddress : Address
  paymentAddress : Address
  platformFeePercent : Nat
  isActive : Bool
  status : EventStatus
  currentSupply : Int
  milestonePlan : Option (List Milestone)
  tiers : TierId → Option TicketTier
  refundDeadline : Nat
  restockingFee : Int
  resaleCapBps : Option Nat
  minSalesTarget : Int
  targetDeadline : Nat
  goalMet : Bool
  customFeeBps : Option Nat
  endTime : Nat
  acceptedTokens : List Address
  useGlobalWhitelist : Bool

/-- The registry's entry points that the payment contract calls. A call that the registry
refuses is `none`; the caller is the payment contract. -/
class RegistryApi (Registry : Type) where
  getEvent : Registry → EventId → Option EventInfo
  getDispute : Registry → EventId → Option DisputeStatus
  getGlobalPromoBps : Registry → Nat → Nat
  getPromoExpiry : Registry → Nat
  isScannerAuthorized : Registry → EventId → Address → Bool
  getLoyaltyDiscountBps : Registry → Address → Nat
  incrementInventory : Registry → Address → EventId → TierId → Address → Nat → Address →
    Option Registry
  decrementInventory : Registry → Address → EventId → TierId → Address → Option Registry
  updateLoyaltyScore : Registry → Address → Address → Nat → Int → Nat → Nat → Registry

end Agora.TicketPayment

/-
This file models the whole state of the ticket payment contract, together with the
token balances and the registry it calls, and the ledger that is read off it.

The ledger has an account for every counter of the contract and for the tokens it
really holds, and accounts for what was charged, refunded, received and released,
which the contract does not store: these are noted beside every movement of tokens
and no code reads them. What a step does is then a list of postings.
-/

import Agora.Lib.Ledger
import Agora.Soroban.Token
import Agora.TicketPayment.Tickets

namespace Agora.TicketPayment

open Soroban

/-! ### The parts of the state -/

structure Books where
  balances : Store EventId EventBalance
  totalVolumeProcessed : Int
  totalFeesCollected : Store Address Int
  activeEscrowTotal : Int
  activeEscrowByToken : Store Address Int
  dailyWithdrawalAmount : Store (Address × Nat) Int

structure Auctions where
  highestBid : Store (EventId × TierId) HighestBid
  closed : Store (EventId × TierId) Unit

structure Discounts where
  hash : Store BytesN32 Unit
  hashUsed : Store BytesN32 Unit
  code : Store (EventId × String) DiscountData

structure Settings where
  initialized : Bool
  admin : Option Address
  usdcToken : Option Address
  platformWallet : Option Address
  eventRegistry : Option Address
  proSubscriptionContract : Option Address
  isPaused : Bool
  tokenWhitelist : Store Address Unit
  oracleAddress : Option Address
  slippageBps : Option Nat
  transferFee : Store EventId Nat
  affiliateRate : Store (EventId × Address) Nat
  resaleRoyaltyBps : Store EventId Nat
  withdrawalCap : Store Address Int
  priceSwitched : Store (EventId × TierId) Unit
  cancelledForRefund : Store EventId Unit
  bulkRefundIndex : Store EventId Nat
  partialRefundIndex : Store EventId Nat
  partialRefundPercentage : Store EventId Nat

inductive ResaleStatus where
  | active
  | cancelled
  | completed
  | sold
  deriving DecidableEq, Repr

structure ResaleListing where
  paymentId : PaymentId
  eventId : EventId
  seller : Address
  askPrice : Int
  status : ResaleStatus
  listedAt : Nat
  deriving DecidableEq, Repr

inductive ParameterChange where
  | addGovernor (governor : Address)
  | removeGovernor (governor : Address)
  | addTokenToWhitelist (token : Address)
  | removeTokenFromWhitelist (token : Address)
  | updateWithdrawalCap (token : Address) (cap : Int)
  | updateSlippage (bps : Nat)
  | updateTransferFee (eventId : EventId) (fee : Nat)
  | escrowWithdrawal (eventId : EventId) (amount : Int)
  deriving DecidableEq, Repr

inductive ProposalStatus where
  | pending
  | executed
  | rejected
  deriving DecidableEq, Repr

structure ParameterProposal where
  id : Nat
  proposer : Address
  change : ParameterChange
  status : ProposalStatus
  createdAt : Nat
  expiresAt : Nat
  voteCount : Nat
  voters : List Address
  deriving DecidableEq, Repr

structure Governance where
  governor : Store Address Bool
  totalGovernors : Nat
  proposal : Store Nat ParameterProposal
  proposalCount : Nat

structure EscrowMilestone where
  salesThreshold : Int
  releasePercent : Nat
  released : Bool
  deriving DecidableEq, Repr

structure EscrowState where
  totalCollected : Int
  totalReleased : Int
  milestonesReached : Nat
  deriving DecidableEq, Repr

/-- What a movement of tokens is for. -/
inductive Trail where
  | charged (paymentId : PaymentId)
  | refunded (paymentId : PaymentId)
  | received (eventId : EventId) (token : Address)
  | released (eventId : EventId) (token : Address)
  deriving DecidableEq, Repr

/-- The contract's storage, the tokens, the registry, and the notes on past movements. -/
structure World (Registry : Type) where
  settings : Settings
  tickets : Tickets
  books : Books
  auctions : Auctions
  discounts : Discounts
  resale : Store PaymentId ResaleListing
  governance : Governance
  escrowState : Store EventId EscrowState
  escrowMilestone : Store (EventId × Nat) EscrowMilestone
  tokens : Tokens
  registry : Registry
  trail : List (Posting Trail)

/-- An entry point of the contract. -/
abbrev Entry (Registry Value : Type) :=
  Transaction (World Registry) (Fault TicketPaymentError) Value

/-! ### The ledger -/

inductive Account where
  | held (token : Address)
  | organizer (eventId : EventId)
  | withdrawn (eventId : EventId)
  | platform (eventId : EventId)
  | fees (token : Address)
  | escrowTotal
  | escrow (token : Address)
  | trail (trail : Trail)
  deriving DecidableEq, Repr

def Books.getEventBalance (books : Books) (eventId : EventId) : EventBalance :=
  (books.balances.get eventId).getD ⟨0, 0, 0⟩

def Books.getTotalFeesCollectedByToken (books : Books) (token : Address) : Int :=
  (books.totalFeesCollected.get token).getD 0

def Books.getActiveEscrowByToken (books : Books) (token : Address) : Int :=
  (books.activeEscrowByToken.get token).getD 0

def World.ledger {Registry : Type} (host : Host) (world : World Registry) : Ledger Account
  | .held token => world.tokens.balance token host.contract
  | .organizer eventId => (world.books.getEventBalance eventId).organizerAmount
  | .withdrawn eventId => (world.books.getEventBalance eventId).totalWithdrawn
  | .platform eventId => (world.books.getEventBalance eventId).platformFee
  | .fees token => world.books.getTotalFeesCollectedByToken token
  | .escrowTotal => world.books.activeEscrowTotal
  | .escrow token => world.books.getActiveEscrowByToken token
  | .trail trail => posted world.trail trail

end Agora.TicketPayment

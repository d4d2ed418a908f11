/-
This file puts the entry points together into one machine: the contract takes calls
in any order, a call that fails changes nothing, and between the calls the registry
and the holders of tokens do as they like.

`step_takes` says once what a step can do. It is the only place where all entry
points are taken apart; every invariant is a case analysis over `Effect`.
-/

import Agora.Lib.Run
import Agora.TicketPayment.Admin
import Agora.TicketPayment.Auction
import Agora.TicketPayment.Batch
import Agora.TicketPayment.Governance
import Agora.TicketPayment.Payout
import Agora.TicketPayment.Purchase
import Agora.TicketPayment.Resale

namespace Agora.TicketPayment

open Soroban

/-! ### Calls -/

/-- The entry points that configure the contract. -/
inductive ConfigurationCall where
  | initializeContract (config : Configuration)
  | setPause (paused : Bool)
  | setOracle (oracleAddress : Address)
  | setTransferFee (eventId : EventId) (bps : Nat)
  | setAffiliateRate (eventId : EventId) (affiliate : Address) (rateBps : Nat)
  | setWithdrawalCap (token : Address) (amount : Int)
  | setResaleRoyaltyBps (eventId : EventId) (bps : Nat)
  | cancelEvent (eventId : EventId)
  | createDiscountCode (eventId : EventId) (code : String) (percentage expiresAt maxUses : Nat)
  | addDiscountHashes (eventId : EventId) (hashes : List BytesN32)
  | proposeParameterChange (proposer : Address) (change : ParameterChange)
  | voteOnProposal (voter : Address) (proposalId : Nat)
  | executeProposal (executor : Address) (proposalId : Nat)
  | proposeEscrowWithdrawal (eventId : EventId) (amount : Int)
  | approveEscrowWithdrawal (proposalId : Nat)
  | executeEscrowWithdrawal (proposalId : Nat)
  | releaseMilestoneEscrow (eventId : EventId)

/-- The entry points in front of the common refund. -/
inductive RefundPath where
  | guest
  | admin
  | automatic

/-- The entry points of the contract that change its state. -/
inductive Call where
  | configure (call : ConfigurationCall)
  | processPayment (purchase : Purchase)
  | confirmPayment (paymentId : PaymentId) (transactionHash : String)
  | refund (path : RefundPath) (paymentId : PaymentId)
  | requestRefund (ticketId : Nat)
  | claimCancellationRefund (paymentId : PaymentId)
  | triggerBulkRefund (eventId : EventId) (batchSize : Nat)
  | issuePartialRefund (eventId : EventId) (percentageBps batchSize : Nat)
  | triggerDisputeRefundCascade (eventId : EventId)
  | checkIn (paymentId : PaymentId) (scanner : Address) (rawSecret : Bytes)
  | mintPoap (paymentId : PaymentId)
  | transferTicket (paymentId : PaymentId) (target : Address) (salePrice : Option Int)
  | listForResale (paymentId : PaymentId) (askPrice : Int)
  | cancelResaleListing (paymentId : PaymentId)
  | purchaseResaleTicket (paymentId : PaymentId) (buyer : Address) (maxPrice : Int)
  | withdrawOrganizerFunds (eventId : EventId) (token : Address)
  | claimRevenue (eventId : EventId) (token : Address)
  | settlePlatformFees (eventId : EventId)
  | withdrawPlatformFees (amount : Int) (token : Address)
  | placeBid (eventId : EventId) (tierId : TierId) (bid : HighestBid)
  | closeAuction (paymentId : PaymentId) (eventId : EventId) (tierId : TierId)

/-- What the holders of tokens do without the contract. -/
inductive TokenMove where
  | mint (token holder : Address) (amount : Int)
  | transfer (token source target : Address) (amount : Int)
  | approve (token owner spender : Address) (amount : Int)

/-- One step of the system: a call, a step of the registry, or a movement of tokens. -/
inductive Action (host : Host) (Registry : Type) where
  | call (env : Env host) (call : Call)
  | registry (next : Registry)
  | tokens (move : TokenMove)

variable {Registry : Type} [RegistryApi Registry] {host : Host}

/-! ### Steps -/

def configureStep (env : Env host) (world : World Registry) :
    ConfigurationCall → World Registry
  | .initializeContract config => commit (initializeContract host config) world
  | .setPause paused => commit (setPause env paused) world
  | .setOracle oracleAddress => commit (setOracle env oracleAddress) world
  | .setTransferFee eventId bps => commit (setTransferFee env eventId bps) world
  | .setAffiliateRate eventId affiliate rateBps =>
    commit (setAffiliateRate env eventId affiliate rateBps) world
  | .setWithdrawalCap token amount => commit (setWithdrawalCap env token amount) world
  | .setResaleRoyaltyBps eventId bps => commit (setResaleRoyaltyBps env eventId bps) world
  | .cancelEvent eventId => commit (cancelEvent env eventId) world
  | .createDiscountCode eventId code percentage expiresAt maxUses =>
    commit (createDiscountCode env eventId code percentage expiresAt maxUses) world
  | .addDiscountHashes eventId hashes => commit (addDiscountHashes env eventId hashes) world
  | .proposeParameterChange proposer change =>
    commit (proposeParameterChange env proposer change) world
  | .voteOnProposal voter proposalId => commit (voteOnProposal env voter proposalId) world
  | .executeProposal executor proposalId => commit (executeProposal env executor proposalId) world
  | .proposeEscrowWithdrawal eventId amount =>
    commit (proposeEscrowWithdrawal env eventId amount) world
  | .approveEscrowWithdrawal proposalId => commit (approveEscrowWithdrawal env proposalId) world
  | .executeEscrowWithdrawal proposalId => commit (executeEscrowWithdrawal env proposalId) world
  | .releaseMilestoneEscrow eventId => commit (releaseMilestoneEscrow env eventId) world

def refundVia (env : Env host) (paymentId : PaymentId) : RefundPath → Entry Registry Unit
  | .guest => requestGuestRefund env paymentId
  | .admin => adminRefund env paymentId
  | .automatic => claimAutomaticRefund env paymentId

def callStep (env : Env host) (world : World Registry) : Call → World Registry
  | .configure call => configureStep env world call
  | .processPayment purchase => commit (processPayment env purchase) world
  | .confirmPayment paymentId transactionHash =>
    commit (confirmPayment env paymentId transactionHash) world
  | .refund path paymentId => commit (refundVia env paymentId path) world
  | .requestRefund ticketId => commit (requestRefund env ticketId) world
  | .claimCancellationRefund paymentId => commit (claimCancellationRefund env paymentId) world
  | .triggerBulkRefund eventId batchSize => commit (triggerBulkRefund env eventId batchSize) world
  | .issuePartialRefund eventId percentageBps batchSize =>
    commit (issuePartialRefund env eventId percentageBps batchSize) world
  | .triggerDisputeRefundCascade eventId =>
    commit (triggerDisputeRefundCascade env eventId) world
  | .checkIn paymentId scanner rawSecret => commit (checkIn env paymentId scanner rawSecret) world
  | .mintPoap paymentId => commit (mintPoap paymentId) world
  | .transferTicket paymentId target salePrice =>
    commit (transferTicket env paymentId target salePrice) world
  | .listForResale paymentId askPrice => commit (listForResale env paymentId askPrice) world
  | .cancelResaleListing paymentId => commit (cancelResaleListing env paymentId) world
  | .purchaseResaleTicket paymentId buyer maxPrice =>
    commit (purchaseResaleTicket env paymentId buyer maxPrice) world
  | .withdrawOrganizerFunds eventId token =>
    commit (withdrawOrganizerFunds env eventId token) world
  | .claimRevenue eventId token => commit (claimRevenue env eventId token) world
  | .settlePlatformFees eventId => commit (settlePlatformFees env eventId) world
  | .withdrawPlatformFees amount token => commit (withdrawPlatformFees env amount token) world
  | .placeBid eventId tierId bid => commit (placeBid env eventId tierId bid) world
  | .closeAuction paymentId eventId tierId =>
    commit (closeAuction env paymentId eventId tierId) world

/-- The contract signs nothing outside its own calls, so it is never the source of a transfer
and never the owner of an allowance. -/
def tokenStep (host : Host) (tokens : Tokens) : TokenMove → Tokens
  | .mint token holder amount =>
    if 0 ≤ amount then
      { tokens with
        balance := fun other address =>
          tokens.balance other address + if other = token ∧ address = holder then amount else 0 }
    else tokens
  | .transfer token source target amount =>
    if source = host.contract then tokens
    else (tokens.transfer token source target amount).getD tokens
  | .approve token owner spender amount =>
    if owner = host.contract then tokens
    else
      { tokens with
        allowance := fun other holder delegate =>
          if other = token ∧ holder = owner ∧ delegate = spender then amount
          else tokens.allowance other holder delegate }

def step (world : World Registry) : Action host Registry → World Registry
  | .call env call => callStep env world call
  | .registry next => world.withRegistry next
  | .tokens move => { world with tokens := tokenStep host world.tokens move }

/-! ### The fresh contract -/

def Books.fresh : Books := ⟨.empty, 0, .empty, 0, .empty, .empty⟩

def Settings.fresh : Settings where
  initialized := false
  admin := none
  usdcToken := none
  platformWallet := none
  eventRegistry := none
  proSubscriptionContract := none
  isPaused := false
  tokenWhitelist := .empty
  oracleAddress := none
  slippageBps := none
  transferFee := .empty
  affiliateRate := .empty
  resaleRoyaltyBps := .empty
  withdrawalCap := .empty
  priceSwitched := .empty
  cancelledForRefund := .empty
  bulkRefundIndex := .empty
  partialRefundIndex := .empty
  partialRefundPercentage := .empty

/-- The state after deployment, before any tokens exist. -/
def World.fresh (registry : Registry) : World Registry where
  settings := .fresh
  tickets := .empty
  books := .fresh
  auctions := ⟨.empty, .empty⟩
  discounts := ⟨.empty, .empty, .empty⟩
  resale := .empty
  governance := ⟨.empty, 0, .empty, 0⟩
  escrowState := .empty
  escrowMilestone := .empty
  tokens := .none
  registry := registry
  trail := []

/-- The state after a run from the fresh contract. -/
def reached (registry : Registry) (actions : List (Action host Registry)) : World Registry :=
  runActions step (.fresh registry) actions

/-! ### What a step can do -/

/-- The move adds to what the contract holds. -/
def TokenMove.ReachesContract (host : Host) : TokenMove → Prop
  | .mint _ holder _ => holder = host.contract
  | .transfer _ _ target _ => target = host.contract
  | .approve _ _ _ _ => False

instance (host : Host) (move : TokenMove) : Decidable (move.ReachesContract host) :=
  match move with
  | .mint _ holder _ => inferInstanceAs (Decidable (holder = host.contract))
  | .transfer _ _ target _ => inferInstanceAs (Decidable (target = host.contract))
  | .approve _ _ _ _ => inferInstanceAs (Decidable False)

/-- The listings that a call writes: a new one, or one that is taken back. -/
inductive WritesListing (env : Env host) (world : World Registry) : Call → ResaleListing → Prop
  | listed (paymentId : PaymentId) (askPrice : Int) (payment : Payment)
      (of : ListingOf env world paymentId askPrice payment) :
      WritesListing env world (.listForResale paymentId askPrice)
        (listingFor env.timestamp paymentId payment askPrice)
  | cancelled (paymentId : PaymentId) (listing : ResaleListing)
      (stored : world.resale.get paymentId = some listing) (active : listing.status = .active)
      (signed : env.signed listing.seller = true) :
      WritesListing env world (.cancelResaleListing paymentId)
        { listing with status := .cancelled }

variable {world : World Registry}

omit [RegistryApi Registry] in
theorem WritesListing.outside {env : Env host} {call : Call} {listing : ResaleListing}
    (writes : WritesListing env world call listing) : listing.seller ≠ host.contract := by
  cases writes with
  | listed _ _ _ of => exact ne_contract_of_signed env of.signed
  | cancelled _ _ _ _ signed => exact ne_contract_of_signed env signed

/-- The changes of the governance and of the discounts that a configuration call can make, and
whether it initialises the contract, with what is known when it makes them. -/
inductive Configures (env : Env host) (world : World Registry) :
    ConfigurationCall → (Governance → Governance) → (Discounts → Discounts) → Bool → Prop
  | initialized (config : Configuration) (uninitialized : world.settings.initialized = false) :
      Configures env world (.initializeContract config) (seatAdmin config.admin) id true
  | codeCreated (eventId : EventId) (code : String) (percentage expiresAt maxUses : Nat) :
      Configures env world (.createDiscountCode eventId code percentage expiresAt maxUses) id
        (storeCode eventId code ⟨percentage, expiresAt, maxUses, 0⟩) false
  | hashesAdded (eventId : EventId) (hashes : List BytesN32) :
      Configures env world (.addDiscountHashes eventId hashes) id (storeHashes hashes) false
  | proposed (proposer : Address) (change : ParameterChange)
      (governs : isGovernor world.governance proposer = true) :
      Configures env world (.proposeParameterChange proposer change)
        (enroll env.timestamp proposer change) id false
  | escrowProposed (eventId : EventId) (amount : Int) (organizer : Address)
      (initialized : world.settings.initialized = true) :
      Configures env world (.proposeEscrowWithdrawal eventId amount)
        (enroll env.timestamp organizer (.escrowWithdrawal eventId amount)) id false
  | voted (voter : Address) (proposalId : Nat) (proposal : ParameterProposal)
      (governs : isGovernor world.governance voter = true)
      (of : VoteOf env.timestamp world proposalId voter proposal) :
      Configures env world (.voteOnProposal voter proposalId)
        (setProposal (proposal.votedBy voter)) id false
  | approved (proposalId : Nat) (admin : Address) (proposal : ParameterProposal)
      (adminEq : world.settings.admin = some admin)
      (of : VoteOf env.timestamp world proposalId admin proposal) :
      Configures env world (.approveEscrowWithdrawal proposalId)
        (setProposal (proposal.votedBy admin)) id false
  | executed (executor : Address) (proposalId : Nat) (proposal : ParameterProposal)
      (of : ExecutionOf env.timestamp world proposalId proposal) :
      Configures env world (.executeProposal executor proposalId) (carryOut proposal) id false
  | escrowExecuted (proposalId : Nat) (proposal : ParameterProposal)
      (stored : world.governance.proposal.get proposalId = some proposal)
      (enough : 2 ≤ proposal.voteCount) :
      Configures env world (.executeEscrowWithdrawal proposalId)
        (setProposal { proposal with status := .executed }) id false

/-- The changes that an action can make in a state, with what is known when it makes them. -/
inductive Effect (world : World Registry) : Action host Registry → Change → Prop
  | nothing (action : Action host Registry) : Effect world action .nothing
  | registry (next : Registry) : Effect world (.registry next) { callsRegistry := true }
  | configured (env : Env host) (call : ConfigurationCall) (governance : Governance → Governance)
      (discounts : Discounts → Discounts) (initializes : Bool)
      (configures : Configures env world call governance discounts initializes) :
      Effect world (.call env (.configure call)) { governance, discounts, initializes }
  | inflow (move : TokenMove) (token : Address) (amount : Int) (nonneg : 0 ≤ amount)
      (unreached : ¬move.ReachesContract host → amount = 0) :
      Effect world (.tokens move) (.posting [(.held token, amount)])
  | sale (env : Env host) (purchase : Purchase) (sale : Sale) (of : sale.Of env world purchase) :
      Effect world (.call env (.processPayment purchase)) (sale.change env purchase)
  | confirm (env : Env host) (paymentId : PaymentId) (transactionHash : String) :
      Effect world (.call env (.confirmPayment paymentId transactionHash))
        { tickets := confirmTickets env.timestamp paymentId transactionHash }
  | refund (env : Env host) (path : RefundPath) (paymentId : PaymentId) (payment : Payment)
      (event : EventInfo) (refundable : Refundable env world paymentId payment)
      (found : RegistryApi.getEvent world.registry payment.eventId = some event)
      (undisputed : isEventDisputed world payment.eventId = false) :
      Effect world (.call env (.refund path paymentId))
        (internalRefundChange env paymentId payment
          (effectiveRestockingFee env event payment.amount))
  | cancellationRefund (env : Env host) (paymentId : PaymentId) (payment : Payment)
      (refundable : Refundable env world paymentId payment) (nonneg : 0 ≤ payment.amount) :
      Effect world (.call env (.claimCancellationRefund paymentId))
        (cancellationRefundChange env paymentId payment)
  | bulkRefund (env : Env host) (eventId : EventId) (batchSize : Nat)
      (nonneg : ∀ item ∈ bulkItems env world eventId batchSize, 0 ≤ item.refund) :
      Effect world (.call env (.triggerBulkRefund eventId batchSize))
        (windowChange host eventId (bulkItems env world eventId batchSize))
  | partialRefund (env : Env host) (eventId : EventId) (percentageBps batchSize : Nat)
      (nonneg : ∀ item ∈ partialItems world eventId percentageBps batchSize, 0 ≤ item.refund) :
      Effect world (.call env (.issuePartialRefund eventId percentageBps batchSize))
        (windowChange host eventId (partialItems world eventId percentageBps batchSize))
  | cascade (env : Env host) (eventId : EventId)
      (nonneg : ∀ item ∈ cascadeItems env world eventId, 0 ≤ item.refund)
      (resolved : RegistryApi.getDispute world.registry eventId = some .resolvedBuyer) :
      Effect world (.call env (.triggerDisputeRefundCascade eventId))
        (cascadeChange host eventId (cascadeItems env world eventId))
  | checkIn (env : Env host) (paymentId : PaymentId) (scanner : Address) (rawSecret : Bytes)
      (payment : Payment) (stored : world.tickets.getPayment paymentId = some payment)
      (unused : payment.status ≠ .checkedIn) :
      Effect world (.call env (.checkIn paymentId scanner rawSecret))
        { tickets := checkInTickets env.timestamp paymentId payment }
  | poap (env : Env host) (paymentId : PaymentId) (attendee : Address)
      (unminted : world.tickets.isPoapMinted paymentId = false) :
      Effect world (.call env (.mintPoap paymentId))
        { tickets := fun tickets => tickets.markPoapMinted paymentId attendee }
  | transfer (env : Env host) (paymentId : PaymentId) (target : Address)
      (salePrice : Option Int) (payment : Payment) (fee : Int)
      (of : TransferOf env world paymentId target payment fee) :
      Effect world (.call env (.transferTicket paymentId target salePrice))
        (transferChange paymentId payment target fee)
  | listing (env : Env host) (call : Call) (listing : ResaleListing)
      (writes : WritesListing env world call listing) :
      Effect world (.call env call) (listingChange listing)
  | resale (env : Env host) (paymentId : PaymentId) (buyer : Address) (maxPrice : Int)
      (listing : ResaleListing) (payment : Payment) (token : Address) (royalty : Int)
      (of : ResaleOf env world paymentId buyer listing payment token royalty) :
      Effect world (.call env (.purchaseResaleTicket paymentId buyer maxPrice))
        (resaleChange host (royaltyPayee world listing) paymentId buyer listing payment token
          royalty)
  | withdrawal (env : Env host) (eventId : EventId) (token : Address) (amount : Int)
      (nonneg : 0 ≤ amount)
      (bounded : amount ≤ max 0 (world.books.getEventBalance eventId).organizerAmount)
      (event : EventInfo) (may : MayWithdraw env world eventId event) :
      Effect world (.call env (.withdrawOrganizerFunds eventId token))
        (withdrawalChange eventId token amount)
  | claim (env : Env host) (eventId : EventId) (token : Address) (event : EventInfo)
      (found : RegistryApi.getEvent world.registry eventId = some event)
      (completed : event.isActive = false ∧ event.status = .inactive)
      (undisputed : isEventDisputed world eventId = false) :
      Effect world (.call env (.claimRevenue eventId token))
        (claimChange host event eventId token (world.books.getEventBalance eventId)
          (claimPayout (world.tokens.balance token host.contract)
            (world.books.getEventBalance eventId)))
  | settlement (env : Env host) (eventId : EventId) :
      Effect world (.call env (.settlePlatformFees eventId))
        (.posting [(.platform eventId, -(world.books.getEventBalance eventId).platformFee)])
  | feeWithdrawal (env : Env host) (amount : Int) (token wallet : Address)
      (positive : 0 < amount) (walletEq : world.settings.platformWallet = some wallet)
      (covered : amount ≤ world.books.getTotalFeesCollectedByToken token) :
      Effect world (.call env (.withdrawPlatformFees amount token))
        (feeChange host token wallet amount)
  | bid (env : Env host) (eventId : EventId) (tierId : TierId) (bid : HighestBid)
      (outside : bid.bidder ≠ host.contract) (nonneg : 0 ≤ bid.amount)
      (event : EventInfo) (config : AuctionConfig)
      (of : BidOf env world eventId tierId bid event config) :
      Effect world (.call env (.placeBid eventId tierId bid))
        (bidChange host eventId tierId bid (world.auctions.highestBid.get (eventId, tierId)))
  | closing (env : Env host) (paymentId : PaymentId) (eventId : EventId) (tierId : TierId)
      (event : EventInfo) (bid : HighestBid) (fee : Int)
      (of : ClosingOf world eventId tierId event bid fee) (config : AuctionConfig)
      (ended : AuctionEnded env event tierId config) :
      Effect world (.call env (.closeAuction paymentId eventId tierId))
        (closingChange env paymentId eventId tierId bid fee)

/-- The step from one state to the next has one of the effects of the action. -/
def Takes (world : World Registry) (action : Action host Registry) (next : World Registry) :
    Prop :=
  ∃ change, Effect world action change ∧ Does host change world next

omit [RegistryApi Registry] in
theorem does_tokens {tokens : Tokens} {token : Address} {amount : Int}
    (held : ∀ other, tokens.balance other host.contract =
      world.tokens.balance other host.contract + if token = other then amount else 0) :
    Does host (.posting [(.held token, amount)]) world { world with tokens := tokens } :=
  .of_money (world.ledger_tokens host held) ⟨_, _, _, rfl, rfl⟩

theorem tokenStep_takes {move : TokenMove} :
    Takes world (.tokens move : Action host Registry)
      { world with tokens := tokenStep host world.tokens move } := by
  have unchanged : Takes world (.tokens move : Action host Registry)
      { world with tokens := world.tokens } := ⟨_, .nothing _, Does.refl world⟩
  cases move with
  | mint token holder amount =>
    rw [tokenStep]
    split
    · rename_i nonneg
      refine ⟨_, .inflow (.mint token holder amount) token
        (if holder = host.contract then amount else 0) ?_ fun unreached => if_neg unreached,
        does_tokens fun other => ?_⟩
      · split <;> omega
      · by_cases own : holder = host.contract <;> by_cases same : token = other <;>
          simp [own, same, eq_comm]
    · exact unchanged
  | transfer token source target amount =>
    rw [tokenStep]
    split
    · exact unchanged
    · rename_i outside
      cases moved : world.tokens.transfer token source target amount with
      | none => exact unchanged
      | some tokens =>
        obtain ⟨allowed, rfl⟩ := Tokens.transfer_eq_some.mp moved
        refine ⟨_, .inflow (.transfer token source target amount) token
          (if target = host.contract then amount else 0) ?_ fun unreached => if_neg unreached,
          does_tokens fun other => ?_⟩
        · have := allowed.1
          split <;> omega
        · by_cases own : target = host.contract <;> by_cases same : token = other <;>
            simp [eq_comm, Tokens.move, Tokens.moved, outside]
  | approve token owner spender amount =>
    rw [tokenStep]
    split
    · exact unchanged
    · refine ⟨_, .nothing _, .of_money ?_ ⟨_, _, _, rfl, rfl⟩⟩
      funext account
      cases account <;> simp [World.ledger]

variable {Value : Type} {entry : Entry Registry Value} {action : Action host Registry}

/-- A failed attempt has no effect, so only the successes are to be looked at. -/
theorem commit_takes (ensures : Ensures entry world fun _ next => Takes world action next) :
    Takes world action (commit entry world) :=
  commit_of_ensures ⟨_, .nothing action, Does.refl world⟩ ensures

/-- An entry point that the invariants do not see. -/
theorem commit_takes_nothing
    (ensures : Ensures entry world fun _ next => Does host .nothing world next) :
    Takes world action (commit entry world) :=
  commit_takes (ensures.mono fun _ _ does => ⟨_, .nothing action, does⟩)

variable {env : Env host}

theorem configureStep_takes (escrow : world.escrowState = .empty) (call : ConfigurationCall) :
    Takes world (.call env (.configure call)) (configureStep env world call) := by
  cases call with
  | initializeContract config =>
    refine commit_takes (initializeContract_ensures.mono ?_)
    rintro _ next ⟨uninitialized, does⟩
    exact ⟨_, .configured env _ _ _ _ (.initialized config uninitialized), does⟩
  | setPause paused => exact commit_takes_nothing setPause_ensures
  | setOracle oracle => exact commit_takes_nothing setOracle_ensures
  | setTransferFee eventId bps =>
    exact commit_takes_nothing setTransferFee_ensures
  | setAffiliateRate eventId affiliate rate =>
    exact commit_takes_nothing setAffiliateRate_ensures
  | setWithdrawalCap token amount =>
    exact commit_takes_nothing setWithdrawalCap_ensures
  | setResaleRoyaltyBps eventId bps =>
    exact commit_takes_nothing setResaleRoyaltyBps_ensures
  | cancelEvent eventId => exact commit_takes_nothing cancelEvent_ensures
  | createDiscountCode eventId code percentage expiresAt maxUses =>
    refine commit_takes (createDiscountCode_ensures.mono ?_)
    intro _ next does
    exact ⟨_, .configured env _ _ _ _ (.codeCreated eventId code percentage expiresAt maxUses),
      does⟩
  | addDiscountHashes eventId hashes =>
    refine commit_takes (addDiscountHashes_ensures.mono ?_)
    intro _ next does
    exact ⟨_, .configured env _ _ _ _ (.hashesAdded eventId hashes), does⟩
  | proposeParameterChange proposer change =>
    refine commit_takes (proposeParameterChange_ensures.mono ?_)
    rintro _ next ⟨governs, _, does⟩
    exact ⟨_, .configured env _ _ _ _ (.proposed proposer change governs), does⟩
  | voteOnProposal voter id =>
    refine commit_takes (voteOnProposal_ensures.mono ?_)
    rintro _ next ⟨proposal, governs, of, does⟩
    exact ⟨_, .configured env _ _ _ _ (.voted voter id proposal governs of), does⟩
  | executeProposal executor id =>
    refine commit_takes (executeProposal_ensures.mono ?_)
    rintro _ next ⟨proposal, of, _, does⟩
    exact ⟨_, .configured env _ _ _ _ (.executed executor id proposal of), does⟩
  | proposeEscrowWithdrawal eventId amount =>
    refine commit_takes (proposeEscrowWithdrawal_ensures.mono ?_)
    rintro _ next ⟨organizer, initialized, does⟩
    exact ⟨_, .configured env _ _ _ _ (.escrowProposed eventId amount organizer initialized), does⟩
  | approveEscrowWithdrawal id =>
    refine commit_takes (approveEscrowWithdrawal_ensures.mono ?_)
    rintro _ next (does | ⟨admin, proposal, adminEq, of, does⟩)
    · exact ⟨_, .nothing _, does⟩
    · exact ⟨_, .configured env _ _ _ _ (.approved id admin proposal adminEq of), does⟩
  | executeEscrowWithdrawal id =>
    refine commit_takes (executeEscrowWithdrawal_ensures.mono ?_)
    rintro _ next ⟨proposal, stored, enough, does⟩
    exact ⟨_, .configured env _ _ _ _ (.escrowExecuted id proposal stored enough), does⟩
  | releaseMilestoneEscrow eventId =>
    have uninitialized : world.escrowState.get eventId = none := by rw [escrow, Store.get_empty]
    exact commit_takes ((releaseMilestoneEscrow_ensures uninitialized).mono fun _ _ => False.elim)

variable {paymentId : PaymentId} {path : RefundPath}

theorem refundVia_ensures :
    Ensures (refundVia env paymentId path) world fun _ next =>
      RefundOutcome env paymentId world next := by
  cases path with
  | guest => exact requestGuestRefund_ensures
  | admin => exact adminRefund_ensures
  | automatic => exact claimAutomaticRefund_ensures

theorem refundVia_takes :
    Takes world (.call env (.refund path paymentId))
      (commit (refundVia env paymentId path) world) := by
  refine commit_takes (refundVia_ensures.mono ?_)
  rintro _ next ⟨payment, event, refundable, found, undisputed, _, does⟩
  exact ⟨_, .refund env path paymentId payment event refundable found undisputed, does⟩

theorem callStep_takes (escrow : world.escrowState = .empty) (call : Call) :
    Takes world (.call env call) (callStep env world call) := by
  cases call with
  | configure call => exact configureStep_takes escrow call
  | processPayment purchase =>
    refine commit_takes (processPayment_ensures.mono ?_)
    rintro _ next ⟨sale, of, does, _⟩
    exact ⟨_, .sale env purchase sale of, does⟩
  | confirmPayment paymentId transactionHash =>
    refine commit_takes (confirmPayment_ensures.mono ?_)
    intro _ next does
    exact ⟨_, .confirm env paymentId transactionHash, does⟩
  | refund path paymentId => exact refundVia_takes
  | requestRefund ticketId =>
    exact commit_takes (requestRefund_ensures.mono fun _ _ => False.elim)
  | claimCancellationRefund paymentId =>
    refine commit_takes (claimCancellationRefund_ensures.mono ?_)
    rintro _ next ⟨payment, refundable, nonneg, does, _⟩
    exact ⟨_, .cancellationRefund env paymentId payment refundable nonneg, does⟩
  | triggerBulkRefund eventId batchSize =>
    refine commit_takes (triggerBulkRefund_ensures.mono ?_)
    rintro _ next ⟨does, nonneg⟩
    exact ⟨_, .bulkRefund env eventId batchSize nonneg, does⟩
  | issuePartialRefund eventId percentageBps batchSize =>
    refine commit_takes (issuePartialRefund_ensures.mono ?_)
    rintro _ next ⟨does, nonneg⟩
    exact ⟨_, .partialRefund env eventId percentageBps batchSize nonneg, does⟩
  | triggerDisputeRefundCascade eventId =>
    refine commit_takes (triggerDisputeRefundCascade_ensures.mono ?_)
    rintro _ next ⟨does, nonneg, resolved⟩
    exact ⟨_, .cascade env eventId nonneg resolved, does⟩
  | checkIn paymentId scanner rawSecret =>
    refine commit_takes (checkIn_ensures.mono ?_)
    rintro _ next ⟨payment, stored, unused, does⟩
    exact ⟨_, .checkIn env paymentId scanner rawSecret payment stored unused, does⟩
  | mintPoap paymentId =>
    refine commit_takes ((mintPoap_ensures host).mono ?_)
    rintro _ next ⟨attendee, unminted, does⟩
    exact ⟨_, .poap env paymentId attendee unminted, does⟩
  | transferTicket paymentId target salePrice =>
    refine commit_takes (transferTicket_ensures.mono ?_)
    rintro _ next ⟨payment, fee, of, does⟩
    exact ⟨_, .transfer env paymentId target salePrice payment fee of, does⟩
  | listForResale paymentId askPrice =>
    refine commit_takes (listForResale_ensures.mono ?_)
    rintro _ next ⟨payment, of, rfl⟩
    exact ⟨_, .listing env _ _ (.listed paymentId askPrice payment of), .withListing _⟩
  | cancelResaleListing paymentId =>
    refine commit_takes (cancelResaleListing_ensures.mono ?_)
    rintro _ next ⟨listing, stored, active, signed, does⟩
    exact ⟨_, .listing env _ _ (.cancelled paymentId listing stored active signed), does⟩
  | purchaseResaleTicket paymentId buyer maxPrice =>
    refine commit_takes (purchaseResaleTicket_ensures.mono ?_)
    rintro _ next ⟨listing, payment, token, royalty, of, _, does, _⟩
    exact ⟨_, .resale env paymentId buyer maxPrice listing payment token royalty of, does⟩
  | withdrawOrganizerFunds eventId token =>
    refine commit_takes (withdrawOrganizerFunds_ensures.mono ?_)
    rintro _ next ⟨⟨event, may⟩, amount, nonneg, bounded, does⟩
    exact ⟨_, .withdrawal env eventId token amount nonneg bounded event may, does⟩
  | claimRevenue eventId token =>
    refine commit_takes (claimRevenue_ensures.mono ?_)
    rintro _ next ⟨event, found, completed, undisputed, rfl, does⟩
    exact ⟨_, .claim env eventId token event found completed undisputed, does⟩
  | settlePlatformFees eventId =>
    refine commit_takes (settlePlatformFees_ensures.mono ?_)
    intro _ next does
    exact ⟨_, .settlement env eventId, does⟩
  | withdrawPlatformFees amount token =>
    refine commit_takes (withdrawPlatformFees_ensures.mono ?_)
    rintro _ next ⟨positive, covered, ⟨wallet, walletEq, does⟩, _⟩
    exact ⟨_, .feeWithdrawal env amount token wallet positive walletEq covered, does⟩
  | placeBid eventId tierId bid =>
    refine commit_takes (placeBid_ensures.mono ?_)
    rintro _ next ⟨outside, nonneg, ⟨event, config, of⟩, does, _⟩
    exact ⟨_, .bid env eventId tierId bid outside nonneg event config of, does⟩
  | closeAuction paymentId eventId tierId =>
    refine commit_takes (closeAuction_ensures.mono ?_)
    rintro _ next ⟨event, bid, fee, of, ⟨config, ended⟩, _, does, _⟩
    exact ⟨_, .closing env paymentId eventId tierId event bid fee of config ended, does⟩

/-- Every step has one of the effects of its action. -/
theorem step_takes (escrow : world.escrowState = .empty) (action : Action host Registry) :
    Takes world action (step world action) := by
  cases action with
  | call env call => exact callStep_takes escrow call
  | registry next => exact ⟨_, .registry next, .withRegistry next⟩
  | tokens move => exact tokenStep_takes

end Agora.TicketPayment

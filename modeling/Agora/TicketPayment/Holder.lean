/-
This file models what happens to a ticket between its sale and a refund: the
confirmation of the payment, the check-in, the attendance token, and the transfer to
another holder.

The confirmation rewrites whatever record is stored under the id. The check-in
refuses only tickets that are checked in already, and writes the record without
moving it in the status index.
-/

import Agora.TicketPayment.Change

namespace Agora.TicketPayment

open Soroban

variable {Registry : Type} [RegistryApi Registry] {host : Host}

/-! ### Confirmation -/

def Payment.confirmed (payment : Payment) (timestamp : Nat) (transactionHash : String) :
    Payment :=
  { payment with
    status := .confirmed
    confirmedAt := some timestamp
    transactionHash := transactionHash }

/-- An unknown id is confirmed without effect. -/
def confirmTickets (timestamp : Nat) (paymentId : PaymentId) (transactionHash : String)
    (tickets : Tickets) : Tickets :=
  match tickets.getPayment paymentId with
  | none => tickets
  | some payment =>
    (tickets.setPayment paymentId (payment.confirmed timestamp transactionHash)).reindexStatus
      payment.eventId payment.status .confirmed paymentId

variable {env : Env host} {world : World Registry} {paymentId : PaymentId}
  {transactionHash : String}

variable (timestamp : Nat) (id other : PaymentId) (hash : String) (payment : Payment)
  (tickets : Tickets)

theorem getPayment_confirmTickets :
    (confirmTickets timestamp id hash tickets).getPayment other =
      if other = id then (tickets.getPayment id).map (·.confirmed timestamp hash)
      else tickets.getPayment other := by
  unfold confirmTickets
  cases stored : tickets.getPayment id with
  | none =>
    by_cases same : other = id
    · rw [if_pos same, same]
      exact stored
    · rw [if_neg same]
  | some payment =>
    simp [Tickets.getPayment_setPayment]

def confirmPayment (env : Env host) (paymentId : PaymentId) (transactionHash : String) :
    Entry Registry Unit := do
  requireInitialized
  let world ← get
  let admin ← orFault world.settings.admin (.panic "Admin not set")
  requireAuth env admin
  modify (·.withTickets (confirmTickets env.timestamp paymentId transactionHash))

omit [RegistryApi Registry] in
theorem confirmPayment_ensures :
    Ensures (confirmPayment env paymentId transactionHash) world fun _ next =>
      Does host { tickets := confirmTickets env.timestamp paymentId transactionHash } world
        next := by
  simp only [confirmPayment, ensures_rules, ensures_checks]
  intro _ _ _ _
  exact .withTickets _

/-! ### Check-in -/

def Payment.checkedIn (payment : Payment) (timestamp : Nat) : Payment :=
  { payment with status := .checkedIn, lastCheckedInAt := timestamp }

/-- The record is written, and the attendance token minted unless it was before. -/
def checkInTickets (timestamp : Nat) (paymentId : PaymentId) (payment : Payment)
    (tickets : Tickets) : Tickets :=
  let written := tickets.storePayment (payment.checkedIn timestamp)
  if written.isPoapMinted paymentId then written
  else written.markPoapMinted paymentId payment.buyerAddress

theorem getPayment_checkInTickets :
    (checkInTickets timestamp id payment tickets).getPayment other =
      if other = payment.paymentId then some (payment.checkedIn timestamp)
      else tickets.getPayment other := by
  rw [checkInTickets]
  split
  · exact Tickets.getPayment_storePayment tickets other (payment.checkedIn timestamp)
  · rw [Tickets.getPayment_markPoapMinted]
    exact Tickets.getPayment_storePayment tickets other (payment.checkedIn timestamp)

def checkIn (env : Env host) (paymentId : PaymentId) (scanner : Address) (rawSecret : Bytes) :
    Entry Registry Unit := do
  requireInitialized
  requireNotPaused
  let payment ← getPayment paymentId
  requireAuth env scanner
  require (payment.status ≠ .checkedIn) (.error .ticketAlreadyUsed)
  let world ← get
  require (world.tickets.verifySecret host paymentId rawSecret = true) (.error .invalidSecret)
  let event ← getEvent payment.eventId
  require (scanner = event.organizerAddress ∨
      RegistryApi.isScannerAuthorized world.registry payment.eventId scanner = true)
    (.error .unauthorizedScanner)
  require (event.endTime = 0 ∨ env.timestamp ≤ event.endTime) (.error .eventEnded)
  modify (·.withTickets (checkInTickets env.timestamp paymentId payment))

theorem checkIn_ensures {scanner : Address} {rawSecret : Bytes} :
    Ensures (checkIn env paymentId scanner rawSecret) world fun _ next => ∃ payment,
      world.tickets.getPayment paymentId = some payment ∧ payment.status ≠ .checkedIn ∧
        Does host { tickets := checkInTickets env.timestamp paymentId payment } world next := by
  simp only [checkIn, ensures_rules, ensures_checks, ensures_getEvent]
  intro _ _ payment stored _ unused _ _ _ _ _ _
  exact ⟨payment, stored, unused, .withTickets _⟩

def mintPoap (paymentId : PaymentId) : Entry Registry Unit := do
  let world ← get
  require (world.settings.initialized = true) (.error .notInitialized)
  requireNotPaused
  let payment ← getPayment paymentId
  require (payment.status = .checkedIn) (.error .invalidPaymentStatus)
  require (world.tickets.isPoapMinted paymentId = false) (.error .ticketAlreadyUsed)
  modify (·.withTickets fun tickets => tickets.markPoapMinted paymentId payment.buyerAddress)

omit [RegistryApi Registry] in
theorem mintPoap_ensures (host : Host) :
    Ensures (mintPoap paymentId) world fun _ next => ∃ attendee,
      world.tickets.isPoapMinted paymentId = false ∧
        Does host { tickets := fun tickets => tickets.markPoapMinted paymentId attendee } world
          next := by
  simp only [mintPoap, ensures_rules, ensures_checks]
  intro _ _ payment _ _ unminted
  exact ⟨payment.buyerAddress, unminted, .withTickets _⟩

/-! ### Transfers -/

/-- A price must not exceed the tier's price by more than the event's resale cap. -/
def requireResaleCap (event : EventInfo) (tierId : TierId) (price : Int) :
    Entry Registry Unit :=
  match event.resaleCapBps with
  | none => pure ()
  | some capBps => do
    let tier ← orFault (event.tiers tierId) (.error .tierNotFound)
    let maxPrice ← checked (mulDiv tier.price (maxBps + capBps) maxBps)
    require (price ≤ maxPrice) (.error .resalePriceExceedsCap)

def checkSalePrice (payment : Payment) (salePrice : Option Int) : Entry Registry Unit :=
  match salePrice with
  | none => pure ()
  | some price => do
    let event ← getEvent payment.eventId
    requireResaleCap event payment.ticketTierId price

/-- The fee on a transfer, a share of the price of the ticket. -/
def transferFeeOf (settings : Settings) (payment : Payment) : Option Int :=
  let bps := (settings.transferFee.get payment.eventId).getD transferFeeBps
  if 0 < bps then mulDiv payment.amount bps maxBps else some 0

/-- The fee goes to the organizer's amount, and to no escrow counter. -/
def takeTransferFee (host : Host) (payment : Payment) (fee : Int) : Entry Registry Unit :=
  if 0 < fee then do
    pullIn host payment.tokenAddress payment.buyerAddress fee
      [.received payment.eventId payment.tokenAddress]
    updateEventBalance payment.eventId fee 0
  else pure ()

/-- The ticket changes hands. -/
def handOver (paymentId : PaymentId) (payment : Payment) (seller buyer : Address)
    (tickets : Tickets) : Tickets :=
  (tickets.setPayment paymentId { payment with buyerAddress := buyer }).reindexBuyer seller buyer
    paymentId

theorem getPayment_handOver (seller buyer : Address) (tickets : Tickets) :
    (handOver id payment seller buyer tickets).getPayment other =
      if other = id then some { payment with buyerAddress := buyer }
      else tickets.getPayment other := rfl

def transferTicket (env : Env host) (paymentId : PaymentId) (target : Address)
    (salePrice : Option Int) : Entry Registry Unit := do
  requireInitialized
  requireNotPaused
  let payment ← getPayment paymentId
  require (payment.status = .confirmed) (.error .invalidPaymentStatus)
  require (payment.isSoulbound = false) (.error .nonTransferable)
  requireAuth env payment.buyerAddress
  require (payment.buyerAddress ≠ target) (.error .invalidAddress)
  validateRecipient host target
  checkSalePrice payment salePrice
  let world ← get
  let fee ← checked (transferFeeOf world.settings payment)
  takeTransferFee host payment fee
  modify (·.withTickets (handOver paymentId payment payment.buyerAddress target))

/-- The postings of a transfer. A fee that is not positive is not taken. -/
@[simp]
def transferLines (payment : Payment) (fee : Int) : List (Posting Account) :=
  (.held payment.tokenAddress, max fee 0) ::
    (World.noted [.received payment.eventId payment.tokenAddress] (max fee 0) ++
      [(.organizer payment.eventId, max fee 0), (.withdrawn payment.eventId, 0),
        (.platform payment.eventId, 0)])

@[simp]
def transferChange (paymentId : PaymentId) (payment : Payment) (target : Address) (fee : Int) :
    Change where
  lines := transferLines payment fee
  tickets := handOver paymentId payment payment.buyerAddress target

omit [RegistryApi Registry] in
theorem requireResaleCap_ensures {event : EventInfo} {tierId : TierId} {price : Int} :
    Ensures (requireResaleCap event tierId price) world fun _ next => next = world := by
  cases cap : event.resaleCapBps with
  | none => simp only [requireResaleCap, cap, ensures_pure]
  | some capBps =>
    simp [requireResaleCap, cap, checked, ensures_rules]

variable {salePrice : Option Int} {payment}

theorem checkSalePrice_ensures :
    Ensures (checkSalePrice payment salePrice) world fun _ next => next = world := by
  cases salePrice with
  | none => simp only [checkSalePrice, ensures_pure]
  | some price =>
    simp only [checkSalePrice, ensures_bind, ensures_getEvent]
    intro _ event _
    exact requireResaleCap_ensures

omit [RegistryApi Registry] in
theorem takeTransferFee_ensures {fee : Int} (outside : payment.buyerAddress ≠ host.contract) :
    Ensures (takeTransferFee host payment fee) world fun _ next =>
      Does host (.posting (transferLines payment fee)) world next := by
  simp only [takeTransferFee, ensures_rules, ensures_pullIn, ensures_updateEventBalance]
  refine ⟨fun positive _ _ _ _ => ?_, fun notPositive => ?_⟩
  · rw [transferLines, max_eq_left positive.le]
    exact (Does.pull_outside outside payment.tokenAddress fee
      [.received payment.eventId payment.tokenAddress]).trans_posting
      (.creditEvent payment.eventId fee 0)
  · refine (Does.refl world).congr_lines fun account => ?_
    rw [transferLines, max_eq_right (not_lt.mp notPositive)]
    simp [Change.nothing]

/-- The record, the parties and the fee of a successful transfer. -/
structure TransferOf (env : Env host) (world : World Registry) (paymentId : PaymentId)
    (target : Address) (payment : Payment) (fee : Int) : Prop where
  stored : world.tickets.getPayment paymentId = some payment
  confirmed : payment.status = .confirmed
  signed : env.signed payment.buyerAddress = true
  outside : target ≠ host.contract
  feeEq : transferFeeOf world.settings payment = some fee

theorem transferTicket_ensures {target : Address} :
    Ensures (transferTicket env paymentId target salePrice) world fun _ next =>
      ∃ payment fee, TransferOf env world paymentId target payment fee ∧
        Does host (transferChange paymentId payment target fee) world next := by
  simp only [transferTicket, validateRecipient, checked, ensures_bind, ensures_get, ensures_checks,
    ensures_require]
  intro _ _ payment stored confirmed _ signed _ valid
  refine checkSalePrice_ensures.mono ?_
  rintro _ _ rfl
  simp only [ensures_orFault]
  intro fee feeEq
  refine (takeTransferFee_ensures (ne_contract_of_signed env signed)).mono ?_
  intro _ paid paidDoes
  rw [ensures_modify]
  exact ⟨payment, fee, ⟨stored, confirmed, signed, fun own => valid (.inl own), feeEq⟩,
    paidDoes.posting_then_tickets (.withTickets _)⟩

end Agora.TicketPayment

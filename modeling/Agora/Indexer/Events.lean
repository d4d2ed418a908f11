/-
This file models a contract event as the indexer reads it, and what a final event does to
the application tables.

A purchase inserts a ticket, a refund revokes the ticket and every ticket of its event, a
transfer names a new owner, and staking or unstaking collateral sets the flag of an
organizer. An update of a row that does not exist does nothing. The only statement that can
fail is the insertion of a ticket: its event must be a UUID and must exist.

The texts of the payload are read by their names, as the source reads the normalised JSON
value. How a text is read as a UUID is left open: the database casts it in a purchase, and
the server parses it in a refund.
-/

import Mathlib.Logic.Function.Basic

namespace Agora.Indexer

/-! ### Events -/

/-- The kinds of contract events that the indexer tells apart. -/
inductive EventKind where
  | registerEvent
  | processPurchase
  | refund
  | transferTicket
  | eventStatusUpdate
  | collateralStaked
  | collateralUnstaked
  | unhandled
  deriving DecidableEq, Repr

def eventKindForTopic (topic : String) : EventKind :=
  match topic with
  | "EventRegistered" | "register_event" | "event_registered" => .registerEvent
  | "PaymentProcessed" | "process_purchase" | "purchase_confirmed" | "ticket_purchased" =>
    .processPurchase
  | "BulkRefundProcessed" | "PartialRefundProcessed" | "CancellationRefundClaimed" | "refund"
  | "ticket_refunded" => .refund
  | "TicketTransferred" | "transfer_ticket" => .transferTicket
  | "EventStatusUpdated" | "event_status_updated" | "event_cancelled" => .eventStatusUpdate
  | "CollateralStaked" | "collateral_staked" | "CollateralUnstaked" | "collateral_unstaked" =>
    if topic.startsWith "CollateralUn" || topic.startsWith "collateral_un" then
      .collateralUnstaked
    else .collateralStaked
  | _ => .unhandled

/-- A contract event: its id is the cursor of the node and the key of the buffer, and the value
has the texts of the payload by their names. -/
structure Event where
  id : String
  ledger : Nat
  contractId : String
  topicName : String
  value : List (String × String)
  deriving DecidableEq, Repr

/-- An event together with the chain head that its page reported. -/
structure IndexedEvent where
  event : Event
  latestLedger : Nat
  deriving DecidableEq, Repr

structure PurchasePayload where
  paymentId : String
  eventId : String
  buyer : Option String
  owner : Option String

structure RefundPayload where
  paymentId : String
  eventId : String

structure TransferPayload where
  paymentId : String
  toAddress : Option String

namespace Event

def kind (event : Event) : EventKind :=
  eventKindForTopic event.topicName

/-- The text of a field of the payload. -/
def text (event : Event) (field : String) : Option String :=
  event.value.lookup field

def asPurchase (event : Event) : PurchasePayload where
  paymentId := (event.text "payment_id").getD ""
  eventId := (event.text "event_id").getD ""
  buyer := event.text "buyer"
  owner := event.text "owner"

def asRefund (event : Event) : RefundPayload where
  paymentId :=
    match event.text "payment_id" with
    | some paymentId => paymentId
    | none => (event.text "stellar_id").getD ""
  eventId := (event.text "event_id").getD ""

def asTransfer (event : Event) : TransferPayload where
  paymentId := (event.text "payment_id").getD ""
  toAddress := event.text "to"

end Event

/-! ### The application tables -/

abbrev Uuid := BitVec 128

/-- How texts are read as UUIDs: by the cast of the database, and by the server. -/
structure UuidSyntax where
  cast : String → Option Uuid
  parseStr : String → Option Uuid

section Hyphenated

def hexDigit (char : Char) : Option Nat :=
  if char.isDigit then some (char.toNat - '0'.toNat)
  else if 'a' ≤ char ∧ char ≤ 'f' then some (char.toNat - 'a'.toNat + 10)
  else if 'A' ≤ char ∧ char ≤ 'F' then some (char.toNat - 'A'.toNat + 10)
  else none

/-- The form in groups of 8, 4, 4, 4 and 12 digits, which is read in the same way everywhere. -/
def parseHyphenated (text : String) : Option Uuid :=
  let chars := text.toList
  if chars.length = 36 ∧ [8, 13, 18, 23].all (fun place => chars[place]? == some '-') then
    ((chars.filter (· != '-')).foldlM (fun value char => (hexDigit char).map (16 * value + ·))
      0).map (BitVec.ofNat 128)
  else none

def UuidSyntax.hyphenated : UuidSyntax := ⟨parseHyphenated, parseHyphenated⟩

end Hyphenated

/-- A ticket that came from the chain is known by its `stellar_id`, which is unique; the others
have none and are known by their own id. -/
inductive TicketKey where
  | stellar (id : String)
  | platform (id : Uuid)
  deriving DecidableEq, Repr

inductive TicketStatus where
  | unused
  | revoked
  | other (text : String)
  deriving DecidableEq, Repr

structure Ticket where
  eventId : Option Uuid
  buyerWallet : Option String
  ownerWallet : Option String
  status : TicketStatus
  deriving DecidableEq, Repr

structure Organizer where
  walletAddress : Option String
  isVerified : Bool
  deriving DecidableEq, Repr

@[ext]
structure Tables where
  tickets : TicketKey → Option Ticket
  organizers : Uuid → Option Organizer
  events : Uuid → Bool

namespace Tables

def empty : Tables := ⟨fun _ => none, fun _ => none, fun _ => false⟩

/-- `INSERT INTO tickets … ON CONFLICT (stellar_id) DO NOTHING`. The foreign key is checked for a
row that is inserted. -/
def insertTicket (tables : Tables) (stellarId : String) (eventId : Uuid)
    (buyer owner : Option String) : Option Tables :=
  match tables.tickets (.stellar stellarId) with
  | some _ => some tables
  | none =>
    if tables.events eventId = true then
      some { tables with
        tickets := Function.update tables.tickets (.stellar stellarId)
          (some ⟨some eventId, buyer, owner, .unused⟩) }
    else none

/-- `UPDATE tickets …` of the rows that meet the condition. -/
def updateTickets (tables : Tables) (condition : TicketKey → Ticket → Bool)
    (update : Ticket → Ticket) : Tables :=
  { tables with
    tickets := fun key => (tables.tickets key).map fun ticket =>
      if condition key ticket then update ticket else ticket }

/-- `UPDATE organizers SET is_verified = …` of the rows with the wallet. -/
def setVerified (tables : Tables) (wallet : String) (verified : Bool) : Tables :=
  { tables with
    organizers := fun id => (tables.organizers id).map fun organizer =>
      if organizer.walletAddress = some wallet then { organizer with isVerified := verified }
      else organizer }

end Tables

/-- A comparison with a missing value is not true. -/
def Ticket.isOf (ticket : Ticket) (eventId : Option Uuid) : Bool :=
  eventId.isSome && ticket.eventId == eventId

/-! ### State application -/

/-- What the indexer is configured with. -/
structure Config where
  ticketPaymentContractId : String
  eventRegistryContractId : String
  startLedger : Nat
  windowLedgers : Nat
  confirmations : Nat

/-- How many ledgers back the window of the buffer spans. -/
def DEFAULT_WINDOW_LEDGERS : Nat := 100

/-- The depth at which an event is final. -/
def DEFAULT_CONFIRMATIONS : Nat := 2

/-- The configuration where nothing but the contracts is set. -/
def Config.fromEnv (ticketPaymentContractId eventRegistryContractId : String) : Config where
  ticketPaymentContractId := ticketPaymentContractId
  eventRegistryContractId := eventRegistryContractId
  startLedger := 0
  windowLedgers := DEFAULT_WINDOW_LEDGERS
  confirmations := DEFAULT_CONFIRMATIONS

def Config.twoContracts : Config := .fromEnv "ticket_payment" "event_registry"

section Apply

variable (uuids : UuidSyntax) (config : Config) (event : Event) (tables : Tables)

def applyPurchase : Option Tables :=
  let payload := event.asPurchase
  let stellarId := if payload.paymentId = "" then event.id else payload.paymentId
  if payload.eventId = "" then some tables
  else
    let owner := payload.owner.or payload.buyer
    (uuids.cast payload.eventId).bind fun eventId =>
      tables.insertTicket stellarId eventId payload.buyer owner

def applyRefund : Tables :=
  let payload := event.asRefund
  let stellarId := if payload.paymentId = "" then event.id else payload.paymentId
  let eventUuid := uuids.parseStr payload.eventId
  tables.updateTickets
    (fun key ticket => key == .stellar stellarId ||
      ticket.isOf eventUuid && ticket.status != .revoked)
    fun ticket => { ticket with status := .revoked }

def applyTransfer : Tables :=
  let payload := event.asTransfer
  if payload.paymentId = "" ∨ payload.toAddress = none then tables
  else
    tables.updateTickets (fun key _ => key == .stellar payload.paymentId)
      fun ticket => { ticket with ownerWallet := payload.toAddress }

def applyCollateral (verified : Bool) : Tables :=
  let organizer := (event.text "organizer").getD ""
  if organizer ≠ "" then tables.setVerified organizer verified else tables

/-- `apply_event_state`; nothing is the error of a statement. A registration and a change of
status touch no column of these tables. -/
def applyEventState : Option Tables :=
  if event.contractId = config.ticketPaymentContractId then
    match event.kind with
    | .processPurchase => applyPurchase uuids event tables
    | .refund => some (applyRefund uuids event tables)
    | .transferTicket => some (applyTransfer event tables)
    | _ => some tables
  else if event.contractId = config.eventRegistryContractId then
    match event.kind with
    | .registerEvent => some tables
    | .eventStatusUpdate => some tables
    | .collateralStaked => some (applyCollateral event tables true)
    | .collateralUnstaked => some (applyCollateral event tables false)
    | _ => some tables
  else some tables

end Apply

end Agora.Indexer

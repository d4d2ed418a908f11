/-
This file brings state application to a normal form: every event has one of six effects on
the application tables, and every effect acts on each row by itself.

From the normal form follow when two effects commute and that every effect is idempotent.
Two effects conflict when they write the same column of the same row in different ways, or
when one of them creates a ticket that the other one updates.
-/

import Agora.Indexer.Events
import Agora.Lib.Commute

namespace Agora.Indexer

/-- What an event does to the application tables. An invalid one has no UUID where the table
needs one. -/
inductive Effect where
  | nothing
  | invalid
  | create (stellarId : String) (eventId : Uuid) (buyer owner : Option String)
  | revoke (stellarId : String) (eventId : Option Uuid)
  | assign (stellarId owner : String)
  | verify (wallet : String) (verified : Bool)
  deriving DecidableEq, Repr

namespace Effect

def run : Effect → Tables → Option Tables
  | .nothing, tables => some tables
  | .invalid, _ => none
  | .create stellarId eventId buyer owner, tables =>
    tables.insertTicket stellarId eventId buyer owner
  | .revoke stellarId eventId, tables =>
    some (tables.updateTickets
      (fun key ticket => key == .stellar stellarId ||
        ticket.isOf eventId && ticket.status != .revoked)
      fun ticket => { ticket with status := .revoked })
  | .assign stellarId owner, tables =>
    some (tables.updateTickets (fun key _ => key == .stellar stellarId)
      fun ticket => { ticket with ownerWallet := some owner })
  | .verify wallet verified, tables => some (tables.setVerified wallet verified)

/-- What is left of the tables whether the effect fails or not. -/
def act (effect : Effect) (tables : Tables) : Tables :=
  (effect.run tables).getD tables

end Effect

/-! ### The effect of an event -/

section EffectOf

variable (uuids : UuidSyntax) (config : Config) (event : Event)

def purchaseEffect : Effect :=
  let payload := event.asPurchase
  if payload.eventId = "" then .nothing
  else
    match uuids.cast payload.eventId with
    | none => .invalid
    | some eventId =>
      .create (if payload.paymentId = "" then event.id else payload.paymentId) eventId
        payload.buyer (payload.owner.or payload.buyer)

def refundEffect : Effect :=
  let payload := event.asRefund
  .revoke (if payload.paymentId = "" then event.id else payload.paymentId)
    (uuids.parseStr payload.eventId)

def transferEffect : Effect :=
  let payload := event.asTransfer
  match payload.toAddress with
  | none => .nothing
  | some owner => if payload.paymentId = "" then .nothing else .assign payload.paymentId owner

def collateralEffect (verified : Bool) : Effect :=
  let organizer := (event.text "organizer").getD ""
  if organizer ≠ "" then .verify organizer verified else .nothing

def effectOf : Effect :=
  if event.contractId = config.ticketPaymentContractId then
    match event.kind with
    | .processPurchase => purchaseEffect uuids event
    | .refund => refundEffect uuids event
    | .transferTicket => transferEffect event
    | _ => .nothing
  else if event.contractId = config.eventRegistryContractId then
    match event.kind with
    | .collateralStaked => collateralEffect event true
    | .collateralUnstaked => collateralEffect event false
    | _ => .nothing
  else .nothing

variable (tables : Tables)

theorem applyPurchase_eq_run :
    applyPurchase uuids event tables = (purchaseEffect uuids event).run tables := by
  unfold applyPurchase purchaseEffect
  dsimp only
  split
  · rfl
  · cases uuids.cast event.asPurchase.eventId with
    | none => rfl
    | some eventId => rfl

theorem applyTransfer_eq_run :
    some (applyTransfer event tables) = (transferEffect event).run tables := by
  unfold applyTransfer transferEffect
  dsimp only
  cases named : event.asTransfer.toAddress with
  | none => rw [if_pos (.inr rfl)]; rfl
  | some owner =>
    by_cases unnamed : event.asTransfer.paymentId = ""
    · simp only [unnamed, true_or, if_true]
      rfl
    · simp only [unnamed, reduceCtorEq, or_self, if_false]
      rfl

theorem applyCollateral_eq_run {verified : Bool} :
    some (applyCollateral event tables verified) =
      (collateralEffect event verified).run tables := by
  unfold applyCollateral collateralEffect
  dsimp only
  split
  · rfl
  · rfl

/-- State application runs the effect of the event. -/
theorem applyEventState_eq_run :
    applyEventState uuids config event tables = (effectOf uuids config event).run tables := by
  unfold applyEventState effectOf
  split
  · cases event.kind with
    | processPurchase => exact applyPurchase_eq_run uuids event tables
    | transferTicket => exact applyTransfer_eq_run event tables
    | _ => rfl
  · split
    · cases event.kind with
      | collateralStaked => exact applyCollateral_eq_run event tables
      | collateralUnstaked => exact applyCollateral_eq_run event tables
      | _ => rfl
    · rfl

/-- A purchase that names its event by a text that is no UUID cannot be applied to any tables. -/
theorem applyEventState_of_no_uuid (contract : event.contractId = config.ticketPaymentContractId)
    (purchase : event.kind = .processPurchase) (named : event.asPurchase.eventId ≠ "")
    (unreadable : uuids.cast event.asPurchase.eventId = none) :
    applyEventState uuids config event tables = none := by
  simp [applyEventState, if_pos contract, purchase, applyPurchase, if_neg named, unreadable]

/-- Only a purchase can fail. -/
theorem applyEventState_isSome (other : event.kind ≠ .processPurchase) :
    (applyEventState uuids config event tables).isSome = true := by
  unfold applyEventState
  split
  · split
    · exact absurd ‹_› other
    · rfl
    · rfl
    · rfl
  · split
    · split
      · rfl
      · rfl
      · rfl
      · rfl
      · rfl
    · rfl

/-- There is nothing to apply for an event of no known kind. -/
theorem effectOf_of_unhandled (unhandled : event.kind = .unhandled) :
    effectOf uuids config event = .nothing := by
  unfold effectOf
  rw [unhandled]
  split
  · rfl
  · split
    · rfl
    · rfl

end EffectOf

/-! ### Effects on rows -/

namespace Effect

/-- What an effect does to a ticket that exists. -/
def update (key : TicketKey) : Effect → Ticket → Ticket
  | .revoke stellarId eventId, ticket =>
    if key = .stellar stellarId ∨ ticket.isOf eventId = true then { ticket with status := .revoked }
    else ticket
  | .assign stellarId owner, ticket =>
    if key = .stellar stellarId then { ticket with ownerWallet := some owner } else ticket
  | _, ticket => ticket

/-- The ticket that an effect inserts where there is none. -/
def creation (events : Uuid → Bool) (key : TicketKey) : Effect → Option Ticket
  | .create stellarId eventId buyer owner =>
    if key = .stellar stellarId ∧ events eventId = true then
      some ⟨some eventId, buyer, owner, .unused⟩
    else none
  | _ => none

/-- What an effect does under the key of a ticket. -/
def onTicket (events : Uuid → Bool) (key : TicketKey) (effect : Effect) :
    Option Ticket → Option Ticket
  | some ticket => some (effect.update key ticket)
  | none => effect.creation events key

/-- What an effect does to an organizer. -/
def onOrganizer : Effect → Organizer → Organizer
  | .verify wallet verified, organizer =>
    if organizer.walletAddress = some wallet then { organizer with isVerified := verified }
    else organizer
  | _, organizer => organizer

section Rows

variable (effect : Effect) (tables : Tables)

/-- A ticket is inserted where there is none and its event exists. -/
theorem act_create (stellarId : String) (eventId : Uuid) (buyer owner : Option String) :
    (create stellarId eventId buyer owner).act tables =
      if tables.tickets (.stellar stellarId) = none ∧ tables.events eventId = true then
        { tables with
          tickets := Function.update tables.tickets (.stellar stellarId)
            (some ⟨some eventId, buyer, owner, .unused⟩) }
      else tables := by
  simp only [act, run, Tables.insertTicket]
  cases tables.tickets (.stellar stellarId) with
  | some ticket => rfl
  | none =>
    by_cases known : tables.events eventId = true
    · simp [known]
    · simp [known]

theorem act_events : (effect.act tables).events = tables.events := by
  cases effect with
  | create stellarId eventId buyer owner =>
    rw [act_create]
    split
    · rfl
    · rfl
  | _ => rfl

theorem act_organizers (id : Uuid) :
    (effect.act tables).organizers id = (tables.organizers id).map effect.onOrganizer := by
  cases effect with
  | verify wallet verified => rfl
  | create stellarId eventId buyer owner =>
    refine Eq.trans ?_ Option.map_id'.symm
    rw [act_create]
    split
    · rfl
    · rfl
  | _ => exact Option.map_id'.symm

theorem act_tickets (key : TicketKey) :
    (effect.act tables).tickets key = effect.onTicket tables.events key (tables.tickets key) := by
  cases effect with
  | create stellarId eventId buyer owner =>
    rw [act_create]
    by_cases same : key = .stellar stellarId
    · subst same
      cases found : tables.tickets (.stellar stellarId) with
      | some ticket => simp [onTicket, update, found]
      | none =>
        by_cases known : tables.events eventId = true
        · simp [onTicket, creation, known]
        · simp [onTicket, creation, known, found]
    · have kept : (create stellarId eventId buyer owner).onTicket tables.events key
          (tables.tickets key) = tables.tickets key := by
        cases tables.tickets key with
        | some ticket => rfl
        | none => exact if_neg fun both => same both.1
      rw [kept]
      split
      · exact Function.update_of_ne same _ _
      · rfl
  | revoke stellarId eventId =>
    simp only [act, run, Option.getD_some, Tables.updateTickets]
    cases tables.tickets key with
    | none => rfl
    | some ticket =>
      obtain ⟨event, buyer, owner, status⟩ := ticket
      simp only [Option.map_some, onTicket, update]
      by_cases revoked : status = .revoked
      · simp [revoked]
      · simp [revoked]
  | assign stellarId owner =>
    simp only [act, run, Option.getD_some, Tables.updateTickets, beq_iff_eq]
    cases tables.tickets key with
    | none => rfl
    | some ticket => rfl
  | _ =>
    show tables.tickets key = _
    cases tables.tickets key with
    | none => rfl
    | some ticket => rfl

end Rows

/-! Effects in a row act on each row in a row. -/

variable (effects : List Effect)

theorem performAll_tickets (tables : Tables) (key : TicketKey) :
    (performAll act effects tables).tickets key =
      performAll (onTicket tables.events key) effects (tables.tickets key) := by
  induction effects generalizing tables with
  | nil => rfl
  | cons effect rest inductionHypothesis =>
    rw [performAll_cons, inductionHypothesis, act_events, act_tickets, performAll_cons]

theorem performAll_organizers (tables : Tables) (id : Uuid) :
    (performAll act effects tables).organizers id =
      (tables.organizers id).map (performAll onOrganizer effects) := by
  induction effects generalizing tables with
  | nil => exact Option.map_id'.symm
  | cons effect rest inductionHypothesis =>
    rw [performAll_cons, inductionHypothesis, act_organizers, Option.map_map]
    rfl

theorem performAll_events (tables : Tables) :
    (performAll act effects tables).events = tables.events := by
  induction effects generalizing tables with
  | nil => rfl
  | cons effect rest inductionHypothesis =>
    rw [performAll_cons, inductionHypothesis, act_events]

/-! ### Conflicts -/

/-- The order of the two effects can matter. -/
def conflicts : Effect → Effect → Bool
  | .create stellarId eventId buyer owner, .create other otherEvent otherBuyer otherOwner =>
    stellarId == other && !(eventId == otherEvent && buyer == otherBuyer && owner == otherOwner)
  | .create stellarId eventId _ _, .revoke other otherEvent =>
    stellarId == other || otherEvent == some eventId
  | .revoke other otherEvent, .create stellarId eventId _ _ =>
    stellarId == other || otherEvent == some eventId
  | .create stellarId _ _ owner, .assign other otherOwner =>
    stellarId == other && owner != some otherOwner
  | .assign other otherOwner, .create stellarId _ _ owner =>
    stellarId == other && owner != some otherOwner
  | .assign stellarId owner, .assign other otherOwner => stellarId == other && owner != otherOwner
  | .verify wallet verified, .verify other otherVerified =>
    wallet == other && verified != otherVerified
  | _, _ => false

section Commute

variable {first second : Effect}

theorem conflicts_comm {first second : Effect} :
    first.conflicts second = second.conflicts first := by
  cases first with
  | create stellarId eventId buyer owner =>
    cases second with
    | create other otherEvent otherBuyer otherOwner =>
      rw [conflicts, conflicts, BEq.comm (a := stellarId), BEq.comm (a := eventId),
        BEq.comm (a := buyer), BEq.comm (a := owner)]
    | _ => rfl
  | assign | verify => cases second <;> grind [conflicts]
  | _ => cases second <;> rfl

variable (apart : first.conflicts second = false)

include apart

/-- Without a conflict the updates of a ticket commute. -/
theorem update_commute (key : TicketKey) :
    Function.Commute (first.update key) (second.update key) := by
  intro ticket
  cases first with
  | revoke stellarId eventId =>
    cases second with
    | revoke other otherEvent =>
      simp only [update, Ticket.isOf]
      grind
    | assign other otherOwner =>
      simp only [update, Ticket.isOf]
      grind
    | _ => rfl
  | assign stellarId owner =>
    cases second with
    | revoke other otherEvent =>
      simp only [update, Ticket.isOf]
      grind
    | assign other otherOwner =>
      simp only [conflicts] at apart
      simp only [update]
      grind
    | _ => rfl
  | _ => rfl

variable {events : Uuid → Bool} {key : TicketKey}

/-- Without a conflict a new ticket is left alone, and is inserted by no other effect. -/
theorem creation_alone {ticket : Ticket} (created : first.creation events key = some ticket) :
    second.update key ticket = ticket ∧
      (second.creation events key = none ∨ second.creation events key = some ticket) := by
  cases first with
  | create stellarId eventId buyer owner =>
    simp only [creation, Option.ite_none_right_eq_some, Option.some.injEq] at created
    obtain ⟨⟨rfl, known⟩, rfl⟩ := created
    cases second with
    | create other otherEvent otherBuyer otherOwner =>
      simp only [conflicts] at apart
      simp only [update, creation]
      grind
    | revoke other otherEvent =>
      simp only [conflicts] at apart
      simp only [update, creation, Ticket.isOf]
      grind
    | assign other otherOwner =>
      simp only [conflicts] at apart
      simp only [update, creation]
      grind
    | _ => exact ⟨rfl, .inl rfl⟩
  | _ => cases created

theorem onTicket_commute :
    Function.Commute (first.onTicket events key) (second.onTicket events key) := by
  intro ticket
  cases ticket with
  | some ticket => exact congrArg some (update_commute apart key ticket)
  | none =>
    show first.onTicket events key (second.creation events key) =
      second.onTicket events key (first.creation events key)
    have reversed : second.conflicts first = false := conflicts_comm ▸ apart
    cases one : first.creation events key with
    | some ticket =>
      obtain ⟨kept, absent | same⟩ := creation_alone apart one
      · rw [absent, onTicket, onTicket, one, kept]
      · rw [same, onTicket, onTicket, kept, (creation_alone reversed same).1]
    | none =>
      cases other : second.creation events key with
      | some ticket => rw [onTicket, onTicket, other, (creation_alone reversed other).1]
      | none => rw [onTicket, onTicket, one, other]

theorem onOrganizer_commute : Function.Commute first.onOrganizer second.onOrganizer := by
  intro organizer
  cases first with
  | verify wallet verified =>
    cases second with
    | verify other otherVerified =>
      simp only [conflicts] at apart
      simp only [onOrganizer]
      grind
    | _ => rfl
  | _ => rfl

/-- Effects without a conflict commute. -/
theorem act_commute : Function.Commute first.act second.act := by
  intro tables
  ext1
  · funext key
    rw [act_tickets, act_tickets, act_tickets, act_tickets, act_events, act_events]
    exact onTicket_commute apart (tables.tickets key)
  · funext id
    rw [act_organizers, act_organizers, act_organizers, act_organizers, Option.map_map,
      Option.map_map]
    exact congrArg (Option.map · (tables.organizers id)) (funext (onOrganizer_commute apart))
  · rw [act_events, act_events, act_events, act_events]

end Commute

/-! ### Repetition -/

theorem update_idempotent (effect : Effect) {key : TicketKey} {ticket : Ticket} :
    effect.update key (effect.update key ticket) = effect.update key ticket := by
  cases effect with
  | revoke stellarId eventId =>
    simp only [update, Ticket.isOf]
    grind
  | assign stellarId owner =>
    simp only [update]
    grind
  | _ => rfl

theorem onTicket_idempotent (effect : Effect) (events : Uuid → Bool) (key : TicketKey)
    (ticket : Option Ticket) :
    effect.onTicket events key (effect.onTicket events key ticket) =
      effect.onTicket events key ticket := by
  cases ticket with
  | some ticket => exact congrArg some effect.update_idempotent
  | none =>
    rw [onTicket]
    cases effect with
    | create stellarId eventId buyer owner =>
      simp only [creation]
      split
      · rfl
      · simp only [onTicket, creation]
        grind
    | _ => rfl

theorem onOrganizer_idempotent (effect : Effect) (organizer : Organizer) :
    effect.onOrganizer (effect.onOrganizer organizer) = effect.onOrganizer organizer := by
  cases effect with
  | verify wallet verified =>
    simp only [onOrganizer]
    grind
  | _ => rfl

/-- An effect that has taken place changes nothing when it is repeated. -/
theorem act_idempotent (effect : Effect) (tables : Tables) :
    effect.act (effect.act tables) = effect.act tables := by
  ext1
  · funext key
    rw [act_tickets, act_events, act_tickets, onTicket_idempotent]
  · funext id
    rw [act_organizers, act_organizers, Option.map_map]
    exact congrArg (Option.map · (tables.organizers id)) (funext (onOrganizer_idempotent effect))
  · rw [act_events]

end Effect

end Agora.Indexer

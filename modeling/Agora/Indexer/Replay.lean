/-
This file proves when a replay of old events leaves the application tables as they are.

A replay skips the events that are still in the buffer. Of the others, which were applied and
then pruned, a purchase finds its ticket and does nothing; a transfer, a refund and a change
of collateral take effect again, on top of everything that happened since. The tables stay
as they are exactly when the last owner that is written to a ticket is the owner it has, what
is revoked is revoked already, and the last flag that is written to an organizer is the flag
it has.
-/

import Agora.Indexer.Chain

namespace Agora.Indexer

/-! ### What effects in a row leave behind -/

namespace Effect

/-- The owner that an effect writes to a ticket. -/
def ownerFor (key : TicketKey) : Effect → Option String
  | .assign stellarId owner => if key = .stellar stellarId then some owner else none
  | _ => none

/-- The effect revokes a ticket of the event under the key. -/
def revokes (key : TicketKey) (ticket : Ticket) : Effect → Bool
  | .revoke stellarId eventId => key == .stellar stellarId || ticket.isOf eventId
  | _ => false

/-- The flag that an effect writes to an organizer with the wallet. -/
def flagFor (wallet : Option String) : Effect → Option Bool
  | .verify other verified => if wallet = some other then some verified else none
  | _ => none

variable {Item : Type}

theorem getLast?_toList_append (first : Option Item) (rest : List Item) :
    (first.toList ++ rest).getLast? = rest.getLast?.or first := by
  rw [List.getLast?_append]
  cases first with
  | none => rfl
  | some item => rfl

theorem filterMap_cons_toList {Value : Type} (reading : Item → Option Value) (first : Item)
    (rest : List Item) :
    (first :: rest).filterMap reading = (reading first).toList ++ rest.filterMap reading := by
  rw [List.filterMap_cons]
  cases reading first with
  | none => rfl
  | some value => rfl

variable {key : TicketKey}

/-- Which effects revoke a ticket depends on its event only. -/
theorem revokes_congr {first second : Ticket} (same : first.eventId = second.eventId) :
    revokes key first = revokes key second := by
  funext effect
  cases effect with
  | revoke stellarId eventId => simp only [revokes, Ticket.isOf, same]
  | _ => rfl

theorem update_eq (key : TicketKey) (effect : Effect) (ticket : Ticket) :
    effect.update key ticket =
      { ticket with
        ownerWallet := (effect.ownerFor key).or ticket.ownerWallet
        status := if effect.revokes key ticket then .revoked else ticket.status } := by
  cases effect with
  | revoke stellarId eventId =>
    simp only [update, ownerFor, revokes, Option.none_or, Bool.or_eq_true, beq_iff_eq]
    split
    · rfl
    · rfl
  | assign stellarId owner =>
    simp only [update, ownerFor, revokes]
    split
    · rfl
    · rfl
  | _ => rfl

/-- A ticket keeps its event and its buyer; the last owner written to it stays. -/
theorem performAll_update (key : TicketKey) (effects : List Effect) (ticket : Ticket) :
    performAll (update key) effects ticket =
      { ticket with
        ownerWallet := (effects.filterMap (ownerFor key)).getLast?.or ticket.ownerWallet
        status := if effects.any (revokes key ticket) then .revoked else ticket.status } := by
  induction effects generalizing ticket with
  | nil => rfl
  | cons effect rest inductionHypothesis =>
    have event : (effect.update key ticket).eventId = ticket.eventId := by rw [update_eq]
    rw [performAll_cons, inductionHypothesis, revokes_congr event, filterMap_cons_toList,
      getLast?_toList_append, List.any_cons, update_eq, Option.or_assoc]
    cases effect.revokes key ticket with
    | true => simp
    | false => simp

theorem onOrganizer_eq (effect : Effect) (organizer : Organizer) :
    effect.onOrganizer organizer =
      { organizer with
        isVerified := (effect.flagFor organizer.walletAddress).getD organizer.isVerified } := by
  cases effect with
  | verify wallet verified =>
    simp only [onOrganizer, flagFor]
    split
    · rfl
    · rfl
  | _ => rfl

theorem performAll_onOrganizer (effects : List Effect) (organizer : Organizer) :
    performAll onOrganizer effects organizer =
      { organizer with
        isVerified := (effects.filterMap (flagFor organizer.walletAddress)).getLast?.getD
          organizer.isVerified } := by
  induction effects generalizing organizer with
  | nil => rfl
  | cons effect rest inductionHypothesis =>
    rw [performAll_cons, inductionHypothesis, onOrganizer_eq, filterMap_cons_toList,
      getLast?_toList_append]
    cases (rest.filterMap (flagFor organizer.walletAddress)).getLast? with
    | none => rfl
    | some flag => rfl

/-! ### Effects that have taken place -/

/-- The effect can take place again without a failure, and inserts nothing. -/
def Settled (tables : Tables) : Effect → Prop
  | .invalid => False
  | .create stellarId _ _ _ => tables.tickets (.stellar stellarId) ≠ none
  | _ => True

variable {tables : Tables}

theorem tickets_act_ne_none (effect : Effect) (present : tables.tickets key ≠ none) :
    (effect.act tables).tickets key ≠ none := by
  rw [act_tickets]
  cases found : tables.tickets key with
  | none => exact absurd found present
  | some ticket => exact Option.some_ne_none _

variable {effect : Effect}

theorem Settled.act (settled : effect.Settled tables) (other : Effect) :
    effect.Settled (other.act tables) := by
  cases effect with
  | invalid => exact settled
  | create stellarId eventId buyer owner => exact tickets_act_ne_none other settled
  | _ => trivial

/-- An effect that succeeded is settled. -/
theorem settled_of_run {next : Tables} (succeeded : effect.run tables = some next) :
    effect.Settled next := by
  cases effect with
  | invalid => cases succeeded
  | create stellarId eventId buyer owner =>
    simp only [run, Tables.insertTicket] at succeeded
    split at succeeded
    · cases succeeded
      rename_i ticket found
      exact fun absent => by rw [found] at absent; cases absent
    · split at succeeded
      · cases succeeded
        simp [Settled]
      · cases succeeded
  | _ => trivial

theorem run_of_settled (settled : effect.Settled tables) :
    effect.run tables = some (effect.act tables) := by
  unfold Effect.act
  cases effect with
  | invalid => exact settled.elim
  | create stellarId eventId buyer owner =>
    obtain ⟨ticket, found⟩ := Option.ne_none_iff_exists'.mp settled
    simp [run, Tables.insertTicket, found]
  | _ => rfl

/-- What the effects would write is there already. -/
structure UpToDate (effects : List Effect) (tables : Tables) : Prop where
  owners : ∀ key ticket, tables.tickets key = some ticket →
    ∀ owner ∈ (effects.filterMap (ownerFor key)).getLast?, ticket.ownerWallet = some owner
  revoked : ∀ key ticket, tables.tickets key = some ticket →
    (∃ effect ∈ effects, effect.revokes key ticket = true) → ticket.status = .revoked
  verified : ∀ id organizer, tables.organizers id = some organizer →
    ∀ flag ∈ (effects.filterMap (flagFor organizer.walletAddress)).getLast?,
      organizer.isVerified = flag

variable {effects : List Effect}

/-- Effects that have taken place leave a missing ticket missing. -/
theorem performAll_onTicket (settled : ∀ effect ∈ effects, effect.Settled tables)
    (key : TicketKey) :
    performAll (onTicket tables.events key) effects (tables.tickets key) =
      (tables.tickets key).map (performAll (update key) effects) := by
  cases found : tables.tickets key with
  | some ticket =>
    clear settled found
    induction effects generalizing ticket with
    | nil => rfl
    | cons effect rest inductionHypothesis => exact inductionHypothesis (effect.update key ticket)
  | none =>
    induction effects with
    | nil => rfl
    | cons effect rest inductionHypothesis =>
      obtain ⟨first, others⟩ := List.forall_mem_cons.mp settled
      have nothing : effect.creation tables.events key = none := by
        cases effect with
        | create stellarId eventId buyer owner =>
          refine if_neg fun both => first ?_
          rw [← both.1, found]
        | _ => rfl
      rw [performAll_cons, onTicket, nothing]
      exact inductionHypothesis others

theorem performAll_update_eq_self {ticket : Ticket} :
    performAll (update key) effects ticket = ticket ↔
      (∀ owner ∈ (effects.filterMap (ownerFor key)).getLast?, ticket.ownerWallet = some owner) ∧
        ((∃ effect ∈ effects, effect.revokes key ticket = true) → ticket.status = .revoked) := by
  rw [performAll_update]
  obtain ⟨eventId, buyer, owner, status⟩ := ticket
  simp only [Ticket.mk.injEq, true_and, List.any_eq_true]
  refine and_congr ?_ ?_
  · cases (effects.filterMap (ownerFor key)).getLast? with
    | none => simp
    | some last => simp [eq_comm]
  · split
    · rename_i revoked
      exact ⟨fun same _ => same.symm, fun same => (same revoked).symm⟩
    · rename_i kept
      exact iff_of_true rfl fun revoked => absurd revoked kept

theorem performAll_onOrganizer_eq_self {organizer : Organizer} :
    performAll onOrganizer effects organizer = organizer ↔
      ∀ flag ∈ (effects.filterMap (flagFor organizer.walletAddress)).getLast?,
        organizer.isVerified = flag := by
  rw [performAll_onOrganizer]
  obtain ⟨wallet, isVerified⟩ := organizer
  simp only [Organizer.mk.injEq, true_and]
  cases (effects.filterMap (flagFor wallet)).getLast? with
  | none => simp
  | some flag => simp [eq_comm]

theorem map_eq_self_iff {change : Item → Item} {item : Option Item} :
    item.map change = item ↔ ∀ inner, item = some inner → change inner = inner := by
  cases item with
  | none => simp
  | some inner => simp

/-- Effects that have taken place change nothing exactly when they are up to date. -/
theorem performAll_eq_self_iff (settled : ∀ effect ∈ effects, effect.Settled tables) :
    performAll act effects tables = tables ↔ UpToDate effects tables := by
  have tickets (key : TicketKey) : (performAll act effects tables).tickets key =
      (tables.tickets key).map (performAll (update key) effects) := by
    rw [performAll_tickets, performAll_onTicket settled]
  rw [Tables.ext_iff, funext_iff, funext_iff]
  simp only [tickets, performAll_organizers, performAll_events, and_true, map_eq_self_iff,
    performAll_update_eq_self, performAll_onOrganizer_eq_self]
  constructor
  · rintro ⟨rows, organizers⟩
    exact ⟨fun key ticket found => (rows key ticket found).1,
      fun key ticket found => (rows key ticket found).2, organizers⟩
  · rintro ⟨owners, revoked, verified⟩
    exact ⟨fun key ticket found => ⟨owners key ticket found, revoked key ticket found⟩, verified⟩

end Effect

/-! ### The log and its replay -/

section Replay

variable (uuids : UuidSyntax) (config : Config)

/-- An event is inserted, applied and finalized; where it cannot be applied it stays pending. -/
def ingest (database : Database) (event : Event) : Database :=
  match database.buffer.insert event with
  | none => database
  | some buffer =>
    match applyEventState uuids config event database.tables with
    | none => { database with buffer := buffer }
    | some tables => { database with buffer := buffer, tables := tables }.finalize event.id

/-- The loop of `run_replay` over the events of its range, and whether it came to its end. -/
def replayEvents : List Event → Database → Database × Bool
  | [], database => (database, true)
  | event :: rest, database =>
    match database.buffer.insert event with
    | none => replayEvents rest database
    | some buffer =>
      match applyEventState uuids config event database.tables with
      | none => ({ database with buffer := buffer }, false)
      | some tables =>
        replayEvents rest ({ database with buffer := buffer, tables := tables }.finalize event.id)

def runReplay (range : List Event) (endLedger : Nat) (database : Database) : Database :=
  match replayEvents uuids config range database with
  | (replayed, true) => replayed.save endLedger none
  | (replayed, false) => replayed

/-- The database after all of a log was applied to given tables, and the window was pruned. -/
def applyLog (log : List Event) (tables : Tables) (keepFromLedger : Nat) : Database :=
  (log.foldl (ingest uuids config) ⟨.empty, none, tables⟩).pruneWindow keepFromLedger

/-! ### The database after the log -/

variable {uuids config} {database : Database} {event : Event}

variable (uuids config) in
/-- A new event gets a row, its effect takes place or fails, and it has taken place where the row
is finalized. -/
theorem ingest_fresh (fresh : ∀ row ∈ database.buffer.rows, row.event.id ≠ event.id) :
    (ingest uuids config database event).tables =
        (effectOf uuids config event).act database.tables ∧
      ∃ finalized,
        (∀ row, row ∈ (ingest uuids config database event).buffer.rows ↔
          row = ⟨event, finalized⟩ ∨ row ∈ database.buffer.rows) ∧
        (finalized = true →
          (effectOf uuids config event).Settled (ingest uuids config database event).tables) := by
  unfold ingest
  cases inserted : database.buffer.insert event with
  | none =>
    obtain ⟨row, member, same⟩ :=
      database.buffer.hasId_iff.mp (Buffer.insert_eq_none.mp inserted)
    exact absurd same (fresh row member)
  | some buffer =>
    cases applied : applyEventState uuids config event database.tables with
    | none =>
      rw [applyEventState_eq_run] at applied
      refine ⟨by rw [Effect.act, applied]; rfl, false, fun row => ?_, fun absurd => by cases absurd⟩
      exact Buffer.mem_of_insert inserted
    | some tables =>
      rw [applyEventState_eq_run] at applied
      refine ⟨by rw [Effect.act, applied]; rfl, true, fun row => ?_, fun _ =>
        Effect.settled_of_run applied⟩
      show row ∈ (buffer.finalize event.id).rows ↔ _
      rw [Buffer.mem_finalize]
      simp only [Buffer.mem_of_insert inserted, exists_eq_or_imp]
      refine or_congr (by simp [Row.finalizedAt, eq_comm]) ?_
      constructor
      · rintro ⟨old, stored, rfl⟩
        rwa [Buffer.finalizedAt_of_ne (fresh old stored)]
      · exact fun stored => ⟨row, stored, Buffer.finalizedAt_of_ne (fresh row stored)⟩

variable (uuids config) in
/-- Every event that was ingested has its row, and what is finalized has taken place. -/
structure Ingested (done : List Event) (database : Database) : Prop where
  present : ∀ event ∈ done, ∃ finalized, ⟨event, finalized⟩ ∈ database.buffer.rows
  known : ∀ row ∈ database.buffer.rows, row.event ∈ done
  settled : ∀ row ∈ database.buffer.rows, row.finalized = true →
    (effectOf uuids config row.event).Settled database.tables

variable {done : List Event}

theorem Ingested.ingest (ingested : Ingested uuids config done database)
    (fresh : event.id ∉ done.map Event.id) :
    Ingested uuids config (done ++ [event]) (ingest uuids config database event) := by
  obtain ⟨acted, finalized, rows, settled⟩ := ingest_fresh uuids config
    fun row member same => fresh (List.mem_map.mpr ⟨row.event, ingested.known row member, same⟩)
  refine ⟨?_, ?_, ?_⟩
  · rintro other member
    rcases List.mem_append.mp member with old | new
    · obtain ⟨state, stored⟩ := ingested.present other old
      exact ⟨state, (rows _).mpr (.inr stored)⟩
    · rw [List.mem_singleton.mp new]
      exact ⟨finalized, (rows _).mpr (.inl rfl)⟩
  · rintro row member
    rcases (rows row).mp member with rfl | old
    · exact List.mem_append_right _ List.mem_cons_self
    · exact List.mem_append_left _ (ingested.known row old)
  · rintro row member done
    rcases (rows row).mp member with rfl | old
    · exact settled done
    · rw [acted]
      exact (ingested.settled row old done).act _

theorem Ingested.ingestAll {log : List Event} (ingested : Ingested uuids config done database)
    (once : ((done ++ log).map Event.id).Nodup) :
    Ingested uuids config (done ++ log) (log.foldl (Indexer.ingest uuids config) database) := by
  induction log generalizing done database with
  | nil =>
    rw [List.append_nil]
    exact ingested
  | cons first rest inductionHypothesis =>
    have fresh : first.id ∉ done.map Event.id := by
      rw [List.map_append, List.nodup_append] at once
      exact fun member => once.2.2 _ member first.id List.mem_cons_self rfl
    rw [List.append_cons] at once ⊢
    exact inductionHypothesis (ingested.ingest fresh) once

/-- An event of the log that is not in the buffer any more has taken place. -/
theorem settled_of_applyLog {uuids : UuidSyntax} {config : Config} {chain : Chain}
    {tables : Tables} {keepFromLedger : Nat} (member : event ∈ chain.events)
    (pruned : (applyLog uuids config chain.events tables keepFromLedger).buffer.hasId event.id =
      false) :
    (effectOf uuids config event).Settled
      (applyLog uuids config chain.events tables keepFromLedger).tables := by
  have start : Ingested uuids config [] ⟨.empty, none, tables⟩ :=
    ⟨fun _ absent => absurd absent List.not_mem_nil,
      fun _ absent => absurd absent List.not_mem_nil,
      fun _ absent => absurd absent List.not_mem_nil⟩
  have ingested := start.ingestAll chain.ids_nodup
  obtain ⟨finalized, stored⟩ := ingested.present event member
  cases finalized with
  | true => exact ingested.settled _ stored rfl
  | false =>
    -- a pending row is not pruned
    have kept : (applyLog uuids config chain.events tables keepFromLedger).buffer.hasId event.id =
        true :=
      (Buffer.hasId_iff _).mpr ⟨⟨event, false⟩, Buffer.mem_keep.mpr ⟨stored, rfl⟩, rfl⟩
    rw [pruned] at kept
    cases kept

/-! ### The replay -/

/-- The replay performs the effects of the events that are not in the buffer. -/
theorem tables_replayEvents {range : List Event} (once : (range.map Event.id).Nodup)
    (settled : ∀ event ∈ range, database.buffer.hasId event.id = false →
      (effectOf uuids config event).Settled database.tables) :
    (replayEvents uuids config range database).1.tables =
      performAll Effect.act
        ((range.filter fun event => !database.buffer.hasId event.id).map (effectOf uuids config))
        database.tables := by
  induction range generalizing database with
  | nil => rfl
  | cons first rest inductionHypothesis =>
    obtain ⟨apart, others⟩ := List.nodup_cons.mp (List.map_cons ▸ once)
    obtain ⟨head, tail⟩ := List.forall_mem_cons.mp settled
    unfold replayEvents
    cases inserted : database.buffer.insert first with
    | none =>
      have held := Buffer.insert_eq_none.mp inserted
      rw [List.filter_cons_of_neg (by simp [held])]
      exact inductionHypothesis others tail
    | some buffer =>
      have absent : database.buffer.hasId first.id = false := by
        rw [Bool.eq_false_iff]
        intro held
        rw [Buffer.insert_eq_none.mpr held] at inserted
        cases inserted
      have applied : applyEventState uuids config first database.tables =
          some ((effectOf uuids config first).act database.tables) := by
        rw [applyEventState_eq_run, Effect.run_of_settled (head absent)]
      have same : ∀ event ∈ rest, (buffer.finalize first.id).hasId event.id =
          database.buffer.hasId event.id := by
        intro event member
        rw [Buffer.hasId_finalize, Buffer.hasId_of_insert inserted]
        exact fun equal => apart (List.mem_map.mpr ⟨event, member, equal.symm⟩)
      rw [List.filter_cons_of_pos (by simp [absent]), List.map_cons, performAll_cons]
      simp only [applied]
      rw [inductionHypothesis others]
      · congr 2
        exact List.filter_congr fun event member => congrArg not (same event member)
      · intro event member pruned
        exact (tail event member (same event member ▸ pruned)).act _

end Replay

/-- A replay of a part of the log leaves the tables as they are exactly when what it applies
again is up to date. -/
theorem replay_unchanged_iff (uuids : UuidSyntax) (config : Config) (chain : Chain)
    (tables : Tables) (keepFromLedger skipped length endLedger : Nat) :
    (runReplay uuids config ((chain.events.drop skipped).take length) endLedger
        (applyLog uuids config chain.events tables keepFromLedger)).tables =
        (applyLog uuids config chain.events tables keepFromLedger).tables ↔
      Effect.UpToDate
        ((((chain.events.drop skipped).take length).filter fun event =>
          !(applyLog uuids config chain.events tables keepFromLedger).buffer.hasId event.id).map
            (effectOf uuids config))
        (applyLog uuids config chain.events tables keepFromLedger).tables := by
  set range := (chain.events.drop skipped).take length
  set database := applyLog uuids config chain.events tables keepFromLedger
  have part : range.Sublist chain.events :=
    (List.take_sublist _ _).trans (List.drop_sublist _ _)
  have settled : ∀ event ∈ range, database.buffer.hasId event.id = false →
      (effectOf uuids config event).Settled database.tables := fun event member =>
    settled_of_applyLog (part.subset member)
  have replayed : (runReplay uuids config range endLedger database).tables =
      (replayEvents uuids config range database).1.tables := by
    unfold runReplay
    split
    · rename_i next ended
      rw [ended]
      rfl
    · rename_i next ended
      rw [ended]
  rw [replayed, tables_replayEvents (chain.ids_nodup.sublist (part.map _)) settled]
  refine Effect.performAll_eq_self_iff fun effect member => ?_
  obtain ⟨event, inRange, rfl⟩ := List.mem_map.mp member
  obtain ⟨inside, pruned⟩ := List.mem_filter.mp inRange
  exact settled event inside (by simpa using pruned)

/-! ### A transfer that is replayed -/

section ReplayedTransfer

def party : String := "00000000-0000-0000-0000-000000000001"

/-- A ticket is bought, and transferred twice. -/
def twoTransfers : Chain where
  events := [
    ⟨"0001", 1, "ticket_payment", "PaymentProcessed",
      [("payment_id", "ticket"), ("event_id", party), ("buyer", "alice")]⟩,
    ⟨"0002", 2, "ticket_payment", "TicketTransferred", [("payment_id", "ticket"), ("to", "bob")]⟩,
    ⟨"0003", 3, "ticket_payment", "TicketTransferred", [("payment_id", "ticket"), ("to", "carol")]⟩]
  head := 200
  ordered := by decide +kernel
  bounded := by decide

def oneParty : Tables := ⟨fun _ => none, fun _ => none, fun id => id == 1⟩

/-- The replay of the first transfer takes the ticket from its owner. -/
theorem replayed_transfer_takes_back :
    let config := Config.twoContracts
    let database := applyLog .hyphenated config twoTransfers.events oneParty 100
    let replayed := runReplay .hyphenated config ((twoTransfers.events.drop 1).take 1) 2 database
    ((database.tables.tickets (.stellar "ticket")).map fun ticket => ticket.ownerWallet) =
        some (some "carol") ∧
      ((replayed.tables.tickets (.stellar "ticket")).map fun ticket => ticket.ownerWallet) =
        some (some "bob") := by
  decide +kernel

end ReplayedTransfer

end Agora.Indexer

/-
This file models what the indexer keeps in the database: the buffer of events, the
checkpoint, and the application tables, with the statements that the indexer runs on them.

A row of the buffer is an event that is pending or finalized, and the id of the event is the
primary key. The finalizer reads the pending rows up to a bound in the order of ledger and
id, a batch at a time, and returns at the first row whose application fails; the rows before
it stay finalized.
-/

import Mathlib.Data.List.Sort
import Mathlib.Data.String.Basic
import Agora.Indexer.Effects

namespace Agora.Indexer

/-! ### The buffer -/

structure Row where
  event : Event
  finalized : Bool
  deriving DecidableEq, Repr

/-- A row is finalized when it has the id. -/
def Row.finalizedAt (row : Row) (id : String) : Row :=
  { row with finalized := row.finalized || row.event.id == id }

/-- The table `indexer_ledger_events`. -/
structure Buffer where
  rows : List Row
  unique : (rows.map fun row => row.event.id).Nodup

/-- The order in which the finalizer reads rows: by ledger, and by id within one. -/
def Event.Before (first second : Event) : Prop :=
  first.ledger < second.ledger ∨ first.ledger = second.ledger ∧ first.id ≤ second.id

instance : DecidableRel Event.Before := fun _ _ =>
  inferInstanceAs (Decidable (_ ∨ _))

namespace Buffer

def empty : Buffer := ⟨[], List.nodup_nil⟩

variable (buffer : Buffer)

def hasId (id : String) : Bool :=
  buffer.rows.any fun row => row.event.id == id

def contains (id : String) (ledger : Nat) : Bool :=
  buffer.rows.any fun row => row.event.id == id && row.event.ledger == ledger

theorem hasId_iff {id : String} :
    buffer.hasId id = true ↔ ∃ row ∈ buffer.rows, row.event.id = id := by
  simp [hasId]

/-- `buffer_insert`; nothing when no row is inserted. -/
def insert (event : Event) : Option Buffer :=
  if duplicate : buffer.hasId event.id = true then none
  else some {
    rows := ⟨event, false⟩ :: buffer.rows
    unique := List.nodup_cons.mpr ⟨fun member =>
      duplicate (buffer.hasId_iff.mpr (List.mem_map.mp member)), buffer.unique⟩ }

/-- The rows that are kept of a buffer. -/
def keep (kept : Row → Bool) : Buffer where
  rows := buffer.rows.filter kept
  unique := buffer.unique.sublist (List.filter_sublist.map _)

/-- `UPDATE … SET finalized = TRUE WHERE id = …`. -/
def finalize (id : String) : Buffer where
  rows := buffer.rows.map fun row => row.finalizedAt id
  unique := by
    rw [List.map_map]
    exact buffer.unique

/-- The pending rows up to the bound, in the order in which they are read. -/
def backlog (bound : Nat) : List Event :=
  ((buffer.rows.filter fun row => !row.finalized && decide (row.event.ledger ≤ bound)).map
    fun row => row.event).insertionSort Event.Before

end Buffer

/-- Pending events applied per sweep. -/
def FINALIZER_BATCH_SIZE : Nat := 250

def Buffer.batch (buffer : Buffer) (bound : Nat) : List Event :=
  (buffer.backlog bound).take FINALIZER_BATCH_SIZE

/-! ### The checkpoint -/

structure Checkpoint where
  ledgerSequence : Nat
  eventCursor : Option String
  deriving DecidableEq, Repr

/-- Where the producer goes on reading: after a cursor, or from a ledger. -/
structure Position where
  cursor : Option String
  startLedger : Option Nat
  deriving DecidableEq, Repr

/-- The position after a start, from the checkpoint that was read. -/
def resume (config : Config) : Option Checkpoint → Position
  | some ⟨_, some cursor⟩ => ⟨some cursor, none⟩
  | some ⟨ledgerSequence, none⟩ => ⟨none, some (ledgerSequence + 1)⟩
  | none => ⟨none, if config.startLedger > 0 then some config.startLedger else none⟩

structure Database where
  buffer : Buffer
  checkpoint : Option Checkpoint
  tables : Tables

namespace Database

variable (database : Database)

/-- `CheckpointStore::save`. -/
def save (ledgerSequence : Nat) (eventCursor : Option String) : Database :=
  { database with checkpoint := some ⟨ledgerSequence, eventCursor⟩ }

/-- `CheckpointStore::rollback_to`. -/
def rollbackTo (forkLedger : Nat) : Database :=
  { database with
    buffer := database.buffer.keep fun row => decide (row.event.ledger < forkLedger)
    checkpoint := some ⟨forkLedger - 1, none⟩ }

/-- `CheckpointStore::prune_window`. -/
def pruneWindow (keepFromLedger : Nat) : Database :=
  { database with
    buffer := database.buffer.keep fun row =>
      !(row.finalized && decide (row.event.ledger < keepFromLedger)) }

def finalize (id : String) : Database :=
  { database with buffer := database.buffer.finalize id }

end Database

/-! ### Sweeps of the finalizer -/

section Sweep

variable (attempt : Event → Tables → Option Tables)

/-- The loop of `finalize_batch`, and whether it came to its end. -/
def finalizeRows : List Event → Database → Database × Bool
  | [], database => (database, true)
  | event :: rest, database =>
    if event.kind = .unhandled then finalizeRows rest (database.finalize event.id)
    else
      match attempt event database.tables with
      | none => (database, false)
      | some tables => finalizeRows rest ({ database with tables := tables }.finalize event.id)

def finalizeBatch (finalBound : Nat) (database : Database) : Database × Bool :=
  finalizeRows attempt (database.buffer.batch finalBound) database

/-- One turn of `run_finalizer` that no other task interrupts. -/
def runFinalizer (config : Config) (latestLedger : Nat) (database : Database) : Database :=
  if latestLedger < config.confirmations + 1 then database
  else
    let finalBound := latestLedger - config.confirmations
    match finalizeBatch attempt finalBound database with
    | (swept, true) =>
      (swept.save finalBound none).pruneWindow (finalBound - config.windowLedgers)
    | (swept, false) => swept

end Sweep

/-! ### What the statements do to the rows -/

namespace Buffer

variable {buffer : Buffer}

variable {row : Row}

theorem mem_keep {kept : Row → Bool} :
    row ∈ (buffer.keep kept).rows ↔ row ∈ buffer.rows ∧ kept row = true :=
  List.mem_filter

variable {event : Event} {next : Buffer}

theorem mem_of_insert (inserted : buffer.insert event = some next) :
    row ∈ next.rows ↔ row = ⟨event, false⟩ ∨ row ∈ buffer.rows := by
  unfold insert at inserted
  split at inserted
  · cases inserted
  · cases inserted
    exact List.mem_cons

theorem insert_eq_none : buffer.insert event = none ↔ buffer.hasId event.id = true := by
  unfold insert
  split
  · simp [*]
  · simp [*]

variable {id : String}

theorem mem_finalize :
    row ∈ (buffer.finalize id).rows ↔ ∃ old ∈ buffer.rows, old.finalizedAt id = row :=
  List.mem_map

theorem finalizedAt_of_ne (different : row.event.id ≠ id) : row.finalizedAt id = row := by
  rw [Row.finalizedAt, beq_eq_false_iff_ne.mpr different, Bool.or_false]

/-- A row that is pending after another was finalized was pending before, and has another id. -/
theorem mem_finalize_pending :
    ⟨event, false⟩ ∈ (buffer.finalize id).rows ↔
      ⟨event, false⟩ ∈ buffer.rows ∧ event.id ≠ id := by
  simp only [finalize, List.mem_map]
  constructor
  · rintro ⟨⟨other, finalized⟩, member, equal⟩
    simp only [Row.finalizedAt, Row.mk.injEq, Bool.or_eq_false_iff, beq_eq_false_iff_ne] at equal
    obtain ⟨rfl, rfl, different⟩ := equal
    exact ⟨member, different⟩
  · rintro ⟨member, different⟩
    exact ⟨⟨event, false⟩, member, by simp [Row.finalizedAt, different]⟩

theorem mem_backlog {bound : Nat} :
    event ∈ buffer.backlog bound ↔ ⟨event, false⟩ ∈ buffer.rows ∧ event.ledger ≤ bound := by
  simp only [backlog, List.mem_insertionSort, List.mem_map, List.mem_filter]
  constructor
  · rintro ⟨⟨other, finalized⟩, ⟨member, waits⟩, rfl⟩
    simp only [Bool.and_eq_true, Bool.not_eq_true', decide_eq_true_eq] at waits
    obtain ⟨rfl, le⟩ := waits
    exact ⟨member, le⟩
  · rintro ⟨member, le⟩
    exact ⟨⟨event, false⟩, ⟨member, by simpa using le⟩, rfl⟩

theorem hasId_of_insert (inserted : buffer.insert event = some next) (different : event.id ≠ id) :
    next.hasId id = buffer.hasId id := by
  unfold insert at inserted
  split at inserted
  · cases inserted
  · cases inserted
    simp [hasId, different]

theorem hasId_finalize (id other : String) :
    (buffer.finalize id).hasId other = buffer.hasId other := by
  simp only [hasId, finalize, List.any_map]
  rfl

end Buffer

end Agora.Indexer

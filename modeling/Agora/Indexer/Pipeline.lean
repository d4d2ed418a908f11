/-
This file models the pipeline of the indexer: the producer that fetches pages of events, the
queue, the workers that insert and apply them, the finalizer that sweeps the buffer, and the
chain that moves on under all of them.

Every `await` of the source is a step of its own, so that the tasks interleave between any
two of them, and the scheduler decides which task moves next. A statement on the database may
fail, as may a request to a node. A crash forgets everything but the database. The steps of
the finalizer that no other task interrupts are one turn of `run_finalizer`.

What has happened so far is kept beside the state: which ids were inserted, which events were
passed to `apply_event_state` and with success, how high the chain has been, and which forks
left events behind that were fetched already. No task reads it.
-/

import Agora.Indexer.Chain
import Agora.Lib.Run

namespace Agora.Indexer

/-- Maximum events per page. -/
def MAX_EVENTS_PER_POLL : Nat := 100

/-- Capacity of the queue between the producer and the workers. -/
def QUEUE_CAPACITY : Nat := 4096

/-! ### The tasks -/

/-- A page that was fetched: the position and the checkpoint it was fetched under, the chain head
it reported, and the id of its last event. -/
structure Page where
  position : Position
  checkpointLedger : Nat
  latestLedger : Nat
  last : Option String

/-- Where the producer goes on after the page. -/
def Page.next (page : Page) : Position :=
  match page.last with
  | some id => ⟨some id, none⟩
  | none => page.position

/-- What the producer is about to do. -/
inductive Producer where
  /-- read the checkpoint to resume from -/
  | starting
  /-- read the checkpoint to compare with -/
  | polling (position : Position)
  /-- ask a node for a page -/
  | fetching (position : Position) (checkpointLedger : Nat)
  /-- look at the next event of the page, or save the cursor at its end -/
  | scanning (page : Page) (rest : List Event)
  /-- call `rollback_to` -/
  | alarmed (page : Page) (event : Event) (rest : List Event)
  /-- put the event into the queue -/
  | sending (page : Page) (event : Event) (rest : List Event)

/-- What a worker is about to do. -/
inductive Hand where
  /-- take an event from the queue -/
  | idle
  /-- insert the event into the buffer -/
  | holding (job : IndexedEvent)
  /-- apply the event, which is final -/
  | ready (job : IndexedEvent)
  /-- mark the row of the event that was applied -/
  | applied (job : IndexedEvent)
  deriving DecidableEq

/-- What the finalizer is about to do. -/
inductive Finalizer where
  /-- read the chain head -/
  | idle
  /-- select the pending rows up to the bound -/
  | selecting (bound : Nat)
  /-- apply the next row, or save the checkpoint at the end of the batch -/
  | sweeping (bound : Nat) (rows : List Event)
  /-- mark the row that was applied -/
  | marking (bound : Nat) (event : Event) (rest : List Event)
  /-- prune the window -/
  | pruning (bound : Nat)

/-- What has happened so far. -/
structure History where
  inserted : List String
  passed : List Event
  succeeded : List Event
  tallest : Nat
  openForks : List Nat

structure State where
  chain : Chain
  database : Database
  latest : Nat
  producer : Producer
  queue : List IndexedEvent
  hands : List Hand
  finalizer : Finalizer
  history : History

namespace Producer

/-- The events of the page that are not in the queue yet. -/
def unsent : Producer → List Event
  | .scanning _ rest => rest
  | .alarmed _ event rest => event :: rest
  | .sending _ event rest => event :: rest
  | _ => []

/-- The position from which the next page will be fetched. -/
def next? : Producer → Option Position
  | .starting => none
  | .polling position => some position
  | .fetching position _ => some position
  | .scanning page _ => some page.next
  | .alarmed page _ _ => some page.next
  | .sending page _ _ => some page.next

end Producer

/-- The event that the worker is busy with. -/
def Hand.job? : Hand → Option IndexedEvent
  | .idle => none
  | .holding job => some job
  | .ready job => some job
  | .applied job => some job

/-- The bound of the sweep that the finalizer is in. -/
def Finalizer.bound? : Finalizer → Option Nat
  | .idle => none
  | .selecting bound => some bound
  | .sweeping bound _ => some bound
  | .marking bound _ _ => some bound
  | .pruning bound => some bound

/-- The rows that the finalizer has read and not applied yet. -/
def Finalizer.rows : Finalizer → List Event
  | .sweeping _ rows => rows
  | .marking _ _ rest => rest
  | _ => []

/-- The bound that the finalizer is about to save. -/
def Finalizer.saving? : Finalizer → Option Nat
  | .sweeping bound [] => some bound
  | _ => none

namespace State

variable (config : Config) (state : State)

def next : Position :=
  state.producer.next?.getD (resume config state.database.checkpoint)

/-- The events of the chain that are not in the queue yet. -/
def unfetched : List Event :=
  state.producer.unsent ++ state.chain.after (state.next config)

/-- Every event that was sent has reached the buffer. -/
def Quiet : Prop :=
  state.queue = [] ∧ ∀ hand ∈ state.hands, ∀ job, hand ≠ .holding job

/-- The events that were fetched: those of the buffer, and those on their way to it. -/
def fetched : List Event :=
  state.database.buffer.rows.map Row.event ++ state.producer.unsent ++
    state.queue.map IndexedEvent.event ++
    state.hands.filterMap fun hand => hand.job?.map IndexedEvent.event

end State

def Hand.isHolding : Hand → Bool
  | .holding _ => true
  | _ => false

instance (state : State) : Decidable state.Quiet :=
  decidable_of_iff (state.queue = [] ∧ ∀ hand ∈ state.hands, hand.isHolding = false) <| by
    refine and_congr_right fun _ => forall₂_congr fun hand _ => ?_
    cases hand with
    | holding job => simp [Hand.isHolding]
    | _ => simp [Hand.isHolding]

/-! ### The chain -/

/-- The ledgers from the fork on are replaced. -/
structure Chain.ForkedAt (next chain : Chain) (ledger : Nat) : Prop where
  within : ledger ≤ chain.head
  common : (next.events.filter fun event => decide (event.ledger < ledger)) =
    chain.events.filter fun event => decide (event.ledger < ledger)

instance (next chain : Chain) (ledger : Nat) : Decidable (next.ForkedAt chain ledger) :=
  decidable_of_iff
    (ledger ≤ chain.head ∧ (next.events.filter fun event => decide (event.ledger < ledger)) =
      chain.events.filter fun event => decide (event.ledger < ledger))
    ⟨fun both => ⟨both.1, both.2⟩, fun forked => ⟨forked.within, forked.common⟩⟩

namespace State

variable (state : State)

def grow (next : Chain) : State :=
  if next.Extends state.chain then
    { state with
      chain := next
      history := { state.history with tallest := max state.history.tallest next.head } }
  else state

/-- The fork leaves an event behind that was fetched. -/
def LeavesBehind (next : Chain) : Prop :=
  ∃ event ∈ state.fetched, event ∈ state.chain.events ∧ event ∉ next.events

instance (next : Chain) : Decidable (state.LeavesBehind next) :=
  inferInstanceAs (Decidable (∃ event ∈ state.fetched, _))

def fork (ledger : Nat) (next : Chain) : State :=
  if next.ForkedAt state.chain ledger then
    { state with
      chain := next
      history := { state.history with
        tallest := max state.history.tallest next.head
        openForks := if state.LeavesBehind next then ledger :: state.history.openForks
          else state.history.openForks } }
  else state

/-! ### The producer -/

/-- The checkpoint of the last finalized ledger, or zero. -/
def checkpointLedger (database : Database) : Nat :=
  (database.checkpoint.map Checkpoint.ledgerSequence).getD 0

/-- A page of at most so many events. -/
def fetch (position : Position) (checkpointLedger count : Nat) : State :=
  let events := (state.chain.after position).take (min count MAX_EVENTS_PER_POLL)
  { state with
    latest := state.chain.head
    producer := .scanning
      ⟨position, checkpointLedger, state.chain.head, events.getLast?.map Event.id⟩ events }

/-- An event in a ledger that counts as final, and that the buffer does not have, is taken for a
fork. A failed query counts as an absent row. -/
def examine (ok : Bool) (page : Page) (event : Event) (rest : List Event) : State :=
  if event.ledger ≤ page.checkpointLedger ∧
      ¬(ok = true ∧ state.database.buffer.contains event.id event.ledger = true) then
    { state with producer := .alarmed page event rest }
  else { state with producer := .sending page event rest }

/-- After a rollback the events from its ledger on are fetched again. Forks at or above it leave
nothing behind when nothing is on its way to the buffer. -/
def rollback (event : Event) : State :=
  { state with
    database := state.database.rollbackTo event.ledger
    producer := .polling ⟨none, some event.ledger⟩
    history := { state.history with
      openForks := if state.Quiet then
          state.history.openForks.filter fun ledger => decide (ledger < event.ledger)
        else state.history.openForks } }

def send (page : Page) (event : Event) (rest : List Event) : State :=
  if state.queue.length < QUEUE_CAPACITY then
    { state with
      queue := state.queue ++ [⟨event, page.latestLedger⟩]
      producer := .scanning page rest }
  else state

def endPage (ok : Bool) (page : Page) : State :=
  match page.last with
  | none => { state with producer := .polling page.position }
  | some id =>
    { state with
      database := if ok then state.database.save page.checkpointLedger (some id)
        else state.database
      producer := .polling ⟨some id, none⟩ }

/-- The next step of `run_producer`; a page has at most so many events. -/
def produce (config : Config) (ok : Bool) (count : Nat) : State :=
  match state.producer with
  | .starting =>
    { state with
      producer := .polling (resume config (if ok then state.database.checkpoint else none)) }
  | .polling position =>
    { state with
      producer := .fetching position (if ok then checkpointLedger state.database else 0) }
  | .fetching position level =>
    if ok then state.fetch position level count
    else { state with producer := .polling position }
  | .scanning page (event :: rest) => state.examine ok page event rest
  | .scanning page [] => state.endPage ok page
  | .alarmed page event rest =>
    if ok then state.rollback event else { state with producer := .sending page event rest }
  | .sending page event rest => state.send page event rest

/-! ### The workers -/

/-- The worker goes on with something else. -/
def put (worker : Nat) (hand : Hand) : State :=
  { state with hands := state.hands.set worker hand }

def receive (worker : Nat) : State :=
  match state.queue with
  | [] => state
  | job :: rest => { state with queue := rest }.put worker (.holding job)

/-- A worker inserts its event, and goes on to apply it when it is new and final. -/
def insertJob (config : Config) (worker : Nat) (job : IndexedEvent) : State :=
  match state.database.buffer.insert job.event with
  | none => state.put worker .idle
  | some buffer =>
    { state with
      database := { state.database with buffer := buffer }
      history := { state.history with inserted := job.event.id :: state.history.inserted } }.put
        worker (if job.event.ledger + config.confirmations ≤ job.latestLedger then .ready job
          else .idle)

/-- The event is passed to `apply_event_state`. -/
def pass (event : Event) : State :=
  { state with history := { state.history with passed := event :: state.history.passed } }

/-- The tables that `apply_event_state` leaves, with the event. -/
def succeed (event : Event) (tables : Tables) : State :=
  { state with
    database := { state.database with tables := tables }
    history := { state.history with succeeded := event :: state.history.succeeded } }

def finalizeRow (id : String) : State :=
  { state with database := state.database.finalize id }

variable (uuids : UuidSyntax) (config : Config)

/-- What `apply_event_state` makes of the tables, unless the database fails. -/
def attempt (ok : Bool) (event : Event) : Option Tables :=
  if ok then applyEventState uuids config event state.database.tables else none

def applyJob (ok : Bool) (worker : Nat) (job : IndexedEvent) : State :=
  match state.attempt uuids config ok job.event with
  | none => (state.pass job.event).put worker .idle
  | some tables => ((state.pass job.event).succeed job.event tables).put worker (.applied job)

def markJob (ok : Bool) (worker : Nat) (job : IndexedEvent) : State :=
  if ok then (state.finalizeRow job.event.id).put worker .idle else state.put worker .idle

/-- The next step of `run_persister`. -/
def work (worker : Nat) (ok : Bool) : State :=
  match state.hands[worker]? with
  | none => state
  | some .idle => state.receive worker
  | some (.holding job) =>
    if ok then state.insertJob config worker job else state.put worker .idle
  | some (.ready job) => state.applyJob uuids config ok worker job
  | some (.applied job) => state.markJob ok worker job

/-! ### The finalizer -/

/-- The finalizer goes on with something else. -/
def turn (finalizer : Finalizer) : State :=
  { state with finalizer := finalizer }

def observe : State :=
  if state.latest < config.confirmations + 1 then state
  else state.turn (.selecting (state.latest - config.confirmations))

/-- A row of no known kind is retired, any other is passed to `apply_event_state`. -/
def applyRow (ok : Bool) (bound : Nat) (event : Event) (rest : List Event) : State :=
  if event.kind = .unhandled then
    if ok then (state.finalizeRow event.id).turn (.sweeping bound rest) else state.turn .idle
  else
    match state.attempt uuids config ok event with
    | none => (state.pass event).turn .idle
    | some tables =>
      ((state.pass event).succeed event tables).turn (.marking bound event rest)

def markRow (ok : Bool) (bound : Nat) (event : Event) (rest : List Event) : State :=
  if ok then (state.finalizeRow event.id).turn (.sweeping bound rest) else state.turn .idle

def saveBound (ok : Bool) (bound : Nat) : State :=
  { state with
    database := if ok then state.database.save bound none else state.database
    finalizer := .pruning bound }

def prune (ok : Bool) (bound : Nat) : State :=
  { state with
    database := if ok then state.database.pruneWindow (bound - config.windowLedgers)
      else state.database
    finalizer := .idle }

/-- The next step of `run_finalizer`. -/
def sweep (ok : Bool) : State :=
  match state.finalizer with
  | .idle => state.observe config
  | .selecting bound =>
    if ok then state.turn (.sweeping bound (state.database.buffer.batch bound))
    else state.turn .idle
  | .sweeping bound (event :: rest) => state.applyRow uuids config ok bound event rest
  | .sweeping bound [] => state.saveBound ok bound
  | .marking bound event rest => state.markRow ok bound event rest
  | .pruning bound => state.prune config ok bound

/-- The process ends and is started again. -/
def crash : State :=
  { state with
    latest := 0
    producer := .starting
    queue := []
    hands := state.hands.map fun _ => .idle
    finalizer := .idle }

end State

/-! ### What a step can do

Every case of a step, with what it is guarded by. -/

section Cases

variable (uuids : UuidSyntax) (config : Config) (state : State)

inductive Produced (count : Nat) : Bool → State → Prop where
  | start (ok : Bool) (now : state.producer = .starting) :
    Produced count ok { state with
      producer := .polling (resume config (if ok then state.database.checkpoint else none)) }
  | load (ok : Bool) {position : Position} (now : state.producer = .polling position) :
    Produced count ok { state with
      producer := .fetching position (if ok then State.checkpointLedger state.database else 0) }
  | fetch {position : Position} {level : Nat} (now : state.producer = .fetching position level) :
    Produced count true (state.fetch position level count)
  | refused {position : Position} {level : Nat}
    (now : state.producer = .fetching position level) :
    Produced count false { state with producer := .polling position }
  | alarm (ok : Bool) {page : Page} {event : Event} {rest : List Event}
    (now : state.producer = .scanning page (event :: rest))
    (final : event.ledger ≤ page.checkpointLedger) :
    Produced count ok { state with producer := .alarmed page event rest }
  | accept (ok : Bool) {page : Page} {event : Event} {rest : List Event}
    (now : state.producer = .scanning page (event :: rest)) :
    Produced count ok { state with producer := .sending page event rest }
  | rollback {page : Page} {event : Event} {rest : List Event}
    (now : state.producer = .alarmed page event rest) :
    Produced count true (state.rollback event)
  | proceed {page : Page} {event : Event} {rest : List Event}
    (now : state.producer = .alarmed page event rest) :
    Produced count false { state with producer := .sending page event rest }
  | send (ok : Bool) {page : Page} {event : Event} {rest : List Event}
    (now : state.producer = .sending page event rest) :
    Produced count ok { state with
      queue := state.queue ++ [⟨event, page.latestLedger⟩], producer := .scanning page rest }
  | full (ok : Bool) {page : Page} {event : Event} {rest : List Event}
    (now : state.producer = .sending page event rest) : Produced count ok state
  | finish (ok : Bool) {page : Page} (now : state.producer = .scanning page []) :
    Produced count ok { state with producer := .polling page.next }
  | save {page : Page} {id : String} (now : state.producer = .scanning page [])
    (last : page.last = some id) :
    Produced count true { state with
      database := state.database.save page.checkpointLedger (some id)
      producer := .polling page.next }

theorem State.produced (ok : Bool) (count : Nat) :
    Produced config state count ok (state.produce config ok count) := by
  unfold produce
  split
  · exact .start ok ‹_›
  · exact .load ok ‹_›
  · cases ok with
    | true => exact .fetch ‹_›
    | false => exact .refused ‹_›
  · unfold examine
    split
    · rename_i final
      exact .alarm ok ‹_› final.1
    · exact .accept ok ‹_›
  · rename_i page now
    have finish : Produced config state count ok
        { state with producer := .polling page.next } := .finish ok now
    unfold endPage
    cases last : page.last with
    | none =>
      rw [Page.next, last] at finish
      exact finish
    | some id =>
      cases ok with
      | true =>
        have save : Produced config state count true { state with
            database := state.database.save page.checkpointLedger (some id)
            producer := .polling page.next } := .save now last
        rw [Page.next, last] at save
        exact save
      | false =>
        rw [Page.next, last] at finish
        exact finish
  · cases ok with
    | true => exact .rollback ‹_›
    | false => exact .proceed ‹_›
  · unfold send
    split
    · exact .send ok ‹_›
    · exact .full ok ‹_›

inductive Worked (worker : Nat) : Bool → State → Prop where
  | stay (ok : Bool) : Worked worker ok state
  | receive (ok : Bool) {job : IndexedEvent} {rest : List IndexedEvent}
    (hand : state.hands[worker]? = some .idle) (queue : state.queue = job :: rest) :
    Worked worker ok ({ state with queue := rest }.put worker (.holding job))
  | lose {job : IndexedEvent} (hand : state.hands[worker]? = some (.holding job)) :
    Worked worker false (state.put worker .idle)
  | duplicate {job : IndexedEvent} (hand : state.hands[worker]? = some (.holding job))
    (held : state.database.buffer.hasId job.event.id = true) :
    Worked worker true (state.put worker .idle)
  | insert {job : IndexedEvent} {buffer : Buffer}
    (hand : state.hands[worker]? = some (.holding job))
    (inserted : state.database.buffer.insert job.event = some buffer) {next : Hand}
    (goesOn : next = .ready job ∧ job.event.ledger + config.confirmations ≤ job.latestLedger ∨
      next = .idle) :
    Worked worker true ({ state with
      database := { state.database with buffer := buffer }
      history := { state.history with
        inserted := job.event.id :: state.history.inserted } }.put worker next)
  | fail (ok : Bool) {job : IndexedEvent} (hand : state.hands[worker]? = some (.ready job)) :
    Worked worker ok ((state.pass job.event).put worker .idle)
  | succeed {job : IndexedEvent} (hand : state.hands[worker]? = some (.ready job)) {tables : Tables}
    (applied : applyEventState uuids config job.event state.database.tables = some tables) :
    Worked worker true
      (((state.pass job.event).succeed job.event tables).put worker (.applied job))
  | mark {job : IndexedEvent} (hand : state.hands[worker]? = some (.applied job)) :
    Worked worker true ((state.finalizeRow job.event.id).put worker .idle)
  | unmarked {job : IndexedEvent} (hand : state.hands[worker]? = some (.applied job)) :
    Worked worker false (state.put worker .idle)

variable {uuids config state} in
theorem State.applyEventState_of_attempt {ok : Bool} {event : Event} {tables : Tables}
    (applied : state.attempt uuids config ok event = some tables) :
    ok = true ∧ applyEventState uuids config event state.database.tables = some tables := by
  unfold attempt at applied
  split at applied
  · exact ⟨‹_›, applied⟩
  · cases applied

theorem State.worked (worker : Nat) (ok : Bool) :
    Worked uuids config state worker ok (state.work uuids config worker ok) := by
  unfold work
  split
  · exact .stay ok
  · unfold receive
    split
    · exact .stay ok
    · exact .receive ok ‹_› ‹_›
  · cases ok with
    | true =>
      show Worked uuids config state worker true (state.insertJob config worker _)
      unfold insertJob
      split
      · exact .duplicate ‹_› (Buffer.insert_eq_none.mp ‹_›)
      · refine .insert ‹_› ‹_› ?_
        split
        · exact .inl ⟨rfl, ‹_›⟩
        · exact .inr rfl
    | false => exact .lose ‹_›
  · unfold applyJob
    split
    · exact .fail ok ‹_›
    · obtain ⟨rfl, applied⟩ := applyEventState_of_attempt ‹_›
      exact .succeed ‹_› applied
  · cases ok with
    | true => exact .mark ‹_›
    | false => exact .unmarked ‹_›

inductive Swept : Bool → State → Prop where
  | stay (ok : Bool) : Swept ok state
  | observe (ok : Bool) (now : state.finalizer = .idle)
    (deep : config.confirmations < state.latest) :
    Swept ok (state.turn (.selecting (state.latest - config.confirmations)))
  | select {bound : Nat} (now : state.finalizer = .selecting bound) :
    Swept true (state.turn (.sweeping bound (state.database.buffer.batch bound)))
  | giveUp : Swept false (state.turn .idle)
  | retire {bound : Nat} {event : Event} {rest : List Event}
    (now : state.finalizer = .sweeping bound (event :: rest))
    (unhandled : event.kind = .unhandled) :
    Swept true ((state.finalizeRow event.id).turn (.sweeping bound rest))
  | fail (ok : Bool) {bound : Nat} {event : Event} {rest : List Event}
    (now : state.finalizer = .sweeping bound (event :: rest)) :
    Swept ok ((state.pass event).turn .idle)
  | succeed {bound : Nat} {event : Event} {rest : List Event}
    (now : state.finalizer = .sweeping bound (event :: rest)) {tables : Tables}
    (applied : applyEventState uuids config event state.database.tables = some tables) :
    Swept true (((state.pass event).succeed event tables).turn (.marking bound event rest))
  | mark {bound : Nat} {event : Event} {rest : List Event}
    (now : state.finalizer = .marking bound event rest) :
    Swept true ((state.finalizeRow event.id).turn (.sweeping bound rest))
  | save {bound : Nat} (now : state.finalizer = .sweeping bound []) :
    Swept true (state.saveBound true bound)
  | unsaved {bound : Nat} (now : state.finalizer = .sweeping bound []) :
    Swept false (state.turn (.pruning bound))
  | prune {bound : Nat} (now : state.finalizer = .pruning bound) :
    Swept true ({ state with
      database := state.database.pruneWindow (bound - config.windowLedgers) }.turn .idle)

theorem State.swept (ok : Bool) : Swept uuids config state ok (state.sweep uuids config ok) := by
  unfold sweep
  split
  · unfold State.observe
    split
    · exact .stay ok
    · exact .observe ok ‹_› (by omega)
  · cases ok with
    | true => exact .select ‹_›
    | false => exact .giveUp
  · unfold applyRow
    split
    · cases ok with
      | true => exact .retire ‹_› ‹_›
      | false => exact .giveUp
    · split
      · exact .fail ok ‹_›
      · obtain ⟨rfl, applied⟩ := applyEventState_of_attempt ‹_›
        exact .succeed ‹_› applied
  · cases ok with
    | true => exact .save ‹_›
    | false => exact .unsaved ‹_›
  · cases ok with
    | true => exact .mark ‹_›
    | false => exact .giveUp
  · cases ok with
    | true => exact .prune ‹_›
    | false => exact .giveUp

end Cases

/-! ### Runs -/

/-- Whose step is next. A task whose statement or request fails takes its step with `false`. -/
inductive Action where
  | grow (next : Chain)
  | fork (ledger : Nat) (next : Chain)
  | produce (ok : Bool) (count : Nat)
  | work (worker : Nat) (ok : Bool)
  | sweep (ok : Bool)
  | crash

def Action.isFork : Action → Bool
  | .fork _ _ => true
  | _ => false

def step (uuids : UuidSyntax) (config : Config) (state : State) : Action → State
  | .grow next => state.grow next
  | .fork ledger next => state.fork ledger next
  | .produce ok count => state.produce config ok count
  | .work worker ok => state.work uuids config worker ok
  | .sweep ok => state.sweep uuids config ok
  | .crash => state.crash

/-- The pipeline starts on an empty buffer, under any chain and with any number of workers. -/
def State.boot (chain : Chain) (tables : Tables) (workers : Nat) : State where
  chain := chain
  database := ⟨.empty, none, tables⟩
  latest := 0
  producer := .starting
  queue := []
  hands := List.replicate workers .idle
  finalizer := .idle
  history := ⟨[], [], [], chain.head, []⟩

/-! ### Sweeps that no other task interrupts -/

section Uninterrupted

variable (uuids : UuidSyntax) (config : Config)

/-- The finalizer takes so many steps. -/
def State.sweeps (state : State) (count : Nat) : State :=
  runActions (step uuids config) state (List.replicate count (.sweep true))

theorem State.sweeps_succ (state : State) (count : Nat) :
    state.sweeps uuids config (count + 1) =
      (state.sweep uuids config true).sweeps uuids config count := rfl

theorem State.sweeps_add (state : State) (first second : Nat) :
    state.sweeps uuids config (first + second) =
      (state.sweeps uuids config first).sweeps uuids config second := by
  unfold sweeps
  rw [List.replicate_add, runActions_append]

variable {state : State} {bound : Nat}

/-- The loop over the rows of a batch. -/
theorem exists_sweeps_finalizeRows {rows : List Event}
    (now : state.finalizer = .sweeping bound rows) {result : Database} {done : Bool}
    (swept : finalizeRows (applyEventState uuids config) rows state.database = (result, done)) :
    ∃ count, (state.sweeps uuids config count).database = result ∧
      (state.sweeps uuids config count).finalizer =
        if done then .sweeping bound [] else .idle := by
  induction rows generalizing state with
  | nil =>
    cases swept
    exact ⟨0, rfl, now⟩
  | cons event rest inductionHypothesis =>
    have first : state.sweep uuids config true =
        state.applyRow uuids config true bound event rest := by
      unfold State.sweep
      rw [now]
    have next (state : State) : (state.turn (.sweeping bound rest)).finalizer =
        .sweeping bound rest := rfl
    unfold State.applyRow at first
    unfold finalizeRows at swept
    split at swept
    · rename_i unhandled
      rw [if_pos unhandled] at first
      obtain ⟨count, reached⟩ := inductionHypothesis (next (state.finalizeRow event.id)) swept
      refine ⟨count + 1, ?_⟩
      rw [State.sweeps_succ, first]
      exact reached
    · rename_i handled
      rw [if_neg handled, State.attempt, if_pos rfl] at first
      split at swept
      · rename_i failed
        cases swept
        rw [failed] at first
        refine ⟨1, ?_⟩
        rw [State.sweeps_succ, first]
        exact ⟨rfl, rfl⟩
      · rename_i tables applied
        rw [applied] at first
        obtain ⟨count, reached⟩ := inductionHypothesis
          (next (((state.pass event).succeed event tables).finalizeRow event.id)) swept
        refine ⟨count + 2, ?_⟩
        rw [State.sweeps_succ, first, State.sweeps_succ]
        exact reached

/-- The end of a sweep: the checkpoint is saved and the window pruned. -/
theorem State.sweeps_end (now : state.finalizer = .sweeping bound []) :
    (state.sweeps uuids config 2).database =
        (state.database.save bound none).pruneWindow (bound - config.windowLedgers) ∧
      (state.sweeps uuids config 2).finalizer = .idle := by
  have saved : state.sweep uuids config true = state.saveBound true bound := by
    unfold sweep
    rw [now]
  rw [sweeps_succ, saved]
  exact ⟨rfl, rfl⟩

/-- The steps of the finalizer, when no other task moves, are one turn of `run_finalizer`. -/
theorem exists_sweeps_runFinalizer (now : state.finalizer = .idle) :
    ∃ count, (state.sweeps uuids config count).database =
        runFinalizer (applyEventState uuids config) config state.latest state.database ∧
      (state.sweeps uuids config count).finalizer = .idle := by
  have observed : state.sweep uuids config true = state.observe config := by
    unfold State.sweep
    rw [now]
  unfold State.observe at observed
  unfold runFinalizer finalizeBatch
  dsimp only
  split
  · exact ⟨0, rfl, now⟩
  · rename_i deep
    rw [if_neg deep] at observed
    generalize state.latest - config.confirmations = bound at observed ⊢
    have selected : (state.turn (.sweeping bound (state.database.buffer.batch bound))).finalizer =
      .sweeping bound (state.database.buffer.batch bound) := rfl
    have start (count : Nat) : state.sweeps uuids config (count + 2) =
        (state.turn (.sweeping bound (state.database.buffer.batch bound))).sweeps uuids config
          count := by
      rw [State.sweeps_succ, observed, State.sweeps_succ]
      rfl
    split
    · rename_i result swept
      obtain ⟨count, database, finalizer⟩ := exists_sweeps_finalizeRows uuids config selected swept
      refine ⟨count + 2 + 2, ?_⟩
      rw [State.sweeps_add, start, ← database]
      exact State.sweeps_end uuids config finalizer
    · rename_i result swept
      obtain ⟨count, reached⟩ := exists_sweeps_finalizeRows uuids config selected swept
      refine ⟨count + 2, ?_⟩
      rw [start]
      exact reached

/-- A row of the first ledger waits, and the head is the tenth. -/
theorem waiting_row_sweeps :
    let row : Row := ⟨⟨"0001", 1, "ticket_payment", "PaymentProcessed", []⟩, false⟩
    let state : State := { State.boot ⟨[], 10, .nil, by simp⟩ .empty 1 with
      latest := 10
      database := ⟨⟨[row], List.nodup_singleton _⟩, none, .empty⟩ }
    ∃ count, (state.sweeps .hyphenated .twoContracts count).database =
        runFinalizer (applyEventState .hyphenated .twoContracts) .twoContracts 10 state.database ∧
      (state.sweeps .hyphenated .twoContracts count).finalizer = .idle :=
  exists_sweeps_runFinalizer _ _ rfl

end Uninterrupted

end Agora.Indexer

/-
This file proves when workers that run side by side give the sequential result.

Workers take events from the queue in the order of the chain, and then each goes at its own
pace: a later event may be applied before an earlier one, and the finalizer may apply a row
that a worker has not finalized yet. Effects on different tickets and organizers commute, and
an effect that is performed again at its place changes nothing. So where no event is applied
after a later one that it conflicts with, the tables are those of the events that were
applied, in the order of the chain.
-/

import Mathlib.Data.List.Induction
import Agora.Indexer.Pipeline
import Agora.Indexer.Replay

namespace Agora.Indexer

/-- The events are applied one by one, in the order of the list. -/
def applyInOrder (uuids : UuidSyntax) (config : Config) (events : List Event) (tables : Tables) :
    Tables :=
  performAll (fun event tables => (applyEventState uuids config event tables).getD tables) events
    tables

/-- All events of the chain wait in the queue, each with the head that its page reported. -/
def State.queued (chain : Chain) (latestLedger : Event → Nat) (latest : Nat) (tables : Tables)
    (workers : Nat) : State :=
  { State.boot chain tables workers with
    latest := latest
    queue := chain.events.map fun event => ⟨event, latestLedger event⟩ }

/-- The step is one of the workers or of the finalizer. -/
def Action.persists : Action → Bool
  | .work _ _ => true
  | .sweep _ => true
  | _ => false

/-- The event that the worker is about to apply. -/
def Hand.applying? : Hand → Option Event
  | .ready job => some job.event
  | _ => none

/-- The event that the finalizer is about to apply. -/
def Finalizer.applying? : Finalizer → Option Event
  | .sweeping _ (event :: _) => some event
  | _ => none

section Order

variable (uuids : UuidSyntax) (config : Config)

/-- No later event that the event conflicts with has been applied. -/
def State.InTime (state : State) (event : Event) : Prop :=
  ∀ later ∈ state.history.succeeded, event.Precedes later →
    (effectOf uuids config event).conflicts (effectOf uuids config later) = false

instance (state : State) (event : Event) : Decidable (state.InTime uuids config event) :=
  inferInstanceAs (Decidable (∀ later ∈ state.history.succeeded, _ → _))

/-- Events are applied in time. -/
def InOrder (state : State) : Action → Prop
  | .work worker ok => ok = true → ∀ hand ∈ state.hands[worker]?, ∀ event ∈ hand.applying?,
    state.InTime uuids config event
  | .sweep ok => ok = true → ∀ event ∈ state.finalizer.applying?,
    state.InTime uuids config event
  | _ => True

instance (state : State) : ∀ action, Decidable (InOrder uuids config state action)
  | .work worker _ => inferInstanceAs (Decidable (_ → ∀ hand ∈ state.hands[worker]?,
      ∀ event ∈ hand.applying?, state.InTime uuids config event))
  | .sweep _ => inferInstanceAs (Decidable (_ → ∀ event ∈ state.finalizer.applying?,
      state.InTime uuids config event))
  | .grow _ | .fork _ _ | .produce _ _ | .crash => isTrue trivial

end Order

/-! ### The tables while the tasks run -/

theorem applyInOrder_eq (uuids : UuidSyntax) (config : Config) (events : List Event)
    (tables : Tables) :
    applyInOrder uuids config events tables =
      performAll (fun event => (effectOf uuids config event).act) events tables := by
  unfold applyInOrder
  congr
  funext event tables
  rw [applyEventState_eq_run]
  rfl

theorem Chain.eq_of_id (chain : Chain) {first second : Event} (one : first ∈ chain.events)
    (other : second ∈ chain.events) (same : first.id = second.id) : first = second :=
  List.inj_on_of_nodup_map chain.ids_nodup one other same

/-- The tables are those of the events that were applied, in the order of the chain. Every event
that was inserted and needs to be applied was applied, or its row is pending. -/
structure Sequential (uuids : UuidSyntax) (config : Config) (chain : Chain) (start : Tables)
    (state : State) : Prop where
  tables : state.database.tables =
    applyInOrder uuids config (chain.events.filter (· ∈ state.history.succeeded)) start
  queued : ∀ job ∈ state.queue, job.event ∈ chain.events
  busy : ∀ hand ∈ state.hands, ∀ job ∈ hand.job?, job.event ∈ chain.events
  stored : ∀ row ∈ state.database.buffer.rows, row.event ∈ chain.events
  batch : ∀ event ∈ state.finalizer.rows, event ∈ chain.events
  performed : ∀ event ∈ state.history.succeeded, event ∈ chain.events
  applied : ∀ job, Hand.applied job ∈ state.hands → job.event ∈ state.history.succeeded
  marking : ∀ bound event rest, state.finalizer = .marking bound event rest →
    event ∈ state.history.succeeded
  settled : ∀ event ∈ chain.events, event.id ∈ state.history.inserted →
    ⟨event, false⟩ ∈ state.database.buffer.rows ∨ event ∈ state.history.succeeded ∨
      event.kind = .unhandled

namespace Sequential

variable {uuids : UuidSyntax} {config : Config} {chain : Chain} {start : Tables} {state : State}

theorem queued_start {latestLedger : Event → Nat} {latest workers : Nat} :
    Sequential uuids config chain start (.queued chain latestLedger latest start workers) := by
  have idle {hand : Hand} (member : hand ∈ List.replicate workers Hand.idle) : hand = .idle :=
    List.eq_of_mem_replicate member
  refine {
    tables := ?_
    queued := fun job member => ?_
    busy := fun hand member job held => ?_
    stored := fun _ absent => by cases absent
    batch := fun _ absent => by cases absent
    performed := fun _ absent => by cases absent
    applied := fun job member => by cases idle member
    marking := fun _ _ _ absent => by cases absent
    settled := fun _ _ absent => by cases absent }
  · have none : chain.events.filter (· ∈ ([] : List Event)) = [] :=
      List.filter_eq_nil_iff.mpr fun event _ => by simp
    show start = applyInOrder uuids config (chain.events.filter (· ∈ ([] : List Event))) start
    rw [none]
    rfl
  · obtain ⟨event, inside, rfl⟩ := List.mem_map.mp member
    exact inside
  · rw [idle member] at held
    cases held

variable {event : Event} {tables : Tables}

variable (sequential : Sequential uuids config chain start state)

include sequential

section

variable (member : event ∈ chain.events) (inTime : state.InTime uuids config event)
  (applied : applyEventState uuids config event state.database.tables = some tables)

include member inTime applied

/-- One more event is applied, or one of them again. -/
theorem tables_succeed :
    tables = applyInOrder uuids config
      (chain.events.filter (· ∈ event :: state.history.succeeded)) start := by
  obtain ⟨before, after, parts⟩ := List.append_of_mem member
  have once : chain.events.Nodup := chain.ids_nodup.of_map
  have ordered := chain.ordered
  rw [parts] at once ordered
  have later : ∀ other ∈ after, event.Precedes other :=
    (List.pairwise_cons.mp (List.pairwise_append.mp ordered).2.1).1
  have acted : tables = (effectOf uuids config event).act state.database.tables := by
    rw [Effect.act, ← applyEventState_eq_run, applied, Option.getD_some]
  rw [acted, sequential.tables, applyInOrder_eq, applyInOrder_eq, parts]
  refine act_performAll_filter once (Effect.act_idempotent _) (fun other inAfter done => ?_) start
  exact Effect.act_commute (inTime other done (later other inAfter))

theorem succeed : Sequential uuids config chain start ((state.pass event).succeed event tables) :=
  { sequential with
    tables := sequential.tables_succeed member inTime applied
    performed := List.forall_mem_cons.mpr ⟨member, sequential.performed⟩
    applied := fun job done => List.mem_cons_of_mem _ (sequential.applied job done)
    marking := fun bound other rest now =>
      List.mem_cons_of_mem _ (sequential.marking bound other rest now)
    settled := fun other inside inserted =>
      (sequential.settled other inside inserted).imp_right (Or.imp_left (List.mem_cons_of_mem _)) }

end

/-- An event that could not be applied leaves the tables alone. -/
theorem pass (event : Event) : Sequential uuids config chain start (state.pass event) :=
  { sequential with }

/-- The row of an event that was applied, or that nothing is done with, is finalized. -/
theorem finalizeRow (member : event ∈ chain.events)
    (done : event ∈ state.history.succeeded ∨ event.kind = .unhandled) :
    Sequential uuids config chain start (state.finalizeRow event.id) := by
  refine { sequential with
    stored := fun row stored => ?_
    settled := fun other inside inserted => ?_ }
  · obtain ⟨old, present, rfl⟩ := Buffer.mem_finalize.mp stored
    exact sequential.stored old present
  · by_cases same : other.id = event.id
    · rw [chain.eq_of_id inside member same]
      exact .inr done
    · refine (sequential.settled other inside inserted).imp_left fun pending => ?_
      exact Buffer.mem_finalize_pending.mpr ⟨pending, same⟩

variable {worker : Nat}

/-- A worker turns to something else. -/
theorem put {hand : Hand} (busy : ∀ job ∈ hand.job?, job.event ∈ chain.events)
    (applied : ∀ job, hand = .applied job → job.event ∈ state.history.succeeded) :
    Sequential uuids config chain start (state.put worker hand) := by
  refine { sequential with
    busy := fun other member => ?_
    applied := fun job member => ?_ }
  · rcases List.mem_or_eq_of_mem_set member with old | rfl
    · exact sequential.busy other old
    · exact busy
  · rcases List.mem_or_eq_of_mem_set member with old | new
    · exact sequential.applied job old
    · exact applied job new.symm

theorem put_idle : Sequential uuids config chain start (state.put worker .idle) :=
  sequential.put (fun _ absent => by cases absent) (fun _ absent => by cases absent)

theorem insert {buffer : Buffer} (member : event ∈ chain.events)
    (inserted : state.database.buffer.insert event = some buffer) :
    Sequential uuids config chain start { state with
      database := { state.database with buffer := buffer }
      history := { state.history with inserted := event.id :: state.history.inserted } } := by
  have rows {row : Row} : row ∈ buffer.rows ↔ row = ⟨event, false⟩ ∨
      row ∈ state.database.buffer.rows := Buffer.mem_of_insert inserted
  refine { sequential with
    stored := fun row stored => ?_
    settled := fun other inside recorded => ?_ }
  · rcases rows.mp stored with rfl | old
    · exact member
    · exact sequential.stored row old
  · rcases List.mem_cons.mp recorded with same | earlier
    · rw [chain.eq_of_id inside member same]
      exact .inl (rows.mpr (.inl rfl))
    · exact (sequential.settled other inside earlier).imp_left fun pending =>
        rows.mpr (.inr pending)

variable {next : State}

theorem work {ok : Bool} (worked : Worked uuids config state worker ok next)
    (inOrder : InOrder uuids config state (.work worker ok)) :
    Sequential uuids config chain start next := by
  have busy {hand : Hand} {job : IndexedEvent} (at_ : state.hands[worker]? = some hand)
      (has : hand.job? = some job) : job.event ∈ chain.events :=
    sequential.busy hand (List.mem_of_getElem? at_) job has
  cases worked with
  | stay => exact sequential
  | @receive _ job rest hand queue =>
    have first : job ∈ state.queue := queue ▸ List.mem_cons_self
    have others : Sequential uuids config chain start { state with queue := rest } :=
      { sequential with
        queued := fun other member =>
          sequential.queued other (queue ▸ List.mem_cons_of_mem _ member) }
    refine others.put ?_ (fun _ absent => by cases absent)
    rintro _ ⟨⟩
    exact sequential.queued job first
  | insert hand inserted goesOn =>
    have member := busy hand rfl
    have stored := sequential.insert member inserted
    rcases goesOn with ⟨rfl, -⟩ | rfl
    · refine stored.put ?_ (fun _ absent => by cases absent)
      rintro _ ⟨⟩
      exact member
    · exact stored.put_idle
  | fail => exact (sequential.pass _).put_idle
  | succeed hand applied =>
    have member := busy hand rfl
    refine (sequential.succeed member (inOrder rfl _ hand _ rfl) applied).put ?_ ?_
    · rintro _ ⟨⟩
      exact member
    · rintro _ ⟨⟩
      exact List.mem_cons_self
  | mark hand =>
    have done := sequential.applied _ (List.mem_of_getElem? hand)
    exact (sequential.finalizeRow (busy hand rfl) (.inl done)).put_idle
  | lose | duplicate | unmarked => exact sequential.put_idle

/-- The finalizer turns to something else than a mark. -/
theorem turn {finalizer : Finalizer} (batch : ∀ event ∈ finalizer.rows, event ∈ chain.events)
    (marks : ∀ bound event rest, finalizer ≠ .marking bound event rest) :
    Sequential uuids config chain start (state.turn finalizer) :=
  { sequential with
    batch := batch
    marking := fun bound event rest now => absurd now (marks bound event rest) }

theorem sweep {ok : Bool} (swept : Swept uuids config state ok next)
    (inOrder : InOrder uuids config state (.sweep ok)) :
    Sequential uuids config chain start next := by
  have batch {finalizer : Finalizer} (now : state.finalizer = finalizer) :
      ∀ event ∈ finalizer.rows, event ∈ chain.events := now ▸ sequential.batch
  have idle {state : State} (sequential : Sequential uuids config chain start state) :
      Sequential uuids config chain start (state.turn .idle) :=
    sequential.turn (fun _ absent => by cases absent) (fun _ _ _ absent => by cases absent)
  cases swept with
  | stay => exact sequential
  | observe | unsaved =>
    exact sequential.turn (fun _ absent => by cases absent) (fun _ _ _ absent => by cases absent)
  | select =>
    refine sequential.turn (fun event member => ?_) (fun _ _ _ absent => by cases absent)
    have pending := (Buffer.mem_backlog.mp (List.mem_of_mem_take member)).1
    exact sequential.stored _ pending
  | giveUp => exact idle sequential
  | retire now unhandled =>
    obtain ⟨member, rest⟩ := List.forall_mem_cons.mp (batch now)
    exact (sequential.finalizeRow member (.inr unhandled)).turn rest
      (fun _ _ _ absent => by cases absent)
  | fail => exact idle (sequential.pass _)
  | succeed now applied =>
    obtain ⟨member, rest⟩ := List.forall_mem_cons.mp (batch now)
    have inTime := inOrder rfl _ (by rw [now]; rfl)
    refine { sequential.succeed member inTime applied with batch := rest, marking := ?_ }
    rintro _ _ _ ⟨⟩
    exact List.mem_cons_self
  | mark now =>
    have rest := batch now
    have done := sequential.marking _ _ _ now
    exact (sequential.finalizeRow (sequential.performed _ done) (.inl done)).turn rest
      (fun _ _ _ absent => by cases absent)
  | save =>
    exact { sequential with
      batch := fun _ absent => by cases absent
      marking := fun _ _ _ absent => by cases absent }
  | prune =>
    refine idle { sequential with
      stored := fun row member => sequential.stored row (Buffer.mem_keep.mp member).1
      settled := fun event inside inserted => ?_ }
    refine (sequential.settled event inside inserted).imp_left fun pending => ?_
    exact Buffer.mem_keep.mpr ⟨pending, rfl⟩

theorem step {action : Action} (persists : action.persists = true)
    (inOrder : InOrder uuids config state action) :
    Sequential uuids config chain start (Indexer.step uuids config state action) := by
  cases action with
  | work worker ok => exact sequential.work (state.worked uuids config worker ok) inOrder
  | sweep ok => exact sequential.sweep (state.swept uuids config ok) inOrder
  | grow | fork | produce | crash => cases persists

/-- When every event was inserted and no row is pending, all events have been applied. -/
theorem complete (inserted : ∀ event ∈ chain.events, event.id ∈ state.history.inserted)
    (finalized : ∀ row ∈ state.database.buffer.rows, row.finalized = true) :
    state.database.tables = applyInOrder uuids config chain.events start := by
  rw [sequential.tables, applyInOrder_eq, applyInOrder_eq]
  refine performAll_filter (fun event member skipped tables => ?_)
  have never : event ∉ state.history.succeeded := of_decide_eq_false skipped
  rcases sequential.settled event member (inserted event member) with pending | done | unhandled
  · exact absurd (finalized _ pending) Bool.false_ne_true
  · exact absurd done never
  · rw [effectOf_of_unhandled uuids config event unhandled]
    rfl

end Sequential

/-- For any number of workers, where no event is applied after a later one that it conflicts with,
the tables in the end are those of the events applied one by one. -/
theorem workers_give_sequential_result (uuids : UuidSyntax) (config : Config) (chain : Chain)
    (latestLedger : Event → Nat) (latest : Nat) (tables : Tables) (workers : Nat)
    (actions : List Action) (persist : ∀ action ∈ actions, action.persists = true)
    (inOrder : Respects (step uuids config) (InOrder uuids config)
      (.queued chain latestLedger latest tables workers) actions) :
    let state := runActions (step uuids config)
      (.queued chain latestLedger latest tables workers) actions
    (∀ event ∈ chain.events, event.id ∈ state.history.inserted) →
      (∀ row ∈ state.database.buffer.rows, row.finalized = true) →
      state.database.tables = applyInOrder uuids config chain.events tables := by
  have both := (respects_of_forall persist _).and inOrder
  have sequential := respects_invariant (Sequential uuids config chain tables)
    (fun state action meets sequential => sequential.step meets.1 meets.2) _ actions both
    (.queued_start)
  exact sequential.complete

section Independent

variable (uuids : UuidSyntax) (config : Config) (chain : Chain)
  (apart : ∀ first ∈ chain.events, ∀ second ∈ chain.events, first ≠ second →
    (effectOf uuids config first).conflicts (effectOf uuids config second) = false)

include apart

/-- Events that conflict with no other are always in time. -/
theorem Sequential.inOrder {start : Tables} {state : State}
    (sequential : Sequential uuids config chain start state) {action : Action} :
    InOrder uuids config state action := by
  have inTime {event : Event} (member : event ∈ chain.events) :
      state.InTime uuids config event := by
    intro later done before
    refine apart event member later (sequential.performed later done) ?_
    rintro rfl
    exact lt_irrefl _ before.1
  cases action with
  | work worker ok =>
    intro _ hand at_ event applying
    cases hand with
    | ready job =>
      cases applying
      exact inTime (sequential.busy _ (List.mem_of_getElem? at_) job rfl)
    | _ => cases applying
  | sweep ok =>
    intro _ event applying
    refine inTime (sequential.batch event ?_)
    cases now : state.finalizer with
    | sweeping bound rows =>
      rw [now] at applying
      cases rows with
      | nil => cases applying
      | cons first rest =>
        cases applying
        exact List.mem_cons_self
    | _ =>
      rw [now] at applying
      cases applying
  | grow | fork | produce | crash => trivial

/-- Where no two events conflict, every schedule of any number of workers and the finalizer that
gets through gives the sequential result. -/
theorem independent_events_any_schedule (latestLedger : Event → Nat) (latest : Nat)
    (tables : Tables) (workers : Nat) (actions : List Action)
    (persist : ∀ action ∈ actions, action.persists = true) :
    let state := runActions (step uuids config)
      (.queued chain latestLedger latest tables workers) actions
    (∀ event ∈ chain.events, event.id ∈ state.history.inserted) →
      (∀ row ∈ state.database.buffer.rows, row.finalized = true) →
      state.database.tables = applyInOrder uuids config chain.events tables :=
  (respects_invariant (Sequential uuids config chain tables)
    (fun _ _ persists sequential =>
      sequential.step persists (sequential.inOrder uuids config chain apart))
    _ actions (respects_of_forall persist _) (.queued_start)).complete

end Independent

/-- Two tickets of one event are bought. -/
def twoPurchases : Chain where
  events := [("0001", 1, "first"), ("0002", 2, "second")].map fun (id, ledger, payment) =>
    ⟨id, ledger, "ticket_payment", "PaymentProcessed",
      [("payment_id", payment), ("event_id", party)]⟩
  head := 200
  ordered := by decide +kernel
  bounded := by decide

/-- Of two workers, the second is done before the first has applied its purchase. -/
theorem twoPurchases_twoWorkers :
    (runActions (step .hyphenated .twoContracts)
      (.queued twoPurchases (fun _ => 200) 200 oneParty 2)
      ([.work 0 true] ++ List.replicate 4 (.work 1 true) ++
        List.replicate 3 (.work 0 true))).database.tables =
      applyInOrder .hyphenated .twoContracts twoPurchases.events oneParty :=
  independent_events_any_schedule _ _ _ (by decide +kernel) _ _ _ _ _ (by decide)
    (by decide +kernel) (by decide +kernel)

/-! ### Refunds -/

theorem status_onTicket (events : Uuid → Bool) (key : TicketKey) (effect : Effect)
    (stored : Option Ticket) :
    (∃ ticket ∈ effect.onTicket events key stored, ticket.status = .revoked) ↔
      (∃ ticket ∈ stored, ticket.status = .revoked) ∨
        ∃ ticket ∈ stored, effect.revokes key ticket = true := by
  cases stored with
  | some ticket =>
    cases revokes : effect.revokes key ticket with
    | true => simp [Effect.onTicket, Effect.update_eq, revokes]
    | false => simp [Effect.onTicket, Effect.update_eq, revokes]
  | none =>
    cases effect with
    | create => simp [Effect.onTicket, Effect.creation]
    | _ => simp [Effect.onTicket, Effect.creation]

/-- A ticket is revoked in the end exactly where it was so before, or an event of the log revokes
it: a refund of its payment or of any payment for the same event, once the ticket is there. -/
theorem revoked_iff_refunded (uuids : UuidSyntax) (config : Config) (tables : Tables)
    (key : TicketKey) (log : List Event) :
    let after log := (applyInOrder uuids config log tables).tickets key
    (∃ ticket ∈ after log, ticket.status = .revoked) ↔
      (∃ ticket ∈ tables.tickets key, ticket.status = .revoked) ∨
        ∃ earlier event, earlier ++ [event] <+: log ∧
          ∃ ticket ∈ after earlier, (effectOf uuids config event).revokes key ticket = true := by
  intro after
  induction log using List.reverseRecOn with
  | nil => simp [after, applyInOrder, performAll]
  | append_singleton earlier event inductionHypothesis =>
    have last : after (earlier ++ [event]) = (effectOf uuids config event).onTicket
        (applyInOrder uuids config earlier tables).events key (after earlier) := by
      simp only [after, applyInOrder_eq, performAll_append]
      exact Effect.act_tickets _ _ key
    rw [last, status_onTicket, inductionHypothesis, or_assoc]
    refine or_congr_right ⟨?_, ?_⟩
    · rintro (⟨first, refund, within, revokes⟩ | revokes)
      · exact ⟨first, refund, within.trans (List.prefix_append _ _), revokes⟩
      · exact ⟨earlier, event, List.prefix_rfl, revokes⟩
    · rintro ⟨first, refund, within, revokes⟩
      rcases List.prefix_concat_iff.mp within with same | within
      · obtain ⟨rfl, rfl⟩ := List.append_inj' same rfl |>.imp id List.singleton_inj.mp
        exact .inr revokes
      · exact .inl ⟨first, refund, within, revokes⟩

/-! ### A purchase and two transfers -/

/-- One worker applies the events one after another, and the finalizer finds nothing to do. -/
theorem sequential_oneWorker :
    (runActions (step .hyphenated .twoContracts)
      (.queued twoTransfers (fun _ => 200) 200 oneParty 1)
      (List.replicate 12 (.work 0 true) ++ List.replicate 4 (.sweep true))).database.tables =
      applyInOrder .hyphenated .twoContracts twoTransfers.events oneParty :=
  workers_give_sequential_result _ _ _ _ _ _ _ _ (by decide) (by decide +kernel)
    (by decide +kernel) (by decide +kernel)

/-- One of two workers applies the transfers before the other has applied the purchase. All rows
are finalized, and the ticket belongs to the buyer. -/
theorem transfers_before_purchase :
    let state := runActions (step .hyphenated .twoContracts)
      (.queued twoTransfers (fun _ => 200) 200 oneParty 2)
      ([.work 0 true] ++ List.replicate 8 (.work 1 true) ++ List.replicate 3 (.work 0 true))
    let sequential := applyInOrder .hyphenated .twoContracts twoTransfers.events oneParty
    (∀ event ∈ twoTransfers.events, event.id ∈ state.history.inserted) ∧
      (∀ row ∈ state.database.buffer.rows, row.finalized = true) ∧
      ((state.database.tables.tickets (.stellar "ticket")).map Ticket.ownerWallet) =
        some (some "alice") ∧
      ((sequential.tickets (.stellar "ticket")).map Ticket.ownerWallet) =
        some (some "carol") := by
  decide +kernel

end Agora.Indexer

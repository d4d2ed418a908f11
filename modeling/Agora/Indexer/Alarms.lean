/-
This file proves when the producer takes no event of a chain that never forked for the sign
of a fork.

The producer compares an event with the checkpoint, and the finalizer moves the checkpoint to
the chain head less the confirmations, however far the producer has come. An event that was
not fetched by then is below the checkpoint and not in the buffer. Where the finalizer saves
its bound only after the producer has sent everything up to it, and a restart reads the
checkpoint, no event is ever below the checkpoint when it is fetched.
-/

import Agora.Indexer.Scan

namespace Agora.Indexer

/-- The producer is about to call `rollback_to`. -/
def Producer.isAlarmed : Producer → Bool
  | .alarmed _ _ _ => true
  | _ => false

/-- The ledger that the producer compares the events of its page with. -/
def Producer.level? : Producer → Option Nat
  | .starting => none
  | .polling _ => none
  | .fetching _ level => some level
  | .scanning page _ => some page.checkpointLedger
  | .alarmed page _ _ => some page.checkpointLedger
  | .sending page _ _ => some page.checkpointLedger

/-- The producer has sent everything up to the bound. -/
def State.CaughtUp (config : Config) (bound : Nat) (state : State) : Prop :=
  ∀ event ∈ state.unfetched config, bound < event.ledger

/-- The finalizer does not save a bound that the producer has yet to come to, and a restart reads
the checkpoint if there is one. -/
def Prudent (config : Config) (state : State) : Action → Prop
  | .produce ok _ => state.producer.next? = none → ok = true ∨ state.database.checkpoint = none
  | .sweep ok => ok = true → ∀ bound ∈ state.finalizer.saving?, state.CaughtUp config bound
  | _ => True

instance (config : Config) (bound : Nat) (state : State) :
    Decidable (state.CaughtUp config bound) :=
  inferInstanceAs (Decidable (∀ event ∈ state.unfetched config, bound < event.ledger))

instance (config : Config) (state : State) : ∀ action, Decidable (Prudent config state action)
  | .produce _ _ => inferInstanceAs (Decidable (_ → _ ∨ _))
  | .sweep _ => inferInstanceAs (Decidable (_ → ∀ _ ∈ state.finalizer.saving?, _))
  | .grow _ | .fork _ _ | .work _ _ | .crash => isTrue trivial

/-! ### Rows that wait stay -/

section Rows

variable {uuids : UuidSyntax} {config : Config} {state : State}

/-- The pending rows of one buffer are rows of the other. -/
def Retains (before after : Buffer) : Prop :=
  ∀ row ∈ before.rows, row.finalized = false → ∃ kept ∈ after.rows, kept.event = row.event

theorem Retains.refl (buffer : Buffer) : Retains buffer buffer :=
  fun row member _ => ⟨row, member, rfl⟩

theorem retains_insert {buffer next : Buffer} {event : Event}
    (inserted : buffer.insert event = some next) : Retains buffer next :=
  fun row member _ => ⟨row, (Buffer.mem_of_insert inserted).mpr (.inr member), rfl⟩

theorem retains_finalize {buffer : Buffer} {id : String} : Retains buffer (buffer.finalize id) :=
  fun row member _ => ⟨_, Buffer.mem_finalize.mpr ⟨row, member, rfl⟩, rfl⟩

theorem retains_pruneWindow (database : Database) (keepFromLedger : Nat) :
    Retains database.buffer (database.pruneWindow keepFromLedger).buffer := by
  intro row member pending
  refine ⟨row, Buffer.mem_keep.mpr ⟨member, ?_⟩, rfl⟩
  simp [pending]

/-- In no step but a rollback does the buffer lose a row that waits. -/
theorem retains_step (calm : state.producer.isAlarmed = false) (action : Action) :
    Retains state.database.buffer (step uuids config state action).database.buffer := by
  have same {next : State} (kept : next.database.buffer = state.database.buffer) :
      Retains state.database.buffer next.database.buffer := kept ▸ .refl _
  cases action with
  | grow next =>
    refine same ?_
    show (state.grow next).database.buffer = _
    unfold State.grow
    split
    · rfl
    · rfl
  | fork ledger next =>
    refine same ?_
    show (state.fork ledger next).database.buffer = _
    unfold State.fork
    split
    · rfl
    · rfl
  | produce ok count =>
    have produced := state.produced config ok count
    show Retains _ (state.produce config ok count).database.buffer
    generalize state.produce config ok count = next at produced
    cases produced with
    | rollback now =>
      rw [now] at calm
      cases calm
    | _ => exact same rfl
  | work worker ok =>
    have worked := state.worked uuids config worker ok
    show Retains _ (state.work uuids config worker ok).database.buffer
    generalize state.work uuids config worker ok = next at worked
    cases worked with
    | insert hand inserted => exact retains_insert inserted
    | mark => exact retains_finalize
    | _ => exact same rfl
  | sweep ok =>
    have swept := state.swept uuids config ok
    show Retains _ (state.sweep uuids config ok).database.buffer
    generalize state.sweep uuids config ok = next at swept
    cases swept with
    | retire => exact retains_finalize
    | mark => exact retains_finalize
    | prune => exact retains_pruneWindow _ _
    | _ => exact same rfl
  | crash => exact same rfl

end Rows

/-! ### Events that are fetched are above the checkpoint -/

/-- The checkpoint, and the ledger that the producer compares with, are below everything that is
to be fetched. -/
structure Calm (config : Config) (state : State) : Prop where
  aligned : Aligned config state
  saved_le : State.checkpointLedger state.database ≤ state.chain.head
  loaded_le : ∀ level ∈ state.producer.level?, level ≤ state.chain.head
  saved : ∀ event ∈ state.chain.after (resume config state.database.checkpoint),
    State.checkpointLedger state.database < event.ledger
  ahead : ∀ position ∈ state.producer.next?,
    ∀ event ∈ state.producer.unsent ++ state.chain.after position,
      State.checkpointLedger state.database < event.ledger
  loaded : ∀ level ∈ state.producer.level?, ∀ position ∈ state.producer.next?,
    ∀ event ∈ state.producer.unsent ++ state.chain.after position, level < event.ledger
  quiet : state.producer.isAlarmed = false

namespace Calm

variable {uuids : UuidSyntax} {config : Config} {state : State}

theorem boot {chain : Chain} {tables : Tables} {workers : Nat} :
    Calm config (.boot chain tables workers) where
  aligned := .boot
  saved_le := Nat.zero_le _
  loaded_le _ absent := by cases absent
  saved event member := (chain.bounded event (Chain.mem_after.mp member).1).1
  ahead _ absent := by cases absent
  loaded _ absent := by cases absent
  quiet := rfl

theorem grow (calm : Calm config state) (next : Chain) : Calm config (state.grow next) := by
  have aligned := calm.aligned.grow next
  unfold State.grow at aligned ⊢
  split
  · rename_i grown
    rw [if_pos grown] at aligned
    -- what is new is above the old head
    have above {position : Position} {level : Nat} (unsent : List Event)
        (old : ∀ event ∈ unsent ++ state.chain.after position, level < event.ledger)
        (le : level ≤ state.chain.head) :
        ∀ event ∈ unsent ++ next.after position, level < event.ledger := by
      intro event member
      rcases List.mem_append.mp member with early | late
      · exact old event (List.mem_append_left _ early)
      · obtain ⟨inside, admitted⟩ := Chain.mem_after.mp late
        rcases grown.old_or_fresh inside with known | fresh
        · exact old event (List.mem_append_right _ (Chain.mem_after.mpr ⟨known, admitted⟩))
        · exact le.trans_lt fresh
    exact {
      aligned := aligned
      saved_le := calm.saved_le.trans grown.head_le
      loaded_le := fun level member => (calm.loaded_le level member).trans grown.head_le
      saved := above [] calm.saved calm.saved_le
      ahead := fun position member => above _ (calm.ahead position member) calm.saved_le
      loaded := fun level level? position member =>
        above _ (calm.loaded level level? position member) (calm.loaded_le level level?)
      quiet := calm.quiet }
  · exact calm

variable {ok : Bool} {next : State}

theorem work (calm : Calm config state) {worker : Nat}
    (worked : Worked uuids config state worker ok next) : Calm config next := by
  have aligned := calm.aligned.work worked
  cases worked with
  | stay => exact calm
  | _ => exact { calm with aligned := aligned }

theorem sweep (calm : Calm config state) (swept : Swept uuids config state ok next)
    (caughtUp : ok = true → ∀ bound ∈ state.finalizer.saving?, state.CaughtUp config bound) :
    Calm config next := by
  have aligned := calm.aligned.sweep swept
  cases swept with
  | stay => exact calm
  | @save bound now =>
    refine { calm with aligned := aligned, saved_le := ?_, saved := ?_, ahead := ?_ }
    · exact calm.aligned.bound_le bound (by rw [now]; rfl)
    · exact fun event member => of_decide_eq_true (Chain.mem_after.mp member).2
    · intro position member event inside
      refine caughtUp rfl bound (by rw [now]; rfl) event ?_
      rwa [State.unfetched_of_next (show position ∈ state.producer.next? from member)]
  | _ => exact { calm with aligned := aligned }

variable {position : Position}

/-- The producer goes on from a position that everything after it is above the checkpoint. -/
theorem poll {database : Database}
    (aligned : Aligned config { state with database := database, producer := .polling position })
    (saved_le : State.checkpointLedger database ≤ state.chain.head)
    (saved : ∀ event ∈ state.chain.after (resume config database.checkpoint),
      State.checkpointLedger database < event.ledger)
    (ahead : ∀ event ∈ state.chain.after position, State.checkpointLedger database < event.ledger) :
    Calm config { state with database := database, producer := .polling position } where
  aligned := aligned
  saved_le := saved_le
  loaded_le _ absent := by cases absent
  saved := saved
  ahead := by
    rintro _ ⟨⟩
    exact ahead
  loaded _ absent := by cases absent
  quiet := rfl

variable (calm : Calm config state)

include calm

/-- The producer goes on with its page. -/
theorem advance {producer : Producer} {queue : List IndexedEvent}
    (aligned : Aligned config { state with producer := producer, queue := queue })
    (level : producer.level? = state.producer.level?)
    (next : producer.next? = state.producer.next?)
    (unsent : producer.unsent ⊆ state.producer.unsent) (quiet : producer.isAlarmed = false) :
    Calm config { state with producer := producer, queue := queue } := by
  have fewer {position : Position} {event : Event}
      (member : event ∈ producer.unsent ++ state.chain.after position) :
      event ∈ state.producer.unsent ++ state.chain.after position :=
    List.mem_append.mpr ((List.mem_append.mp member).imp_left fun early => unsent early)
  exact { calm with
    aligned := aligned
    loaded_le := fun ledger member => calm.loaded_le ledger (level ▸ member)
    ahead := fun position member event inside =>
      calm.ahead position (next ▸ member) event (fewer inside)
    loaded := fun ledger compared position member event inside =>
      calm.loaded ledger (level ▸ compared) position (next ▸ member) event (fewer inside)
    quiet := quiet }

theorem load (now : state.producer = .polling position) (ok : Bool)
    (aligned : Aligned config { state with
      producer := .fetching position (if ok then State.checkpointLedger state.database else 0) }) :
    Calm config { state with
      producer := .fetching position
        (if ok then State.checkpointLedger state.database else 0) } := by
  have ahead : ∀ event ∈ [] ++ state.chain.after position,
      State.checkpointLedger state.database < event.ledger := by
    have all := calm.ahead position (by rw [now]; rfl)
    rw [now] at all
    exact all
  refine { calm with
    aligned := aligned, loaded_le := ?_, ahead := ?_, loaded := ?_, quiet := rfl }
  · rintro _ ⟨⟩
    split
    · exact calm.saved_le
    · exact Nat.zero_le _
  · rintro _ ⟨⟩
    exact ahead
  · rintro _ ⟨⟩ _ ⟨⟩ event member
    split
    · exact ahead event member
    · exact Nat.zero_lt_of_lt (ahead event member)

theorem fetch {level : Nat} (now : state.producer = .fetching position level) (count : Nat)
    (aligned : Aligned config (state.fetch position level count)) :
    Calm config (state.fetch position level count) := by
  have at_ : position ∈ state.producer.next? := by rw [now]; rfl
  have compared : level ∈ state.producer.level? := by rw [now]; rfl
  have unsent : state.producer.unsent = [] := by rw [now]; rfl
  obtain ⟨page, events, fetched, same, -, whole, -⟩ := Aligned.fetch_eq
  rw [fetched] at aligned ⊢
  refine { calm with
    aligned := aligned, loaded_le := ?_, ahead := ?_, loaded := ?_, quiet := rfl }
  · rintro _ ⟨⟩
    exact same ▸ calm.loaded_le level compared
  · rintro _ ⟨⟩ event member
    refine calm.ahead position at_ event ?_
    rw [unsent, List.nil_append, ← whole]
    exact member
  · rintro _ ⟨⟩ _ ⟨⟩ event member
    refine same ▸ calm.loaded level compared position at_ event ?_
    rw [unsent, List.nil_append, ← whole]
    exact member

theorem produce {count : Nat} (produced : Produced config state count ok next)
    (reads : state.producer.next? = none → ok = true ∨ state.database.checkpoint = none) :
    Calm config next := by
  have aligned := calm.aligned.produce produced
  have goesOn {producer : Producer} (now : state.producer = producer) {position : Position}
      (next : producer.next? = some position) :
      ∀ event ∈ state.chain.after position,
        State.checkpointLedger state.database < event.ledger := fun event member =>
    calm.ahead position (now ▸ next) event (List.mem_append_right _ member)
  cases produced with
  | start _ now =>
    refine poll aligned calm.saved_le calm.saved ?_
    rcases reads (by rw [now]; rfl) with rfl | none
    · exact calm.saved
    · have same : (if ok = true then state.database.checkpoint else Option.none) =
          state.database.checkpoint := by
        rw [none, ite_self]
      rw [same]
      exact calm.saved
  | refused now | finish _ now => exact poll aligned calm.saved_le calm.saved (goesOn now rfl)
  | @save page id now last =>
    have level : page.checkpointLedger ∈ state.producer.level? := by rw [now]; rfl
    have above : ∀ event ∈ state.chain.after page.next, page.checkpointLedger < event.ledger :=
      fun event member => calm.loaded _ level page.next (by rw [now]; rfl) event
        (List.mem_append_right _ member)
    refine poll aligned (calm.loaded_le _ level) ?_ above
    show ∀ event ∈ state.chain.after ⟨some id, none⟩, _
    rw [Page.next, last] at above
    exact above
  | load ok now => exact calm.load now ok aligned
  | fetch now => exact calm.fetch now count aligned
  | @alarm ok page event rest now final =>
    -- the event is still to be fetched, so it is above the checkpoint
    refine absurd final (Nat.not_le.mpr ?_)
    refine calm.loaded _ (by rw [now]; rfl) page.next (by rw [now]; rfl) event ?_
    rw [now]
    exact List.mem_cons_self
  | accept _ now =>
    refine calm.advance aligned (by rw [now]; rfl) (by rw [now]; rfl) ?_ rfl
    rw [now]
    exact List.Subset.refl _
  | send _ now =>
    refine calm.advance aligned (by rw [now]; rfl) (by rw [now]; rfl) ?_ rfl
    rw [now]
    exact List.subset_cons_self _ _
  | full => exact calm
  | rollback now | proceed now =>
    have quiet := calm.quiet
    rw [now] at quiet
    cases quiet

theorem crash : Calm config state.crash :=
  { calm with
    aligned := calm.aligned.crash
    loaded_le := fun _ absent => by cases absent
    ahead := fun _ absent => by cases absent
    loaded := fun _ absent => by cases absent
    quiet := rfl }

theorem step {action : Action} (unforked : action.isFork = false)
    (prudent : Prudent config state action) :
    Calm config (Indexer.step uuids config state action) := by
  cases action with
  | grow next => exact calm.grow next
  | fork ledger next => cases unforked
  | produce ok count => exact calm.produce (state.produced config ok count) prudent
  | work worker ok => exact calm.work (state.worked uuids config worker ok)
  | sweep ok => exact calm.sweep (state.swept uuids config ok) prudent
  | crash => exact calm.crash

end Calm

/-- On a chain that never forks, where the finalizer saves no bound that the producer has yet to
come to, no rollback is called and no row that waits leaves the buffer. -/
theorem no_false_alarm (uuids : UuidSyntax) (config : Config) (chain : Chain) (tables : Tables)
    (workers : Nat) (actions : List Action)
    (unforked : ∀ action ∈ actions, action.isFork = false)
    (prudent : Respects (step uuids config) (Prudent config) (.boot chain tables workers)
      actions) :
    Respects (step uuids config)
      (fun state action => state.producer.isAlarmed = false ∧
        Retains state.database.buffer (step uuids config state action).database.buffer)
      (.boot chain tables workers) actions := by
  have both := (respects_of_forall unforked _).and prudent
  refine Respects.of_invariant (Calm config) ?_ ?_ _ actions both (.boot)
  · exact fun state action _ calm => ⟨calm.quiet, retains_step calm.quiet action⟩
  · exact fun state action meets calm => calm.step meets.1 meets.2

/-! ### A backlog of more than one page -/

section Backlog

/-- An event that nothing is done with. -/
def note (number : Nat) : Event where
  id := toString (1000 + number)
  ledger := number + 1
  contractId := "ticket_payment"
  topicName := "note"
  value := []

/-- One event in each of so many ledgers, and a head far above them. -/
def notes (count : Nat) : List Event :=
  (List.range count).map note

def shortChain : Chain where
  events := notes 1
  head := 10
  ordered := by decide +kernel
  bounded := by decide +kernel

def longChain : Chain where
  events := notes 101
  head := 200
  ordered := List.IsChain.pairwise (by decide +kernel)
  bounded := by decide +kernel

/-- The producer takes so many steps. -/
def producing (count : Nat) : List Action :=
  List.replicate count (.produce true MAX_EVENTS_PER_POLL)

/-- The event is fetched, inserted, applied and finalized, and the process starts again. -/
def wholeCycle : List Action :=
  producing 6 ++ List.replicate 4 (.work 0 true) ++ List.replicate 4 (.sweep true) ++
    [.crash] ++ producing 3

theorem calm_wholeCycle :
    Respects (step .hyphenated .twoContracts)
      (fun state action => state.producer.isAlarmed = false ∧
        Retains state.database.buffer
          (step .hyphenated .twoContracts state action).database.buffer)
      (.boot shortChain .empty 1) wholeCycle :=
  no_false_alarm _ _ _ _ _ _ (by decide) (by decide +kernel)

/-- The finalizer saves its bound while one event of 101 is not fetched. The event is then taken
for a fork, and the checkpoint is rolled back. -/
theorem alarmed_by_backlog :
    let state := runActions (step .hyphenated .twoContracts) (.boot longChain .empty 1)
      (producing 204 ++ List.replicate 3 (.sweep true) ++ producing 3)
    state.producer.isAlarmed = true ∧
      state.database.checkpoint = some ⟨198, none⟩ ∧
      (step .hyphenated .twoContracts state (.produce true 0)).database.checkpoint =
        some ⟨100, none⟩ := by
  decide +kernel

end Backlog

end Agora.Indexer

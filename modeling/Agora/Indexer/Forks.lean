/-
This file proves when a fork within the confirmation window leaves no trace.

An event that a fork leaves behind may be in the buffer already, as a pending row, or on its
way there. It is too young to be applied by a worker. But the row is not purged by the fork:
it is purged by a rollback, which the producer calls only for an event at or below the
checkpoint, and otherwise the finalizer applies it as soon as the head is high enough. Where
no sweep comes to the ledger of a fork that left fetched events behind before a rollback has
purged them, every event that was passed to `apply_event_state` is on the chain.
-/

import Agora.Indexer.Pipeline

namespace Agora.Indexer

/-- The fork is within the confirmation window, counted from the highest head so far. -/
def Shallow (config : Config) (state : State) : Action → Prop
  | .fork ledger _ => state.history.tallest < ledger + config.confirmations
  | _ => True

/-- A sweep is begun only below the forks that left fetched events behind. -/
def Patient (config : Config) (state : State) : Action → Prop
  | .sweep _ => state.finalizer.bound? = none →
    ∀ ledger ∈ state.history.openForks, state.latest < ledger + config.confirmations
  | _ => True

instance (config : Config) (state : State) : ∀ action, Decidable (Shallow config state action)
  | .fork _ _ => inferInstanceAs (Decidable (_ < _))
  | .grow _ | .produce _ _ | .work _ _ | .sweep _ | .crash => isTrue trivial

instance (config : Config) (state : State) : ∀ action, Decidable (Patient config state action)
  | .sweep _ => inferInstanceAs (Decidable (_ → ∀ ledger ∈ state.history.openForks, _))
  | .grow _ | .fork _ _ | .produce _ _ | .work _ _ | .crash => isTrue trivial

/-! ### Events and the branches they are on -/

/-- The event is on the chain, or in a ledger that a fork left behind. -/
def Rooted (chain : Chain) (forks : List Nat) (event : Event) : Prop :=
  event ∈ chain.events ∨ ∃ ledger ∈ forks, ledger ≤ event.ledger

/-- The event is on the chain, and at a depth that no fork comes to. -/
structure Final (config : Config) (chain : Chain) (tallest : Nat) (event : Event) : Prop where
  member : event ∈ chain.events
  deep : event.ledger + config.confirmations ≤ tallest

/-- An event that was left behind was fetched before it could be final. -/
structure Sound (config : Config) (chain : Chain) (tallest : Nat) (forks : List Nat)
    (job : IndexedEvent) : Prop where
  latest_le : job.latestLedger ≤ tallest
  rooted : Rooted chain forks job.event
  young : job.event ∉ chain.events →
    job.latestLedger < job.event.ledger + config.confirmations

variable {chain : Chain} {job : IndexedEvent}

/-- An event that a worker finds final is final. -/
theorem Sound.final {config : Config} {tallest : Nat} {forks : List Nat}
    (sound : Sound config chain tallest forks job)
    (old : job.event.ledger + config.confirmations ≤ job.latestLedger) :
    Final config chain tallest job.event where
  member := by
    by_contra absent
    exact absurd old (Nat.not_le.mpr (sound.young absent))
  deep := old.trans sound.latest_le

/-- The events of the page on their way to the queue. -/
def Producer.jobs : Producer → List IndexedEvent
  | .scanning page rest => rest.map fun event => ⟨event, page.latestLedger⟩
  | .alarmed page event rest => (event :: rest).map fun event => ⟨event, page.latestLedger⟩
  | .sending page event rest => (event :: rest).map fun event => ⟨event, page.latestLedger⟩
  | _ => []

/-- The event of the job is sound in the state. -/
abbrev State.Sound (config : Config) (state : State) (job : IndexedEvent) : Prop :=
  Indexer.Sound config state.chain state.history.tallest state.history.openForks job

namespace State

variable {state : State} {event : Event}

theorem fetched_of_row {row : Row} (member : row ∈ state.database.buffer.rows) :
    row.event ∈ state.fetched := by
  simp only [fetched, List.mem_append, List.mem_map]
  exact .inl (.inl (.inl ⟨row, member, rfl⟩))

theorem fetched_of_page (member : job ∈ state.producer.jobs) : job.event ∈ state.fetched := by
  have unsent : job.event ∈ state.producer.unsent := by
    revert member
    cases state.producer with
    | scanning | alarmed | sending =>
      intro member
      obtain ⟨event, inPage, rfl⟩ := List.mem_map.mp member
      exact inPage
    | _ =>
      intro absent
      cases absent
  simp only [fetched, List.mem_append]
  exact .inl (.inl (.inr unsent))

theorem fetched_of_queue (member : job ∈ state.queue) : job.event ∈ state.fetched := by
  simp only [fetched, List.mem_append]
  exact .inl (.inr (List.mem_map_of_mem member))

theorem fetched_of_hand (member : Hand.holding job ∈ state.hands) : job.event ∈ state.fetched := by
  simp only [fetched, List.mem_append, List.mem_filterMap]
  exact .inr ⟨_, member, rfl⟩

end State

/-- What was passed to `apply_event_state` is final, and so is what the workers and the finalizer
are about to pass to it. What is on its way to the buffer, or waits there, is on the chain or was
left behind by an open fork. -/
structure Traceless (config : Config) (state : State) : Prop where
  head_le : state.chain.head ≤ state.history.tallest
  latest_le : state.latest ≤ state.history.tallest
  passed : ∀ event ∈ state.history.passed, Final config state.chain state.history.tallest event
  ready : ∀ job, Hand.ready job ∈ state.hands →
    Final config state.chain state.history.tallest job.event
  batch : ∀ event ∈ state.finalizer.rows, Final config state.chain state.history.tallest event
  bound : ∀ bound, state.finalizer = .selecting bound →
    bound + config.confirmations ≤ state.history.tallest ∧
      ∀ ledger ∈ state.history.openForks, bound < ledger
  page : ∀ job ∈ state.producer.jobs, state.Sound config job
  queued : ∀ job ∈ state.queue, state.Sound config job
  held : ∀ job, Hand.holding job ∈ state.hands → state.Sound config job
  pending : ∀ event, ⟨event, false⟩ ∈ state.database.buffer.rows →
    Rooted state.chain state.history.openForks event

/-- What a change of the chain and of the history keeps of the events that were fetched. -/
structure Carries (config : Config) (state : State) (chain : Chain) (history : History) :
    Prop where
  head_le : chain.head ≤ history.tallest
  tallest_le : state.history.tallest ≤ history.tallest
  passed : history.passed = state.history.passed
  final : ∀ event, Final config state.chain state.history.tallest event → event ∈ chain.events
  forks : ∀ bound, bound + config.confirmations ≤ state.history.tallest →
    (∀ ledger ∈ state.history.openForks, bound < ledger) →
      ∀ ledger ∈ history.openForks, bound < ledger
  rooted : ∀ event ∈ state.fetched, Rooted state.chain state.history.openForks event →
    Rooted chain history.openForks event
  young : ∀ job, state.Sound config job → job.event ∉ chain.events →
    job.latestLedger < job.event.ledger + config.confirmations

namespace Traceless

variable {uuids : UuidSyntax} {config : Config} {state : State}

theorem boot {tables : Tables} {workers : Nat} :
    Traceless config (.boot chain tables workers) := by
  have idle {hand : Hand} (member : hand ∈ List.replicate workers Hand.idle) : hand = .idle :=
    List.eq_of_mem_replicate member
  exact {
    head_le := le_rfl
    latest_le := Nat.zero_le _
    passed := fun _ absent => by cases absent
    ready := fun job member => by cases idle member
    batch := fun _ absent => by cases absent
    bound := fun _ absent => by cases absent
    page := fun _ absent => by cases absent
    queued := fun _ absent => by cases absent
    held := fun job member => by cases idle member
    pending := fun _ absent => by cases absent }

variable (traceless : Traceless config state)

include traceless

theorem crash : Traceless config state.crash := by
  have idle {hand : Hand} (member : hand ∈ state.hands.map fun _ => Hand.idle) : hand = .idle := by
    obtain ⟨_, -, rfl⟩ := List.mem_map.mp member
    rfl
  exact { traceless with
    latest_le := Nat.zero_le _
    ready := fun job member => by cases idle member
    batch := fun _ absent => by cases absent
    bound := fun _ absent => by cases absent
    page := fun _ absent => by cases absent
    queued := fun _ absent => by cases absent
    held := fun job member => by cases idle member }

/-! ### The chain moves -/

theorem rechain {history : History} (carries : Carries config state chain history) :
    Traceless config { state with chain := chain, history := history } := by
  have final {event : Event} (old : Final config state.chain state.history.tallest event) :
      Final config chain history.tallest event :=
    ⟨carries.final event old, old.deep.trans carries.tallest_le⟩
  have sound {job : IndexedEvent} (fetched : job.event ∈ state.fetched)
      (old : state.Sound config job) : Sound config chain history.tallest history.openForks job :=
    ⟨old.latest_le.trans carries.tallest_le, carries.rooted _ fetched old.rooted,
      carries.young job old⟩
  exact {
    head_le := carries.head_le
    latest_le := traceless.latest_le.trans carries.tallest_le
    passed := fun event member => final (traceless.passed event (carries.passed ▸ member))
    ready := fun job member => final (traceless.ready job member)
    batch := fun event member => final (traceless.batch event member)
    bound := fun bound now => by
      obtain ⟨deep, below⟩ := traceless.bound bound now
      exact ⟨deep.trans carries.tallest_le, carries.forks bound deep below⟩
    page := fun job member => sound (State.fetched_of_page member) (traceless.page job member)
    queued := fun job member => sound (State.fetched_of_queue member) (traceless.queued job member)
    held := fun job member => sound (State.fetched_of_hand member) (traceless.held job member)
    pending := fun event member =>
      carries.rooted event (State.fetched_of_row member) (traceless.pending event member) }

theorem grow (next : Chain) : Traceless config (state.grow next) := by
  unfold State.grow
  split
  · rename_i grown
    exact traceless.rechain {
      head_le := le_max_right _ _
      tallest_le := le_max_left _ _
      passed := rfl
      final := fun _ final => grown.mem final.member
      forks := fun _ _ below => below
      rooted := fun _ _ rooted => rooted.imp_left grown.mem
      young := fun _ sound absent => sound.young fun member => absent (grown.mem member) }
  · exact traceless

/-- A shallow fork keeps what is final, and leaves a mark where it leaves events behind. -/
theorem fork {ledger : Nat} (next : Chain)
    (shallow : state.history.tallest < ledger + config.confirmations) :
    Traceless config (state.fork ledger next) := by
  unfold State.fork
  split
  · rename_i forked
    have common {event : Event} (member : event ∈ state.chain.events)
        (below : event.ledger < ledger) : event ∈ next.events := by
      have kept : event ∈ next.events.filter fun event => decide (event.ledger < ledger) := by
        rw [forked.common]
        exact List.mem_filter.mpr ⟨member, decide_eq_true below⟩
      exact (List.mem_filter.mp kept).1
    -- the open forks are those of before, and perhaps this one
    have older : state.history.openForks ⊆
        if state.LeavesBehind next then ledger :: state.history.openForks
        else state.history.openForks := by
      split
      · exact List.subset_cons_self _ _
      · exact List.Subset.refl _
    refine traceless.rechain {
      head_le := le_max_right _ _
      tallest_le := le_max_left _ _
      passed := rfl
      final := fun event final => common final.member ?_
      forks := fun bound deep below other opened => ?_
      rooted := fun event fetched rooted => ?_
      young := fun job sound absent => ?_ }
    · have deep := final.deep
      omega
    · replace opened := show other ∈ if state.LeavesBehind next then _ else _ from opened
      split at opened
      · rcases List.mem_cons.mp opened with rfl | old
        · omega
        · exact below other old
      · exact below other opened
    · rcases rooted with member | ⟨other, opened, le⟩
      · by_cases kept : event ∈ next.events
        · exact .inl kept
        · refine .inr ⟨ledger, ?_, ?_⟩
          · show ledger ∈ if state.LeavesBehind next then _ else _
            rw [if_pos ⟨event, fetched, member, kept⟩]
            exact List.mem_cons_self
          · by_contra below
            exact kept (common member (Nat.not_le.mp below))
      · exact .inr ⟨other, older opened, le⟩
    · by_cases member : job.event ∈ state.chain.events
      · have late : ledger ≤ job.event.ledger := by
          by_contra below
          exact absent (common member (Nat.not_le.mp below))
        have latest := sound.latest_le
        omega
      · exact sound.young member
  · exact traceless

/-! ### The tasks -/

theorem rollback (event : Event) : Traceless config (state.rollback event) := by
  unfold State.rollback
  split
  · -- nothing is on its way, and rows above a fork that is settled are purged
    rename_i quiet
    refine { traceless with bound := ?_, page := ?_, queued := ?_, held := ?_, pending := ?_ }
    · intro bound now
      obtain ⟨deep, below⟩ := traceless.bound bound now
      exact ⟨deep, fun ledger opened => below ledger (List.mem_filter.mp opened).1⟩
    · intro _ absent
      cases absent
    · intro job member
      rw [quiet.1] at member
      cases member
    · intro job member
      exact absurd rfl (quiet.2 _ member job)
    · intro other member
      obtain ⟨stored, kept⟩ := Buffer.mem_keep.mp member
      have low : other.ledger < event.ledger := of_decide_eq_true kept
      refine (traceless.pending other stored).imp_right fun ⟨ledger, opened, le⟩ => ?_
      exact ⟨ledger, List.mem_filter.mpr ⟨opened, decide_eq_true (le.trans_lt low)⟩, le⟩
  · refine { traceless with page := ?_, pending := ?_ }
    · intro _ absent
      cases absent
    · exact fun other member => traceless.pending other (Buffer.mem_keep.mp member).1

/-- The events of a page that is fetched are on the chain. -/
theorem sound_of_fetch {position : Position} {level count : Nat} :
    ∀ job ∈ (state.fetch position level count).producer.jobs, state.Sound config job := by
  intro job member
  obtain ⟨event, inPage, rfl⟩ := List.mem_map.mp member
  have onChain := (Chain.mem_after.mp (List.mem_of_mem_take inPage)).1
  exact ⟨traceless.head_le, .inl onChain, fun absent => absurd onChain absent⟩

variable {ok : Bool} {next : State}

theorem produce {count : Nat} (produced : Produced config state count ok next) :
    Traceless config next := by
  have page {producer : Producer} (now : state.producer = producer) :
      ∀ job ∈ producer.jobs, state.Sound config job := now ▸ traceless.page
  have nothing : ∀ job ∈ ([] : List IndexedEvent), state.Sound config job := fun _ absent => by
    cases absent
  cases produced with
  | fetch now =>
    exact { traceless with
      latest_le := traceless.head_le, page := traceless.sound_of_fetch }
  | rollback => exact traceless.rollback _
  | send _ now =>
    have sending := page now
    refine { traceless with page := ?_, queued := ?_ }
    · exact fun job member => sending job (List.mem_cons_of_mem _ member)
    · intro job member
      rcases List.mem_append.mp member with waiting | own
      · exact traceless.queued job waiting
      · rw [List.mem_singleton.mp own]
        exact sending _ List.mem_cons_self
  | full => exact traceless
  | alarm _ now | accept _ now | proceed now =>
    have rest := page now
    exact { traceless with page := rest }
  | start | load | refused | finish | save => exact { traceless with page := nothing }

variable {worker : Nat}

/-- A worker turns to something else. -/
theorem put {hand : Hand}
    (ready : ∀ job, hand = .ready job → Final config state.chain state.history.tallest job.event)
    (held : ∀ job, hand = .holding job → state.Sound config job) :
    Traceless config (state.put worker hand) := by
  refine { traceless with ready := fun job member => ?_, held := fun job member => ?_ }
  · rcases List.mem_or_eq_of_mem_set member with old | new
    · exact traceless.ready job old
    · exact ready job new.symm
  · rcases List.mem_or_eq_of_mem_set member with old | new
    · exact traceless.held job old
    · exact held job new.symm

theorem put_idle : Traceless config (state.put worker .idle) :=
  traceless.put (fun _ absent => by cases absent) (fun _ absent => by cases absent)

theorem pass {event : Event} (final : Final config state.chain state.history.tallest event) :
    Traceless config (state.pass event) := by
  refine { traceless with passed := fun other member => ?_ }
  rcases List.mem_cons.mp member with rfl | earlier
  · exact final
  · exact traceless.passed other earlier

theorem succeed (event : Event) (tables : Tables) : Traceless config (state.succeed event tables) :=
  { traceless with }

theorem finalizeRow (id : String) : Traceless config (state.finalizeRow id) :=
  { traceless with
    pending := fun event member =>
      traceless.pending event (Buffer.mem_finalize_pending.mp member).1 }

theorem insert {buffer : Buffer} (inserted : state.database.buffer.insert job.event = some buffer)
    (sound : state.Sound config job) (ids : List String) :
    Traceless config { state with
      database := { state.database with buffer := buffer }
      history := { state.history with inserted := ids } } := by
  refine { traceless with pending := fun event member => ?_ }
  rcases (Buffer.mem_of_insert inserted).mp member with new | old
  · cases new
    exact sound.rooted
  · exact traceless.pending event old

theorem work (worked : Worked uuids config state worker ok next) :
    Traceless config next := by
  cases worked with
  | stay => exact traceless
  | @receive _ job rest hand queue =>
    have first : job ∈ state.queue := queue ▸ List.mem_cons_self
    have others : Traceless config { state with queue := rest } :=
      { traceless with
        queued := fun other member =>
          traceless.queued other (queue ▸ List.mem_cons_of_mem _ member) }
    refine others.put (fun _ absent => by cases absent) ?_
    rintro _ ⟨⟩
    exact traceless.queued job first
  | insert hand inserted goesOn =>
    have sound := traceless.held _ (List.mem_of_getElem? hand)
    have stored := traceless.insert inserted sound
    rcases goesOn with ⟨rfl, old⟩ | rfl
    · refine (stored _).put ?_ (fun _ absent => by cases absent)
      rintro _ ⟨⟩
      exact sound.final old
    · exact (stored _).put_idle
  | fail _ hand =>
    exact (traceless.pass (traceless.ready _ (List.mem_of_getElem? hand))).put_idle
  | succeed hand =>
    have passed := traceless.pass (traceless.ready _ (List.mem_of_getElem? hand))
    exact (passed.succeed _ _).put (fun _ absent => by cases absent)
      (fun _ absent => by cases absent)
  | mark => exact (traceless.finalizeRow _).put_idle
  | lose | duplicate | unmarked => exact traceless.put_idle

/-- The finalizer turns to something else than the selection of rows. -/
theorem turn {finalizer : Finalizer}
    (batch : ∀ event ∈ finalizer.rows, Final config state.chain state.history.tallest event)
    (selected : ∀ bound, finalizer ≠ .selecting bound) : Traceless config (state.turn finalizer) :=
  { traceless with
    batch := batch
    bound := fun bound now => absurd now (selected bound) }

/-- The rows up to a bound below the open forks are final. -/
theorem final_of_batch {bound : Nat} (now : state.finalizer = .selecting bound) :
    ∀ event ∈ state.database.buffer.batch bound,
      Final config state.chain state.history.tallest event := by
  obtain ⟨deep, below⟩ := traceless.bound bound now
  intro event member
  obtain ⟨stored, le⟩ := Buffer.mem_backlog.mp (List.mem_of_mem_take member)
  refine ⟨?_, (Nat.add_le_add_right le _).trans deep⟩
  rcases traceless.pending event stored with onChain | ⟨ledger, opened, above⟩
  · exact onChain
  · exact absurd (above.trans le) (Nat.not_le.mpr (below ledger opened))

theorem sweep (swept : Swept uuids config state ok next)
    (patient : state.finalizer.bound? = none →
      ∀ ledger ∈ state.history.openForks, state.latest < ledger + config.confirmations) :
    Traceless config next := by
  have batch {finalizer : Finalizer} (now : state.finalizer = finalizer) :
      ∀ event ∈ finalizer.rows, Final config state.chain state.history.tallest event :=
    now ▸ traceless.batch
  have idle {state : State} (traceless : Traceless config state) :
      Traceless config (state.turn .idle) :=
    traceless.turn (fun _ absent => by cases absent) (fun _ absent => by cases absent)
  cases swept with
  | stay => exact traceless
  | observe _ now deep =>
    have low := patient (by rw [now]; rfl)
    have latest := traceless.latest_le
    refine { traceless with batch := fun _ absent => (by cases absent), bound := ?_ }
    rintro _ ⟨⟩
    refine ⟨?_, fun ledger opened => ?_⟩
    · show state.latest - config.confirmations + config.confirmations ≤ state.history.tallest
      rwa [Nat.sub_add_cancel deep.le]
    · have above := low ledger opened
      omega
  | select now =>
    exact traceless.turn (traceless.final_of_batch now) (fun _ absent => by cases absent)
  | giveUp => exact idle traceless
  | retire now =>
    have rows := batch now
    exact (traceless.finalizeRow _).turn
      (fun event member => rows event (List.mem_cons_of_mem _ member))
      (fun _ absent => by cases absent)
  | fail _ now => exact idle (traceless.pass (batch now _ List.mem_cons_self))
  | succeed now =>
    have rows := batch now
    have passed := (traceless.pass (rows _ List.mem_cons_self)).succeed
    exact (passed _ _).turn (fun event member => rows event (List.mem_cons_of_mem _ member))
      (fun _ absent => by cases absent)
  | mark now =>
    have rest := batch now
    exact (traceless.finalizeRow _).turn rest (fun _ absent => by cases absent)
  | save | unsaved =>
    exact { traceless with
      batch := fun _ absent => by cases absent
      bound := fun _ absent => by cases absent }
  | prune =>
    refine idle { traceless with pending := fun event member => ?_ }
    exact traceless.pending event (Buffer.mem_keep.mp member).1

theorem step {action : Action} (shallow : Shallow config state action)
    (patient : Patient config state action) :
    Traceless config (Indexer.step uuids config state action) := by
  cases action with
  | grow next => exact traceless.grow next
  | fork ledger next => exact traceless.fork next shallow
  | produce ok count => exact traceless.produce (state.produced config ok count)
  | work worker ok => exact traceless.work (state.worked uuids config worker ok)
  | sweep ok => exact traceless.sweep (state.swept uuids config ok) patient
  | crash => exact traceless.crash

end Traceless

/-- Under forks within the confirmation window, where no sweep comes to the ledger of a fork that
left fetched events behind, every event that was passed to `apply_event_state` is on the
chain. -/
theorem shallow_forks_leave_no_trace (uuids : UuidSyntax) (config : Config) (chain : Chain)
    (tables : Tables) (workers : Nat) (actions : List Action)
    (shallow : Respects (step uuids config) (Shallow config) (.boot chain tables workers) actions)
    (patient : Respects (step uuids config) (Patient config) (.boot chain tables workers)
      actions) :
    let state := runActions (step uuids config) (.boot chain tables workers) actions
    ∀ event ∈ state.history.passed, event ∈ state.chain.events := by
  have traceless := respects_invariant (Traceless config)
    (fun state action meets traceless => traceless.step meets.1 meets.2) _ actions
    (shallow.and patient) (.boot)
  exact fun event member => (traceless.passed event member).member

/-! ### A fork of one ledger -/

section OneLedger

/-- A transfer of some ticket. -/
def transferAt (id : String) (ledger : Nat) : Event where
  id := id
  ledger := ledger
  contractId := "ticket_payment"
  topicName := "TicketTransferred"
  value := [("payment_id", "ticket"), ("to", "alice")]

def abandonedBranch : Chain where
  events := [transferAt "0001" 1, transferAt "0003" 3]
  head := 3
  ordered := by decide +kernel
  bounded := by decide

/-- The last ledger of the other branch is replaced, and more follow. -/
def canonicalBranch : Chain where
  events := [transferAt "0001" 1, transferAt "0004" 4]
  head := 6
  ordered := by decide +kernel
  bounded := by decide

/-- Both events are inserted, and the first one is applied. Then the chain forks. -/
def forkAfterInsert : List Action :=
  List.replicate 8 (.produce true 2) ++ List.replicate 6 (.work 0 true) ++
    [.fork 3 canonicalBranch]

/-- A sweep below the fork. -/
theorem traceless_forkAfterInsert :
    let state := runActions (step .hyphenated .twoContracts) (.boot abandonedBranch .empty 1)
      (forkAfterInsert ++ List.replicate 5 (.sweep true))
    state.history.passed = [transferAt "0001" 1] ∧
      ∀ event ∈ state.history.passed, event ∈ state.chain.events :=
  ⟨by decide +kernel, shallow_forks_leave_no_trace _ _ _ _ _ _ (by decide +kernel)
    (by decide +kernel)⟩

/-- The event of the new branch is fetched, inserted and applied, and a sweep follows. It passes
the event that the fork left behind to `apply_event_state`, and then all rows are finalized. -/
theorem abandoned_event_passed :
    let boot := State.boot abandonedBranch .empty 1
    let actions := forkAfterInsert ++ List.replicate 5 (.produce true 2) ++
      List.replicate 4 (.work 0 true) ++ List.replicate 4 (.sweep true)
    let state := runActions (step .hyphenated .twoContracts) boot actions
    Respects (step .hyphenated .twoContracts) (Shallow .twoContracts) boot actions ∧
      state.chain.events = canonicalBranch.events ∧
      (∀ event ∈ state.chain.events, event.id ∈ state.history.inserted) ∧
      (∀ row ∈ state.database.buffer.rows, row.finalized = true) ∧
      transferAt "0003" 3 ∈ state.history.passed ∧
      transferAt "0003" 3 ∉ state.chain.events := by
  decide +kernel

end OneLedger

end Agora.Indexer

/-
This file proves when a restart skips no event.

An event is inserted long after it was fetched: it waits in the queue, and a worker holds it.
Meanwhile the producer saves the cursor of its page and the finalizer saves its bound, and
both write the position from which the next start resumes. The position is never past an
event that was not inserted, where the producer moves the checkpoint only when everything it
sent has reached the buffer, the finalizer saves a bound only when also everything up to it
was sent, and no insertion of a new event fails.
-/

import Agora.Indexer.Alarms

namespace Agora.Indexer

/-! ### Events on their way -/

namespace State

/-- The event waits in the queue, or a worker holds it. -/
def InFlight (state : State) (event : Event) : Prop :=
  (∃ job ∈ state.queue, job.event = event) ∨
    ∃ job, Hand.holding job ∈ state.hands ∧ job.event = event

/-- The event has been inserted, or is on its way to the buffer. -/
def Sent (state : State) (event : Event) : Prop :=
  event.id ∈ state.history.inserted ∨ state.InFlight event

theorem inserted_of_quiet {state : State} {event : Event} (quiet : state.Quiet)
    (sent : state.Sent event) : event.id ∈ state.history.inserted := by
  rcases sent with inserted | ⟨job, queued, -⟩ | ⟨job, held, -⟩
  · exact inserted
  · rw [quiet.1] at queued
    cases queued
  · exact absurd rfl (quiet.2 _ held job)

end State

/-- The checkpoint moves when the step of the producer succeeds. -/
def Producer.moves : Producer → Bool
  | .scanning _ [] => true
  | .alarmed _ _ _ => true
  | _ => false

/-- The checkpoint is moved when everything below it has been inserted, and no insertion of a new
event fails. -/
def Orderly (config : Config) (state : State) : Action → Prop
  | .produce ok _ => ok = true → state.producer.moves = true → state.Quiet
  | .work worker ok => ok = false →
    ∀ hand ∈ state.hands[worker]?, hand.isHolding = false
  | .sweep ok => ok = true →
    ∀ bound ∈ state.finalizer.saving?, state.Quiet ∧ state.CaughtUp config bound
  | _ => True

instance (config : Config) (state : State) : ∀ action, Decidable (Orderly config state action)
  | .produce _ _ => inferInstanceAs (Decidable (_ → _ → _))
  | .work worker _ => inferInstanceAs (Decidable (_ → ∀ _ ∈ state.hands[worker]?, _))
  | .sweep _ => inferInstanceAs (Decidable (_ → ∀ _ ∈ state.finalizer.saving?, _))
  | .grow _ | .fork _ _ | .crash => isTrue trivial

/-- Another item of a list is still there when one is replaced. -/
theorem mem_set_of_ne {Item : Type} {items : List Item} {index : Nat} {old new other : Item}
    (present : items[index]? = some old) (member : other ∈ items) (different : other ≠ old) :
    other ∈ items.set index new := by
  obtain ⟨place, found⟩ := List.mem_iff_getElem?.mp member
  have apart : index ≠ place := by
    rintro rfl
    rw [present] at found
    exact different (Option.some.inj found).symm
  refine List.mem_iff_getElem?.mpr ⟨place, ?_⟩
  rw [List.getElem?_set_ne apart, found]

/-! ### Nothing is skipped -/

/-- Every event of the chain from the configured start on was sent or will be fetched, and was
inserted or comes after the checkpoint. -/
structure Tracked (config : Config) (state : State) : Prop where
  aligned : Aligned config state
  recorded : ∀ row ∈ state.database.buffer.rows, row.event.id ∈ state.history.inserted
  covered : ∀ position ∈ state.producer.next?,
    ∀ event ∈ state.chain.events, config.startLedger ≤ event.ledger →
      state.Sent event ∨ event ∈ state.producer.unsent ++ state.chain.after position
  kept : ∀ event ∈ state.chain.events, config.startLedger ≤ event.ledger →
    event.id ∈ state.history.inserted ∨
      (resume config state.database.checkpoint).admits event = true

namespace Tracked

variable {uuids : UuidSyntax} {config : Config} {state : State}

theorem boot {chain : Chain} {tables : Tables} {workers : Nat} :
    Tracked config (.boot chain tables workers) where
  aligned := .boot
  recorded _ absent := by cases absent
  covered _ absent := by cases absent
  kept _ _ wanted := .inr (admits_resume_none wanted)

variable {event : Event}

/-- An event that was not inserted is still to be fetched when nothing is on its way. -/
theorem unfetched_of_quiet (tracked : Tracked config state) (quiet : state.Quiet)
    (member : event ∈ state.chain.events) (wanted : config.startLedger ≤ event.ledger) :
    event.id ∈ state.history.inserted ∨ event ∈ state.unfetched config := by
  cases next : state.producer.next? with
  | some position =>
    rw [State.unfetched_of_next next]
    exact (tracked.covered position next event member wanted).imp_left
      (State.inserted_of_quiet quiet)
  | none =>
    rw [State.unfetched_of_starting next]
    exact (tracked.kept event member wanted).imp_right fun admitted =>
      Chain.mem_after.mpr ⟨member, admitted⟩

theorem grow (tracked : Tracked config state) (next : Chain) :
    Tracked config (state.grow next) := by
  have aligned := tracked.aligned.grow next
  unfold State.grow at aligned ⊢
  split
  · rename_i grown
    rw [if_pos grown] at aligned
    refine { tracked with aligned := aligned, covered := ?_, kept := ?_ }
    · intro position at_ event member wanted
      by_cases old : event ∈ state.chain.events
      · refine (tracked.covered position at_ event old wanted).imp_right fun ahead => ?_
        exact List.mem_append.mpr ((List.mem_append.mp ahead).imp_right grown.mem_after)
      · refine .inr (List.mem_append_right _ (Chain.mem_after.mpr ⟨member, ?_⟩))
        exact (tracked.aligned.next_reaches position at_).admits_fresh grown member old wanted
    · intro event member wanted
      by_cases old : event ∈ state.chain.events
      · exact tracked.kept event old wanted
      · exact .inr (tracked.aligned.resume_reaches.admits_fresh grown member old wanted)
  · exact tracked

variable {worker : Nat}

/-- What is on its way stays so when a worker turns to something else, unless the worker held
it. -/
theorem inFlight_put {old : Hand} {new : Hand} (hand : state.hands[worker]? = some old)
    (inFlight : state.InFlight event) :
    (state.put worker new).InFlight event ∨ ∃ job, old = .holding job ∧ job.event = event := by
  rcases inFlight with queued | ⟨job, held, rfl⟩
  · exact .inl (.inl queued)
  · by_cases same : Hand.holding job = old
    · exact .inr ⟨job, same.symm, rfl⟩
    · exact .inl (.inr ⟨job, mem_set_of_ne hand held same, rfl⟩)

variable {ok : Bool} {next : State}

section

variable (tracked : Tracked config state)

include tracked

/-- A worker loses no event that was sent. -/
theorem sent_of_worked (worked : Worked uuids config state worker ok next)
    (orderly : ok = false → ∀ hand ∈ state.hands[worker]?, hand.isHolding = false)
    (sent : state.Sent event) : next.Sent event := by
  -- a worker that holds no event can turn to anything
  have free {old new : Hand} (hand : state.hands[worker]? = some old)
      (empty : ∀ job, old ≠ .holding job) : (state.put worker new).Sent event :=
    sent.imp_right fun inFlight => (inFlight_put hand inFlight).resolve_right
      fun ⟨job, holds, _⟩ => empty job holds
  cases worked with
  | stay => exact sent
  | receive _ hand queue =>
    rcases sent with inserted | ⟨job, queued, rfl⟩ | ⟨job, held, rfl⟩
    · exact .inl inserted
    · rw [queue] at queued
      rcases List.mem_cons.mp queued with rfl | later
      · obtain ⟨within, -⟩ := List.getElem?_eq_some_iff.mp hand
        exact .inr (.inr ⟨job, List.mem_set within _, rfl⟩)
      · exact .inr (.inl ⟨job, later, rfl⟩)
    · exact .inr (.inr ⟨job, mem_set_of_ne hand held (fun same => by cases same), rfl⟩)
  | lose hand =>
    have empty := orderly rfl _ hand
    cases empty
  | duplicate hand held =>
    rcases sent with inserted | inFlight
    · exact .inl inserted
    · rcases inFlight_put hand inFlight with still | ⟨job, ⟨⟩, rfl⟩
      · exact .inr still
      · obtain ⟨row, member, same⟩ := state.database.buffer.hasId_iff.mp held
        exact .inl (same ▸ tracked.recorded row member)
  | insert hand =>
    rcases sent with already | inFlight
    · exact .inl (List.mem_cons_of_mem _ already)
    · rcases inFlight_put hand inFlight with still | ⟨job, ⟨⟩, rfl⟩
      · exact .inr still
      · exact .inl List.mem_cons_self
  | fail _ hand | succeed hand | mark hand | unmarked hand =>
    exact free hand fun job same => by cases same

theorem recorded_of_worked (worked : Worked uuids config state worker ok next) :
    ∀ row ∈ next.database.buffer.rows, row.event.id ∈ next.history.inserted := by
  cases worked with
  | insert hand inserted =>
    intro row member
    rcases (Buffer.mem_of_insert inserted).mp member with rfl | old
    · exact List.mem_cons_self
    · exact List.mem_cons_of_mem _ (tracked.recorded row old)
  | mark =>
    intro row member
    obtain ⟨old, stored, rfl⟩ := Buffer.mem_finalize.mp member
    exact tracked.recorded old stored
  | _ => exact tracked.recorded

theorem work (worked : Worked uuids config state worker ok next)
    (orderly : ok = false → ∀ hand ∈ state.hands[worker]?, hand.isHolding = false) :
    Tracked config next := by
  have aligned := tracked.aligned.work worked
  have recorded := tracked.recorded_of_worked worked
  have sent : ∀ event, state.Sent event → next.Sent event := fun _ =>
    tracked.sent_of_worked worked orderly
  cases worked with
  | stay => exact tracked
  | insert =>
    exact {
      aligned := aligned
      recorded := recorded
      covered := fun position at_ event member wanted =>
        (tracked.covered position at_ event member wanted).imp_left (sent event)
      kept := fun event member wanted =>
        (tracked.kept event member wanted).imp_left (List.mem_cons_of_mem _) }
  | _ =>
    exact { tracked with
      aligned := aligned
      recorded := recorded
      covered := fun position at_ event member wanted =>
        (tracked.covered position at_ event member wanted).imp_left (sent event) }

theorem sweep (swept : Swept uuids config state ok next)
    (orderly : ok = true →
      ∀ bound ∈ state.finalizer.saving?, state.Quiet ∧ state.CaughtUp config bound) :
    Tracked config next := by
  have aligned := tracked.aligned.sweep swept
  have finalized (id : String) : ∀ row ∈ (state.database.buffer.finalize id).rows,
      row.event.id ∈ state.history.inserted := by
    intro row member
    obtain ⟨old, stored, rfl⟩ := Buffer.mem_finalize.mp member
    exact tracked.recorded old stored
  cases swept with
  | stay => exact tracked
  | @save bound now =>
    obtain ⟨quiet, caughtUp⟩ := orderly rfl bound (by rw [now]; rfl)
    refine { tracked with aligned := aligned, kept := fun event member wanted => ?_ }
    exact (tracked.unfetched_of_quiet quiet member wanted).imp_right fun ahead =>
      decide_eq_true (caughtUp event ahead)
  | retire | mark => exact { tracked with aligned := aligned, recorded := finalized _ }
  | prune =>
    exact { tracked with
      aligned := aligned
      recorded := fun row member => tracked.recorded row (Buffer.mem_keep.mp member).1 }
  | _ => exact { tracked with aligned := aligned }

/-- The producer goes on with a page or a position that has the same events ahead. -/
theorem advance {producer : Producer} {latest : Nat}
    (aligned : Aligned config { state with latest := latest, producer := producer })
    {old : Position} (from_ : old ∈ state.producer.next?)
    (same : ∀ position ∈ producer.next?, producer.unsent ++ state.chain.after position =
      state.producer.unsent ++ state.chain.after old) :
    Tracked config { state with latest := latest, producer := producer } :=
  { tracked with
    aligned := aligned
    covered := fun position at_ event member wanted =>
      (tracked.covered old from_ event member wanted).imp_right fun ahead =>
        same position at_ ▸ ahead }

end

variable {rest : List Event}

/-- Everything that is to be fetched comes from the ledger of the next event on. -/
theorem ledger_le_of_unfetched (aligned : Aligned config state) {other : Event}
    (first : state.unfetched config = event :: rest) (member : other ∈ state.unfetched config) :
    event.ledger ≤ other.ledger := by
  have ordered := state.chain.ordered.sublist aligned.unfetched_suffix.sublist
  rw [first] at ordered member
  rcases List.mem_cons.mp member with rfl | later
  · exact le_rfl
  · exact (List.rel_of_pairwise_cons ordered later).2

section

variable (tracked : Tracked config state)

include tracked

theorem rollback {page : Page} (now : state.producer = .alarmed page event rest)
    (quiet : state.Quiet) (aligned : Aligned config (state.rollback event)) :
    Tracked config (state.rollback event) := by
  have first : state.unfetched config = event :: (rest ++ state.chain.after page.next) := by
    rw [State.unfetched_of_next (by rw [now]; rfl), now]
    rfl
  have positive : 0 < event.ledger := by
    have member := tracked.aligned.mem_of_unfetched (first ▸ List.mem_cons_self)
    exact (state.chain.bounded event member).1
  have later (other : Event) (member : other ∈ state.chain.events)
      (wanted : config.startLedger ≤ other.ledger) :
      other.id ∈ state.history.inserted ∨ event.ledger ≤ other.ledger :=
    (tracked.unfetched_of_quiet quiet member wanted).imp_right
      (ledger_le_of_unfetched tracked.aligned first)
  refine { tracked with aligned := aligned, recorded := ?_, covered := ?_, kept := ?_ }
  · exact fun row member => tracked.recorded row (Buffer.mem_keep.mp member).1
  · rintro _ ⟨⟩ other member wanted
    exact (later other member wanted).imp .inl fun le =>
      Chain.mem_after.mpr ⟨member, decide_eq_true le⟩
  · intro other member wanted
    refine (later other member wanted).imp_right fun le => ?_
    show decide (event.ledger - 1 + 1 ≤ other.ledger) = true
    rw [Nat.sub_add_cancel positive]
    exact decide_eq_true le

theorem produce {count : Nat} (produced : Produced config state count ok next)
    (orderly : ok = true → state.producer.moves = true → state.Quiet) : Tracked config next := by
  have aligned := tracked.aligned.produce produced
  cases produced with
  | start _ now =>
    refine { tracked with aligned := aligned, covered := ?_ }
    rintro _ ⟨⟩ event member wanted
    rcases tracked.kept event member wanted with inserted | admitted
    · exact .inl (.inl inserted)
    · refine .inr (Chain.mem_after.mpr ⟨member, ?_⟩)
      cases ok with
      | true => exact admitted
      | false => exact admits_resume_none wanted
  | fetch now =>
    obtain ⟨page, events, fetched, -, -, whole, -⟩ := Aligned.fetch_eq
    rw [fetched] at aligned ⊢
    refine tracked.advance aligned (by rw [now]; rfl) ?_
    rintro _ ⟨⟩
    rw [now]
    exact whole
  | rollback now => exact tracked.rollback now (orderly rfl (by rw [now]; rfl)) aligned
  | @send _ page event rest now =>
    refine { tracked with aligned := aligned, covered := ?_ }
    rintro _ ⟨⟩ other member wanted
    have ahead := tracked.covered page.next (by rw [now]; rfl) other member wanted
    rw [now] at ahead
    rcases ahead with sent | unsent
    · refine .inl (sent.imp_right (Or.imp_left ?_))
      exact fun ⟨job, queued, same⟩ => ⟨job, List.mem_append_left _ queued, same⟩
    · rcases List.mem_cons.mp unsent with rfl | later
      · exact .inl (.inr (.inl ⟨_, List.mem_append_right _ List.mem_cons_self, rfl⟩))
      · exact .inr later
  | @save page id now last =>
    have quiet := orderly rfl (by rw [now]; rfl)
    have at_ : page.next ∈ state.producer.next? := by rw [now]; rfl
    have unsent : state.producer.unsent = [] := by rw [now]; rfl
    have ahead := tracked.covered page.next at_
    rw [unsent] at ahead
    refine { tracked with aligned := aligned, covered := ?_, kept := ?_ }
    · rintro _ ⟨⟩
      exact ahead
    · intro event member wanted
      refine (ahead event member wanted).imp (State.inserted_of_quiet quiet) fun later => ?_
      have admitted := (Chain.mem_after.mp later).2
      rwa [Page.next, last] at admitted
  | full => exact tracked
  | load _ now | refused now | alarm _ now | accept _ now | proceed now | finish _ now =>
    refine tracked.advance aligned (by rw [now]; rfl) ?_
    rintro _ ⟨⟩
    rw [now]
    rfl

theorem crash : Tracked config state.crash :=
  { tracked with
    aligned := tracked.aligned.crash
    covered := fun _ absent => by cases absent }

theorem step {action : Action} (unforked : action.isFork = false)
    (orderly : Orderly config state action) :
    Tracked config (Indexer.step uuids config state action) := by
  cases action with
  | grow next => exact tracked.grow next
  | fork ledger next => cases unforked
  | produce ok count => exact tracked.produce (state.produced config ok count) orderly
  | work worker ok => exact tracked.work (state.worked uuids config worker ok) orderly
  | sweep ok => exact tracked.sweep (state.swept uuids config ok) orderly
  | crash => exact tracked.crash

end

end Tracked

/-- On a chain that never forks, where the checkpoint is moved only over events that were
inserted, a restart fetches every event from the configured start on that was not. -/
theorem resume_skips_nothing (uuids : UuidSyntax) (config : Config) (chain : Chain)
    (tables : Tables) (workers : Nat) (actions : List Action)
    (unforked : ∀ action ∈ actions, action.isFork = false)
    (orderly : Respects (step uuids config) (Orderly config) (.boot chain tables workers)
      actions) :
    let state := runActions (step uuids config) (.boot chain tables workers) actions
    ∀ event ∈ state.chain.events, config.startLedger ≤ event.ledger →
      event.id ∉ state.history.inserted →
      event ∈ state.chain.after (resume config state.database.checkpoint) := by
  have both := (respects_of_forall unforked _).and orderly
  have tracked := respects_invariant (Tracked config)
    (fun state action meets tracked => tracked.step meets.1 meets.2) _ actions both
    (.boot)
  intro state event member wanted missing
  have admitted := (tracked.kept event member wanted).resolve_left missing
  exact Chain.mem_after.mpr ⟨member, admitted⟩

def pairChain : Chain where
  events := notes 2
  head := 10
  ordered := by decide +kernel
  bounded := by decide +kernel

/-- The first event is inserted before its cursor is saved, and the process ends. -/
def savedAfterInsert : List Action :=
  List.replicate 5 (.produce true 1) ++ List.replicate 2 (.work 0 true) ++
    [.produce true 1, .crash]

/-- The second event is then fetched. -/
theorem resumed_savedAfterInsert :
    let state := runActions (step .hyphenated .twoContracts) (.boot pairChain .empty 1)
      savedAfterInsert
    note 1 ∈ state.chain.after (resume .twoContracts state.database.checkpoint) :=
  resume_skips_nothing _ _ _ _ _ _ (by decide) (by decide +kernel) (note 1) (by decide +kernel)
    (by decide) (by decide +kernel)

/-- The cursor is saved while the event is still in the queue. After a crash the event is neither
in the buffer nor fetched again. -/
theorem skipped_by_crash :
    let state := runActions (step .hyphenated .twoContracts) (.boot shortChain .empty 1)
      (producing 6 ++ [.crash])
    note 0 ∈ state.chain.events ∧ Config.twoContracts.startLedger ≤ (note 0).ledger ∧
      (note 0).id ∉ state.history.inserted ∧
      note 0 ∉ state.chain.after (resume .twoContracts state.database.checkpoint) := by
  decide +kernel

end Agora.Indexer

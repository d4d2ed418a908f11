/-
This file proves what holds of the producer's position on a chain that does not fork.

What the producer has not sent yet is always an end of the chain: the rest of its page, and
what comes after the page. Its next position, and the position of the checkpoint, lie within
the chain, so that everything the chain brings later comes after them.
-/

import Agora.Indexer.Pipeline

namespace Agora.Indexer

/-! ### The position of the producer -/

/-- The position of the producer and that of the checkpoint are within the chain, and what the
producer has not sent is an end of it. -/
structure Aligned (config : Config) (state : State) : Prop where
  latest_le : state.latest ≤ state.chain.head
  bound_le : ∀ bound ∈ state.finalizer.bound?, bound ≤ state.chain.head
  resume_reaches : state.chain.Reaches config (resume config state.database.checkpoint)
  next_reaches : ∀ position ∈ state.producer.next?, state.chain.Reaches config position
  suffix : ∀ position ∈ state.producer.next?,
    state.producer.unsent ++ state.chain.after position <:+ state.chain.events
  cursor : ∀ position ∈ state.producer.next?, state.producer.unsent ≠ [] →
    ∃ id, position = ⟨some id, none⟩

variable {config : Config}

theorem resume_none :
    resume config none = ⟨none, some config.startLedger⟩ ∨ resume config none = ⟨none, none⟩ := by
  by_cases set : config.startLedger > 0
  · exact .inl (congrArg (Position.mk none) (if_pos set))
  · exact .inr (congrArg (Position.mk none) (if_neg set))

variable {chain : Chain}

theorem reaches_resume_none :
    chain.Reaches config (resume config none) := by
  rcases resume_none with start | origin
  · rw [start]
    exact .inr le_rfl
  · rw [origin]
    trivial

/-- Everything from the configured start on comes after the position without a checkpoint. -/
theorem admits_resume_none {event : Event} (wanted : config.startLedger ≤ event.ledger) :
    (resume config none).admits event = true := by
  rcases resume_none with start | origin
  · rw [start]
    exact decide_eq_true wanted
  · rw [origin]
    rfl

variable {state : State} {position : Position}

theorem State.unfetched_of_next (next : position ∈ state.producer.next?) :
    state.unfetched config = state.producer.unsent ++ state.chain.after position := by
  rw [unfetched, State.next, Option.mem_def.mp next, Option.getD_some]

theorem State.unfetched_of_starting (starting : state.producer.next? = none) :
    state.unfetched config = state.chain.after (resume config state.database.checkpoint) := by
  rw [unfetched, State.next, starting, Option.getD_none]
  cases now : state.producer with
  | starting => rfl
  | _ =>
    rw [now] at starting
    cases starting

namespace Aligned

variable {uuids : UuidSyntax}

theorem unfetched_suffix (aligned : Aligned config state) :
    state.unfetched config <:+ state.chain.events := by
  cases next : state.producer.next? with
  | some position =>
    rw [State.unfetched_of_next next]
    exact aligned.suffix position next
  | none =>
    rw [State.unfetched_of_starting next]
    exact state.chain.after_suffix

variable {event : Event}

theorem mem_of_unfetched (aligned : Aligned config state)
    (member : event ∈ state.unfetched config) :
    event ∈ state.chain.events :=
  aligned.unfetched_suffix.subset member

/-! ### One step -/

theorem boot {tables : Tables} {workers : Nat} :
    Aligned config (.boot chain tables workers) where
  latest_le := Nat.zero_le _
  bound_le _ absent := by cases absent
  resume_reaches := reaches_resume_none
  next_reaches _ absent := by cases absent
  suffix _ absent := by cases absent
  cursor _ absent := by cases absent

theorem grow (aligned : Aligned config state) (next : Chain) :
    Aligned config (state.grow next) := by
  unfold State.grow
  split
  · rename_i grown
    refine ⟨aligned.latest_le.trans grown.head_le, ?_, ?_, ?_, ?_, aligned.cursor⟩
    · exact fun bound member => (aligned.bound_le bound member).trans grown.head_le
    · exact aligned.resume_reaches.extends grown
    · exact fun position member => (aligned.next_reaches position member).extends grown
    · intro position member
      by_cases nothing : state.producer.unsent = []
      · show state.producer.unsent ++ _ <:+ _
        rw [nothing]
        exact next.after_suffix
      · -- a page has a last event, and what is new comes after it
        obtain ⟨id, rfl⟩ := aligned.cursor position member nothing
        obtain ⟨new, whole, after⟩ := grown.after_cursor (aligned.next_reaches _ member)
        obtain ⟨sent, parts⟩ := aligned.suffix _ member
        refine ⟨sent, ?_⟩
        show sent ++ (state.producer.unsent ++ next.after _) = next.events
        rw [after, whole, ← parts]
        simp
  · exact aligned

variable {ok : Bool} {next : State}

theorem work (aligned : Aligned config state) {worker : Nat}
    (worked : Worked uuids config state worker ok next) : Aligned config next := by
  cases worked with
  | stay => exact aligned
  | _ => exact { aligned with }

theorem sweep (aligned : Aligned config state) (swept : Swept uuids config state ok next) :
    Aligned config next := by
  have idle : ∀ bound ∈ Finalizer.idle.bound?, bound ≤ state.chain.head := fun _ absent => by
    cases absent
  have goesOn {finalizer : Finalizer} (now : state.finalizer = finalizer) :
      ∀ bound ∈ finalizer.bound?, bound ≤ state.chain.head := now ▸ aligned.bound_le
  cases swept with
  | stay => exact aligned
  | observe =>
    refine { aligned with bound_le := ?_ }
    rintro _ ⟨⟩
    exact (Nat.sub_le _ _).trans aligned.latest_le
  | save now =>
    have bounds := goesOn now
    refine { aligned with bound_le := bounds, resume_reaches := ?_ }
    exact .inl (Nat.succ_le_succ (bounds _ rfl))
  | select now | retire now | succeed now | mark now | unsaved now =>
    have bounds := goesOn now
    exact { aligned with bound_le := bounds }
  | _ => exact { aligned with bound_le := idle }

/-- A page and what comes after it is what came after the position. -/
theorem fetch_eq {state : State} {level count : Nat} :
    ∃ page events, state.fetch position level count =
        { state with latest := state.chain.head, producer := .scanning page events } ∧
      page.checkpointLedger = level ∧ page.latestLedger = state.chain.head ∧
      events ++ state.chain.after page.next = state.chain.after position ∧
      (events = [] ∧ page.next = position ∨
        ∃ last ∈ state.chain.events, page.next = ⟨some last.id, none⟩) := by
  set events := (state.chain.after position).take (min count MAX_EVENTS_PER_POLL) with eventsEq
  refine ⟨⟨position, level, state.chain.head, events.getLast?.map Event.id⟩, events, rfl, rfl, rfl,
    ?_⟩
  have parts : state.chain.after position = events ++
      (state.chain.after position).drop (min count MAX_EVENTS_PER_POLL) :=
    (List.take_append_drop _ _).symm
  cases ends : events.getLast? with
  | none =>
    have empty := List.getLast?_eq_none_iff.mp ends
    rw [empty]
    exact ⟨rfl, .inl ⟨rfl, rfl⟩⟩
  | some last =>
    have inside : last ∈ state.chain.events :=
      (Chain.mem_after.mp (List.mem_of_mem_take (List.mem_of_getLast? ends))).1
    refine ⟨?_, .inr ⟨last, inside, rfl⟩⟩
    show events ++ state.chain.after ⟨some last.id, none⟩ = _
    rw [Chain.after_last parts ends, ← parts]

variable (aligned : Aligned config state)

include aligned

/-- The producer goes on from a position within the chain. -/
theorem poll {database : Database} {history : History}
    (resumes : state.chain.Reaches config (resume config database.checkpoint))
    (reaches : state.chain.Reaches config position) :
    Aligned config { state with
      database := database, producer := .polling position, history := history } := by
  refine { aligned with
    resume_reaches := resumes, next_reaches := ?_, suffix := ?_, cursor := ?_ }
  · rintro _ ⟨⟩
    exact reaches
  · rintro _ ⟨⟩
    exact state.chain.after_suffix
  · rintro _ ⟨⟩ unsent
    exact absurd rfl unsent

/-- The producer goes on with its page. -/
theorem advance {producer : Producer} {queue : List IndexedEvent}
    (next : producer.next? = state.producer.next?)
    (unsent : producer.unsent <:+ state.producer.unsent) :
    Aligned config { state with producer := producer, queue := queue } := by
  refine { aligned with next_reaches := ?_, suffix := ?_, cursor := ?_ }
  · exact fun position member => aligned.next_reaches position (next ▸ member)
  · intro position member
    obtain ⟨sent, parts⟩ := unsent
    refine List.IsSuffix.trans ⟨sent, ?_⟩ (aligned.suffix position (next ▸ member))
    rw [← List.append_assoc, parts]
  · intro position member some
    refine aligned.cursor position (next ▸ member) fun none => some ?_
    rw [none] at unsent
    exact List.suffix_nil.mp unsent

theorem fetch {level count : Nat} (reaches : state.chain.Reaches config position) :
    Aligned config (state.fetch position level count) := by
  obtain ⟨page, events, fetched, -, -, whole, place⟩ := fetch_eq
  rw [fetched]
  refine { aligned with latest_le := le_rfl, next_reaches := ?_, suffix := ?_, cursor := ?_ }
  · rintro _ ⟨⟩
    rcases place with ⟨-, same⟩ | ⟨last, inside, cursor⟩
    · rw [same]
      exact reaches
    · rw [cursor]
      exact ⟨last, inside, rfl⟩
  · rintro _ ⟨⟩
    exact whole.symm ▸ state.chain.after_suffix
  · rintro _ ⟨⟩ unsent
    rcases place with ⟨empty, -⟩ | ⟨last, -, cursor⟩
    · exact absurd empty unsent
    · exact ⟨last.id, cursor⟩

theorem rollback {page : Page} {rest : List Event}
    (now : state.producer = .alarmed page event rest) : Aligned config (state.rollback event) := by
  have member : event ∈ state.chain.events := by
    refine aligned.mem_of_unfetched (List.mem_append_left _ ?_)
    rw [now]
    exact List.mem_cons_self
  obtain ⟨positive, within⟩ := state.chain.bounded event member
  have reaches : state.chain.Reaches config ⟨none, some event.ledger⟩ :=
    .inl (within.trans (Nat.le_succ _))
  refine aligned.poll ?_ reaches
  show state.chain.Reaches config ⟨none, some (event.ledger - 1 + 1)⟩
  rwa [Nat.sub_add_cancel positive]

theorem produce {count : Nat} (produced : Produced config state count ok next) :
    Aligned config next := by
  have goesOn {producer : Producer} (now : state.producer = producer) {position : Position}
      (next : producer.next? = some position) : state.chain.Reaches config position :=
    aligned.next_reaches position (now ▸ next)
  cases produced with
  | start _ now =>
    refine aligned.poll aligned.resume_reaches ?_
    cases ok with
    | true => exact aligned.resume_reaches
    | false => exact reaches_resume_none
  | fetch now => exact aligned.fetch (goesOn now rfl)
  | refused now | finish _ now => exact aligned.poll aligned.resume_reaches (goesOn now rfl)
  | rollback now => exact aligned.rollback now
  | save now last =>
    have reaches := goesOn now rfl
    refine aligned.poll ?_ reaches
    rw [Page.next, last] at reaches
    exact reaches
  | send _ now => exact aligned.advance (by rw [now]; rfl) (by rw [now]; exact List.suffix_cons _ _)
  | full => exact aligned
  | load _ now | alarm _ now | accept _ now | proceed now =>
    exact aligned.advance (by rw [now]; rfl) (by rw [now]; exact List.suffix_refl _)

theorem crash : Aligned config state.crash :=
  { aligned with
    latest_le := Nat.zero_le _
    bound_le := fun _ absent => by cases absent
    next_reaches := fun _ absent => by cases absent
    suffix := fun _ absent => by cases absent
    cursor := fun _ absent => by cases absent }

end Aligned

end Agora.Indexer

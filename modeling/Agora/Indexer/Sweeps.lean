/-
This file proves what the sweeps of the finalizer come to when the application of some rows
fails.

A sweep takes the first rows of the backlog and returns at the first one that fails. The rows
that succeed before it are finalized, and the same row is the first of the next batch. So the
sweeps finalize the rows before the first failing one, in batches, and no other row. All rows
that can be applied are finalized in the end exactly when none of them comes after a failing
one.
-/

import Mathlib.Data.List.TakeWhile
import Agora.Indexer.Database

namespace Agora.Indexer

/-! ### A list that is worked off from the front -/

section WorkOff

variable {Item : Type} (succeeds : Item → Bool) (size : Nat)

/-- What is left of a list after one batch from its front. -/
def workOff (items : List Item) : List Item :=
  (items.take size).dropWhile succeeds ++ items.drop size

variable {succeeds size} {good bad : List Item}

section

variable (fine : ∀ item ∈ good, succeeds item = true)
  (stuck : ∀ item ∈ bad.head?, succeeds item = false)

include fine stuck

theorem workOff_append : workOff succeeds size (good ++ bad) = good.drop size ++ bad := by
  have untouched (count : Nat) : (bad.take count).dropWhile succeeds = bad.take count := by
    cases bad with
    | nil => simp
    | cons first rest =>
      cases count with
      | zero => rfl
      | succ count => simp [stuck first rfl]
  have passed (count : Nat) : (good.take count).dropWhile succeeds = [] := by
    rw [List.dropWhile_eq_nil_iff]
    exact fun item member => fine item (List.mem_of_mem_take member)
  rw [workOff, List.take_append, List.drop_append]
  rcases le_or_gt size good.length with within | beyond
  · rw [Nat.sub_eq_zero_of_le within, List.take_zero, List.append_nil, passed, List.drop_zero,
      List.nil_append]
  · have all := passed good.length
    rw [List.take_length] at all
    rw [List.take_of_length_le beyond.le, List.drop_of_length_le beyond.le,
      List.dropWhile_append, all, List.isEmpty_nil, if_pos rfl, untouched, List.nil_append,
      List.take_append_drop, List.nil_append]

/-- Batch after batch, what succeeds before the first failure is worked off. -/
theorem workOff_iterate (count : Nat) :
    (workOff succeeds size)^[count] (good ++ bad) = good.drop (count * size) ++ bad := by
  induction count with
  | zero => rw [Nat.zero_mul, List.drop_zero, Function.iterate_zero, id]
  | succ count inductionHypothesis =>
    rw [Function.iterate_succ_apply', inductionHypothesis,
      workOff_append (fun item member => fine item (List.mem_of_mem_drop member)) stuck,
      List.drop_drop, Nat.succ_mul]

end

end WorkOff

/-! ### The backlog -/

theorem Event.before_antisymm {first second : Event} (one : first.Before second)
    (other : second.Before first) : first.id = second.id := by
  unfold Before at one other
  rcases one with earlier | ⟨ledger, id⟩
  · omega
  · rcases other with later | ⟨-, otherId⟩
    · omega
    · exact le_antisymm id otherId

instance : IsTrans Event Event.Before where
  trans first second third one other := by
    unfold Event.Before at *
    rcases one with earlier | ⟨ledger, id⟩
    · omega
    · rcases other with later | ⟨otherLedger, otherId⟩
      · omega
      · exact .inr ⟨ledger.trans otherLedger, id.trans otherId⟩

instance : Std.Total Event.Before where
  total first second := by
    unfold Event.Before
    rcases lt_trichotomy first.ledger second.ledger with earlier | same | later
    · exact .inl (.inl earlier)
    · exact (le_total first.id second.id).imp (fun le => .inr ⟨same, le⟩)
        fun le => .inr ⟨same.symm, le⟩
    · exact .inr (.inl later)

/-- Sorting and leaving out events with distinct ids can be exchanged. -/
theorem insertionSort_filter {events : List Event} (distinct : (events.map Event.id).Nodup)
    (kept : Event → Bool) :
    (events.filter kept).insertionSort Event.Before =
      (events.insertionSort Event.Before).filter kept := by
  have same : ∀ first second, first ∈ (events.filter kept).insertionSort Event.Before →
      second ∈ (events.insertionSort Event.Before).filter kept →
      first.Before second → second.Before first → first = second := by
    intro first second one other before after
    refine List.inj_on_of_nodup_map distinct ?_ ?_ (Event.before_antisymm before after)
    · exact (List.mem_filter.mp ((List.mem_insertionSort _).mp one)).1
    · exact (List.mem_insertionSort _).mp (List.mem_filter.mp other).1
  refine List.Perm.eq_of_pairwise same (List.pairwise_insertionSort _ _)
    ((List.pairwise_insertionSort _ _).filter _) ?_
  exact (List.perm_insertionSort _ _).trans ((List.perm_insertionSort _ _).filter kept).symm

namespace Buffer

variable {buffer : Buffer} {bound : Nat}

theorem backlog_sorted : (buffer.backlog bound).Pairwise Event.Before :=
  List.pairwise_insertionSort _ _

theorem waiting_nodup (kept : Row → Bool) :
    (((buffer.rows.filter kept).map fun row => row.event).map Event.id).Nodup := by
  rw [List.map_map]
  exact (buffer.keep kept).unique

theorem backlog_nodup : ((buffer.backlog bound).map Event.id).Nodup :=
  ((List.perm_insertionSort _ _).map Event.id).nodup_iff.mpr (waiting_nodup _)

/-- A row that is finalized leaves the backlog. -/
theorem backlog_finalize (id : String) :
    (buffer.finalize id).backlog bound =
      (buffer.backlog bound).filter fun event => event.id != id := by
  rw [backlog, backlog, ← insertionSort_filter (waiting_nodup _)]
  congr 1
  rw [finalize, List.filter_map, List.filter_map, List.map_map, List.filter_filter]
  refine congrArg (List.map Row.event) (List.filter_congr fun row _ => ?_)
  simp only [Function.comp_apply, Row.finalizedAt]
  cases row.finalized with
  | true => simp
  | false => rfl

/-- Finalized rows can be pruned without a change of the backlog. -/
theorem backlog_pruneWindow (database : Database) (keepFromLedger : Nat) :
    (database.pruneWindow keepFromLedger).buffer.backlog bound =
      database.buffer.backlog bound := by
  simp only [Database.pruneWindow, backlog, keep, List.filter_filter]
  congr 3
  funext row
  cases row.finalized with
  | true => rfl
  | false => simp

end Buffer

/-! ### The sweeps -/

/-- The finalizer can retire the row: there is nothing to apply, or applying it succeeds. -/
def Event.retires (failing : Event → Bool) (event : Event) : Bool :=
  event.kind == .unhandled || !failing event

section Sweeps

variable {attempt : Event → Tables → Option Tables} {failing : Event → Bool} {config : Config}
  {database : Database} {bound latestLedger : Nat}

/-- The application of an event fails on all tables or on none. -/
def FailsExactly (attempt : Event → Tables → Option Tables) (failing : Event → Bool)
    (events : List Event) : Prop :=
  ∀ event ∈ events, event.kind ≠ .unhandled →
    ∀ tables, attempt event tables = none ↔ failing event = true

/-- The loop works off the rows at the front of the backlog, up to the first that fails. -/
theorem backlog_finalizeRows {rows tail : List Event} (fails : FailsExactly attempt failing rows)
    (front : database.buffer.backlog bound = rows ++ tail) :
    (finalizeRows attempt rows database).1.buffer.backlog bound =
      rows.dropWhile (Event.retires failing) ++ tail := by
  induction rows generalizing database with
  | nil => exact front
  | cons event rest inductionHypothesis =>
    obtain ⟨first, others⟩ := List.forall_mem_cons.mp fails
    have shorter (tables : Tables) :
        ({ database with tables := tables }.finalize event.id).buffer.backlog bound =
          rest ++ tail := by
      have distinct : ((database.buffer.backlog bound).map Event.id).Nodup :=
        Buffer.backlog_nodup
      rw [front, List.cons_append, List.map_cons, List.nodup_cons] at distinct
      show (database.buffer.finalize event.id).backlog bound = _
      rw [Buffer.backlog_finalize, front, List.cons_append, List.filter_cons_of_neg (by simp),
        List.filter_eq_self]
      rintro other member
      simp only [bne_iff_ne, ne_eq]
      exact fun same => distinct.1 (List.mem_map.mpr ⟨other, member, same⟩)
    unfold finalizeRows
    by_cases unhandled : event.kind = .unhandled
    · rw [if_pos unhandled, List.dropWhile_cons_of_pos (by simp [Event.retires, unhandled])]
      exact inductionHypothesis others (shorter database.tables)
    · rw [if_neg unhandled]
      cases outcome : attempt event database.tables with
      | none =>
        have fatal := (first unhandled database.tables).mp outcome
        rw [List.dropWhile_cons_of_neg (by simp [Event.retires, unhandled, fatal])]
        exact front
      | some tables =>
        have harmless : failing event = false := by
          rw [Bool.eq_false_iff, ne_eq, ← first unhandled database.tables, outcome]
          exact fun absent => by cases absent
        rw [List.dropWhile_cons_of_pos (by simp [Event.retires, harmless])]
        exact inductionHypothesis others (shorter tables)

/-- One turn of the finalizer works off one batch. -/
theorem backlog_runFinalizer (final : config.confirmations < latestLedger)
    (fails : FailsExactly attempt failing
      (database.buffer.backlog (latestLedger - config.confirmations))) :
    (runFinalizer attempt config latestLedger database).buffer.backlog
        (latestLedger - config.confirmations) =
      workOff (Event.retires failing) FINALIZER_BATCH_SIZE
        (database.buffer.backlog (latestLedger - config.confirmations)) := by
  have swept := backlog_finalizeRows
    (fun event member => fails event (List.mem_of_mem_take member))
    (List.take_append_drop FINALIZER_BATCH_SIZE _).symm
  rw [runFinalizer, if_neg (by omega)]
  dsimp only [finalizeBatch, Buffer.batch]
  split
  · rename_i next ended
    rw [Buffer.backlog_pruneWindow]
    rw [ended] at swept
    exact swept
  · rename_i next ended
    rw [ended] at swept
    exact swept

/-- A sweep whose first row fails changes nothing. -/
theorem runFinalizer_of_stuck (final : config.confirmations < latestLedger) {event : Event}
    {rest : List Event}
    (front : database.buffer.batch (latestLedger - config.confirmations) = event :: rest)
    (handled : event.kind ≠ .unhandled) (fatal : attempt event database.tables = none) :
    runFinalizer attempt config latestLedger database = database := by
  rw [runFinalizer, if_neg (by omega)]
  simp only [finalizeBatch, front, finalizeRows, if_neg handled, fatal]

theorem mem_of_mem_workOff {Item : Type} {succeeds : Item → Bool} {size : Nat} {items : List Item}
    {item : Item} (member : item ∈ workOff succeeds size items) : item ∈ items := by
  rcases List.mem_append.mp member with early | late
  · exact List.mem_of_mem_take (List.dropWhile_subset succeeds early)
  · exact List.mem_of_mem_drop late

section

variable (final : config.confirmations < latestLedger)
  (fails : FailsExactly attempt failing
    (database.buffer.backlog (latestLedger - config.confirmations))) (count : Nat)

include final fails

theorem backlog_sweeps :
    ((runFinalizer attempt config latestLedger)^[count] database).buffer.backlog
        (latestLedger - config.confirmations) =
      (workOff (Event.retires failing) FINALIZER_BATCH_SIZE)^[count]
        (database.buffer.backlog (latestLedger - config.confirmations)) := by
  induction count generalizing database with
  | zero => rfl
  | succ count inductionHypothesis =>
    have next := backlog_runFinalizer final fails
    rw [Function.iterate_succ_apply, Function.iterate_succ_apply, inductionHypothesis, next]
    intro event member
    rw [next] at member
    exact fails event (mem_of_mem_workOff member)

/-- After any number of sweeps the backlog has lost rows before its first failing one only. -/
theorem backlog_after_sweeps :
    ((runFinalizer attempt config latestLedger)^[count] database).buffer.backlog
        (latestLedger - config.confirmations) =
      ((database.buffer.backlog (latestLedger - config.confirmations)).takeWhile
          (Event.retires failing)).drop (count * FINALIZER_BATCH_SIZE) ++
        (database.buffer.backlog (latestLedger - config.confirmations)).dropWhile
          (Event.retires failing) := by
  rw [backlog_sweeps final fails]
  conv_lhs =>
    rw [← List.takeWhile_append_dropWhile (p := Event.retires failing)
      (l := database.buffer.backlog (latestLedger - config.confirmations))]
  refine workOff_iterate (fun _ => List.mem_takeWhile_imp) (fun event first => ?_) count
  have nonempty := List.ne_nil_of_mem (List.mem_of_mem_head? first)
  have head := List.head_dropWhile_not (Event.retires failing) nonempty
  rwa [List.head_of_mem_head? first] at head

end

/-- What is left from the first failing row on has failing rows only, exactly when every row that
can be retired comes before every failing one. -/
theorem all_stuck_iff :
    (∀ event ∈ (database.buffer.backlog bound).dropWhile (Event.retires failing),
        event.retires failing = false) ↔
      ∀ bad ∈ database.buffer.backlog bound, ∀ good ∈ database.buffer.backlog bound,
        bad.retires failing = false → good.retires failing = true → good.Before bad := by
  have parts := List.takeWhile_append_dropWhile (p := Event.retires failing)
    (l := database.buffer.backlog bound)
  have sorted : (database.buffer.backlog bound).Pairwise Event.Before := Buffer.backlog_sorted
  rw [← parts, List.pairwise_append] at sorted
  constructor
  · intro stuck bad badMember good goodMember fails retires
    rw [← parts, List.mem_append] at badMember goodMember
    have early : good ∈ (database.buffer.backlog bound).takeWhile (Event.retires failing) :=
      goodMember.resolve_right fun late => by
        rw [stuck good late] at retires
        cases retires
    have late : bad ∈ (database.buffer.backlog bound).dropWhile (Event.retires failing) :=
      badMember.resolve_left fun early => by
        rw [List.mem_takeWhile_imp early] at fails
        cases fails
    exact sorted.2.2 good early bad late
  · intro ordered event member
    by_contra retires
    rw [Bool.not_eq_false] at retires
    cases rest : (database.buffer.backlog bound).dropWhile (Event.retires failing) with
    | nil =>
      rw [rest] at member
      cases member
    | cons first others =>
      have fails : first.retires failing = false := by
        have head := List.head_dropWhile_not (Event.retires failing)
          (l := database.buffer.backlog bound) (by rw [rest]; exact List.cons_ne_nil _ _)
        simpa only [rest, List.head_cons] using head
      have inside : ∀ {other}, other ∈ first :: others → other ∈ database.buffer.backlog bound :=
        fun {other} inRest => List.dropWhile_subset (Event.retires failing) (rest ▸ inRest)
      rw [rest] at member
      have before := ordered first (inside List.mem_cons_self) event (inside member) fails retires
      rcases List.mem_cons.mp member with rfl | later
      · rw [retires] at fails
        cases fails
      · -- the failing row comes first and last, so it is the row that can be retired
        have after := List.rel_of_pairwise_cons (rest ▸ sorted.2.1) later
        have same : event = first := List.inj_on_of_nodup_map Buffer.backlog_nodup
          (inside member) (inside List.mem_cons_self) (Event.before_antisymm before after)
        rw [same, fails] at retires
        cases retires

/-- Where no row that can be retired comes after a failing one, and nowhere else, the sweeps come
to retire all of them. -/
theorem sweeps_finalize_iff (attempt : Event → Tables → Option Tables) (failing : Event → Bool)
    (config : Config) (latestLedger : Nat) (database : Database)
    (final : config.confirmations < latestLedger)
    (fails : FailsExactly attempt failing
      (database.buffer.backlog (latestLedger - config.confirmations))) :
    (∃ enough, ∀ count, enough ≤ count →
        ∀ event ∈ database.buffer.backlog (latestLedger - config.confirmations),
          event.retires failing = true →
          ⟨event, false⟩ ∉
            ((runFinalizer attempt config latestLedger)^[count] database).buffer.rows) ↔
      ∀ bad ∈ database.buffer.backlog (latestLedger - config.confirmations),
        ∀ good ∈ database.buffer.backlog (latestLedger - config.confirmations),
          bad.retires failing = false → good.retires failing = true → good.Before bad := by
  rw [← all_stuck_iff]
  have left := backlog_after_sweeps final fails
  constructor
  · rintro ⟨enough, retired⟩ event stuck
    by_contra retires
    rw [Bool.not_eq_false] at retires
    refine retired enough le_rfl event (List.dropWhile_subset _ stuck) retires ?_
    have stays : event ∈ ((runFinalizer attempt config latestLedger)^[enough]
        database).buffer.backlog (latestLedger - config.confirmations) := by
      rw [left]
      exact List.mem_append_right _ stuck
    exact (Buffer.mem_backlog.mp stays).1
  · intro stuck
    refine ⟨(database.buffer.backlog (latestLedger - config.confirmations)).length, ?_⟩
    intro count enough event member retires pending
    have stays := Buffer.mem_backlog.mpr ⟨pending, (Buffer.mem_backlog.mp member).2⟩
    rw [left, List.drop_of_length_le, List.nil_append] at stays
    · rw [stuck event stays] at retires
      cases retires
    · calc _ ≤ (database.buffer.backlog (latestLedger - config.confirmations)).length :=
          (List.takeWhile_sublist _).length_le
        _ ≤ count := enough
        _ ≤ count * FINALIZER_BATCH_SIZE := Nat.le_mul_of_pos_right count (by decide)

end Sweeps

/-! ### A purchase without a UUID -/

section BadPurchase

/-- A purchase that names its event by its title. -/
def titledPurchase (id : String) (ledger : Nat) : Event where
  id := id
  ledger := ledger
  contractId := "ticket_payment"
  topicName := "PaymentProcessed"
  value := [("payment_id", "first"), ("event_id", "Summer Party"), ("buyer", "alice")]

def plainTransfer (id : String) (ledger : Nat) : Event where
  id := id
  ledger := ledger
  contractId := "ticket_payment"
  topicName := "TicketTransferred"
  value := [("payment_id", "second"), ("to", "bob")]

/-- A buffer with the two events pending, and nothing else. -/
def Database.holding (first second : Event) (different : first.id ≠ second.id) : Database where
  buffer := ⟨[⟨first, false⟩, ⟨second, false⟩], by simpa using different⟩
  checkpoint := none
  tables := .empty

def stalled : Database :=
  .holding (titledPurchase "0001" 1) (plainTransfer "0002" 2) (by decide)

variable (id : String) (ledger : Nat)

theorem titledPurchase_kind : (titledPurchase id ledger).kind = .processPurchase := by
  show eventKindForTopic "PaymentProcessed" = _
  decide

theorem titledPurchase_fails {tables : Tables} :
    applyEventState .hyphenated .twoContracts (titledPurchase id ledger) tables = none := by
  have eventId : (titledPurchase id ledger).asPurchase.eventId = "Summer Party" := rfl
  refine applyEventState_of_no_uuid _ _ _ _ rfl (titledPurchase_kind id ledger) ?_ ?_
  · rw [eventId]
    decide
  · rw [eventId]
    decide +kernel

theorem plainTransfer_kind : (plainTransfer id ledger).kind = .transferTicket := by
  show eventKindForTopic "TicketTransferred" = _
  decide

theorem plainTransfer_succeeds (tables : Tables) :
    applyEventState .hyphenated .twoContracts (plainTransfer id ledger) tables ≠ none := by
  refine Option.isSome_iff_ne_none.mp (applyEventState_isSome _ _ _ _ ?_)
  rw [plainTransfer_kind]
  decide

/-- The transfer can be applied, and stays pending behind the purchase after any number of
sweeps. -/
theorem stalled_behind_titledPurchase :
    (∀ tables, applyEventState .hyphenated .twoContracts (plainTransfer "0002" 2) tables ≠ none) ∧
      plainTransfer "0002" 2 ∈ stalled.buffer.backlog (10 - Config.twoContracts.confirmations) ∧
      ∀ count, ⟨plainTransfer "0002" 2, false⟩ ∈
        ((runFinalizer (applyEventState .hyphenated .twoContracts) .twoContracts 10)^[count]
          stalled).buffer.rows := by
  refine ⟨plainTransfer_succeeds "0002" 2, by decide +kernel, fun count => ?_⟩
  have front : stalled.buffer.batch (10 - Config.twoContracts.confirmations) =
      [titledPurchase "0001" 1, plainTransfer "0002" 2] := by
    decide +kernel
  have deep : Config.twoContracts.confirmations < 10 := by decide
  have same := runFinalizer_of_stuck deep front (by decide) (titledPurchase_fails "0001" 1)
  rw [Function.iterate_fixed same]
  decide

/-- Where the purchase comes last the transfer is retired. -/
theorem retired_before_titledPurchase :
    ∃ enough, ∀ count, enough ≤ count →
      ∀ event ∈ [plainTransfer "0001" 1, titledPurchase "0002" 2],
        event.retires (fun event => event.kind == .processPurchase) = true →
        ⟨event, false⟩ ∉
          ((runFinalizer (applyEventState .hyphenated .twoContracts) .twoContracts 10)^[count]
            (.holding (plainTransfer "0001" 1) (titledPurchase "0002" 2)
              (by decide))).buffer.rows := by
  set database := Database.holding (plainTransfer "0001" 1) (titledPurchase "0002" 2) (by decide)
  have backlog : database.buffer.backlog (10 - Config.twoContracts.confirmations) =
      [plainTransfer "0001" 1, titledPurchase "0002" 2] := by
    decide +kernel
  have fails : FailsExactly (applyEventState .hyphenated .twoContracts)
      (fun event => event.kind == .processPurchase)
      (database.buffer.backlog (10 - Config.twoContracts.confirmations)) := by
    rw [backlog]
    intro event member _ tables
    rcases List.mem_pair.mp member with rfl | rfl
    · exact iff_of_false (plainTransfer_succeeds "0001" 1 tables) (by decide)
    · exact iff_of_true (titledPurchase_fails "0002" 2) (by decide)
  rw [← backlog]
  refine (sweeps_finalize_iff _ _ .twoContracts 10 database (by decide) fails).mpr ?_
  rw [backlog]
  decide +kernel

end BadPurchase

end Agora.Indexer

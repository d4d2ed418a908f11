/-
This file models the last-write-wins sets of the server, with the vector clocks that
break their ties, and proves what a merge does to membership.

A set keeps, under the key of an element, the latest write to it. Between two writes with
one timestamp the comparison of their clocks decides, which is only a partial order. Every
write starts with a clock of its own node at one, and clocks grow only where an addition
wins over a removal. So a removal has the clock of a single node, and the clock that wins
a comparison is that of an addition: a tie is always won by the addition, and a merge takes
the greater of two writes in the lexicographic order.
-/

import Mathlib.Data.Prod.Lex
import Mathlib.Order.WithBot
import Agora.Lib.Table

namespace Agora.Crdt

/-! ### Vector clocks -/

/-- Counters by the id of a node. -/
structure VectorClock where
  counters : Table String Nat

namespace VectorClock

def new (nodeId : String) (initialValue : Nat) : VectorClock :=
  ⟨Table.empty.set nodeId initialValue⟩

variable (clock other : VectorClock)

def nodeIds : List String :=
  clock.counters.entries.map Prod.fst

def getCounter (nodeId : String) : Nat :=
  (clock.counters.get nodeId).getD 0

def increment (nodeId : String) : VectorClock :=
  ⟨clock.counters.set nodeId (clock.getCounter nodeId + 1)⟩

def mergeCounter (counters : Table String Nat) (entry : String × Nat) : Table String Nat :=
  counters.set entry.1 (max ((counters.get entry.1).getD 0) entry.2)

def merge : VectorClock :=
  ⟨other.counters.entries.foldl mergeCounter clock.counters⟩

/-- Whether a counter of the first clock is below that of the second one. -/
def lessThan : Bool :=
  (clock.nodeIds ++ other.nodeIds).any fun nodeId =>
    decide (clock.getCounter nodeId < other.getCounter nodeId)

/-- Less, greater, or neither: equal clocks and concurrent ones are not told apart. -/
def compare : Int :=
  if clock.lessThan other && !other.lessThan clock then -1
  else if other.lessThan clock && !clock.lessThan other then 1
  else 0

def happenedBefore : Bool :=
  clock.compare other == -1

def equals : Bool :=
  (clock.nodeIds ++ other.nodeIds).all fun nodeId =>
    clock.getCounter nodeId == other.getCounter nodeId

def isConcurrent : Bool :=
  clock.compare other == 0 && !clock.equals other

theorem getCounter_new (nodeId other : String) (value : Nat) :
    (new nodeId value).getCounter other = if other = nodeId then value else 0 := by
  unfold getCounter new
  rw [Table.get_set]
  split
  · rfl
  · rw [Table.get_empty, Option.getD_none]

theorem getCounter_merge (nodeId : String) :
    (clock.merge other).getCounter nodeId =
      max (clock.getCounter nodeId) (other.getCounter nodeId) := by
  have steps (table : Table String Nat) (entry : String × Nat) (key : String) :
      (mergeCounter table entry).get key =
        if key = entry.1 then some (max ((table.get key).getD 0) entry.2) else table.get key := by
    rw [mergeCounter, Table.get_set]
    split
    next same => rw [same]
    next => rfl
  have read : (clock.merge other).counters.get nodeId = _ :=
    Table.get_foldl_entries (fun existing counter => some (max (existing.getD 0) counter)) steps
  unfold getCounter
  rw [read]
  cases other.counters.get nodeId with
  | none => exact (Nat.max_zero _).symm
  | some counter => rfl

/-- A node that a clock does not list is at zero. -/
theorem mem_nodeIds_of_pos {nodeId : String} (positive : 0 < clock.getCounter nodeId) :
    nodeId ∈ clock.nodeIds := by
  unfold getCounter at positive
  cases found : clock.counters.get nodeId with
  | none =>
    rw [found] at positive
    cases positive
  | some counter => exact List.mem_map.mpr ⟨(nodeId, counter), Table.mem_entries.mpr found, rfl⟩

theorem lessThan_eq_true_iff :
    clock.lessThan other = true ↔
      ∃ nodeId, clock.getCounter nodeId < other.getCounter nodeId := by
  unfold lessThan
  rw [List.any_eq_true]
  constructor
  · rintro ⟨nodeId, _, less⟩
    exact ⟨nodeId, of_decide_eq_true less⟩
  · rintro ⟨nodeId, less⟩
    have listed := other.mem_nodeIds_of_pos (Nat.zero_lt_of_lt less)
    exact ⟨nodeId, List.mem_append_right _ listed, decide_eq_true less⟩

/-- The clock is ahead of the other one: somewhere ahead, and nowhere behind. -/
def Ahead : Prop :=
  (∃ nodeId, other.getCounter nodeId < clock.getCounter nodeId) ∧
    ∀ nodeId, other.getCounter nodeId ≤ clock.getCounter nodeId

theorem ahead_iff_lessThan :
    clock.Ahead other ↔ (other.lessThan clock && !clock.lessThan other) = true := by
  have nowhere : clock.lessThan other = false ↔
      ∀ nodeId, other.getCounter nodeId ≤ clock.getCounter nodeId := by
    rw [Bool.eq_false_iff, Ne, lessThan_eq_true_iff, not_exists]
    simp
  rw [Bool.and_eq_true, Bool.not_eq_true', lessThan_eq_true_iff, nowhere, Ahead]

theorem compare_pos_iff : 0 < clock.compare other ↔ clock.Ahead other := by
  rw [ahead_iff_lessThan, compare]
  cases clock.lessThan other <;> cases other.lessThan clock <;> decide

theorem compare_neg_iff : clock.compare other < 0 ↔ other.Ahead clock := by
  rw [ahead_iff_lessThan, compare]
  cases clock.lessThan other <;> cases other.lessThan clock <;> decide

theorem happenedBefore_iff : clock.happenedBefore other = true ↔ other.Ahead clock := by
  rw [ahead_iff_lessThan, happenedBefore, compare]
  cases clock.lessThan other <;> cases other.lessThan clock <;> decide

theorem equals_iff :
    clock.equals other = true ↔ ∀ nodeId, clock.getCounter nodeId = other.getCounter nodeId := by
  unfold equals
  rw [List.all_eq_true]
  constructor
  · intro every nodeId
    by_cases listed : nodeId ∈ clock.nodeIds ++ other.nodeIds
    · exact eq_of_beq (every nodeId listed)
    · -- A node that neither clock lists is at zero in both.
      rw [List.mem_append, not_or] at listed
      have first := Nat.eq_zero_of_not_pos (mt clock.mem_nodeIds_of_pos listed.1)
      have second := Nat.eq_zero_of_not_pos (mt other.mem_nodeIds_of_pos listed.2)
      rw [first, second]
  · intro same nodeId _
    exact beq_iff_eq.mpr (same nodeId)

theorem isConcurrent_iff :
    clock.isConcurrent other = true ↔
      ¬clock.Ahead other ∧ ¬other.Ahead clock ∧ clock.equals other = false := by
  have unordered : clock.compare other = 0 ↔ ¬clock.Ahead other ∧ ¬other.Ahead clock := by
    rw [← compare_pos_iff, ← compare_neg_iff]
    omega
  rw [isConcurrent, Bool.and_eq_true, beq_iff_eq, unordered, Bool.not_eq_true', and_assoc]

end VectorClock

/-! ### Sets -/

variable {Value : Type}

structure LWWElement (Value : Type) where
  value : Value
  timestamp : Int
  vectorClock : VectorClock
  isAdd : Bool

/-- The latest write to each element, by the key of the element. -/
structure LWWElementSet (Value : Type) where
  elements : Table String (LWWElement Value)

namespace LWWElementSet

def new : LWWElementSet Value := ⟨.empty⟩

section Keys

variable (generateKey : Value → String) (set : LWWElementSet Value)

/-- A write replaces an earlier one, and one of the same time whose clock it is ahead of. -/
def write (isAdd : Bool) (value : Value) (nodeId : String) (timestamp : Option Int) (now : Int) :
    LWWElementSet Value :=
  let key := generateKey value
  let effectiveTimestamp := timestamp.getD now
  let vectorClock := VectorClock.new nodeId 1
  let element : LWWElement Value := ⟨value, effectiveTimestamp, vectorClock, isAdd⟩
  match set.elements.get key with
  | some existing =>
    if effectiveTimestamp > existing.timestamp then ⟨set.elements.set key element⟩
    else if effectiveTimestamp = existing.timestamp then
      if vectorClock.compare existing.vectorClock > 0 then ⟨set.elements.set key element⟩ else set
    else set
  | none => ⟨set.elements.set key element⟩

def add (value : Value) (nodeId : String) (timestamp : Option Int) (now : Int) :
    LWWElementSet Value :=
  set.write generateKey true value nodeId timestamp now

def remove (value : Value) (nodeId : String) (timestamp : Option Int) (now : Int) :
    LWWElementSet Value :=
  set.write generateKey false value nodeId timestamp now

def has (value : Value) : Bool :=
  match set.elements.get (generateKey value) with
  | some element => element.isAdd
  | none => false

end Keys

/-- What an element of the set is replaced by when it meets the one of another set, if it is. -/
def replacement (existing otherElement : LWWElement Value) : Option (LWWElement Value) :=
  if otherElement.timestamp > existing.timestamp then some otherElement
  else if otherElement.timestamp = existing.timestamp then
    let mergedClock := existing.vectorClock.merge otherElement.vectorClock
    let comparison := otherElement.vectorClock.compare existing.vectorClock
    if comparison > 0 then some { otherElement with vectorClock := mergedClock }
    else if comparison = 0 then
      -- concurrent with same timestamp: prefer add over remove
      if otherElement.isAdd && !existing.isAdd then
        some { otherElement with vectorClock := mergedClock }
      else none
    else none
  else none

def mergeElement (elements : Table String (LWWElement Value))
    (entry : String × LWWElement Value) : Table String (LWWElement Value) :=
  let (key, otherElement) := entry
  match elements.get key with
  | some existing =>
    match replacement existing otherElement with
    | some element => elements.set key element
    | none => elements
  | none => elements.set key otherElement

def merge (set other : LWWElementSet Value) : LWWElementSet Value :=
  ⟨other.elements.entries.foldl mergeElement set.elements⟩

end LWWElementSet

/-! ### The clocks that occur -/

/-- A clock of some nodes, each at one; that of a removal is the clock of a single node. -/
structure LWWElement.Issued (element : LWWElement Value) : Prop where
  atMostOne : ∀ nodeId, element.vectorClock.getCounter nodeId ≤ 1
  ticked : ∃ nodeId, element.vectorClock.getCounter nodeId = 1
  removal : element.isAdd = false → ∃ nodeId, ∀ other,
    element.vectorClock.getCounter other = 1 → other = nodeId

namespace LWWElement

variable {element other : LWWElement Value}

theorem issued_new (value : Value) (timestamp : Int) (nodeId : String) (isAdd : Bool) :
    (LWWElement.mk value timestamp (.new nodeId 1) isAdd).Issued where
  atMostOne id := by
    rw [VectorClock.getCounter_new]
    split
    · exact le_rfl
    · exact Nat.zero_le 1
  ticked := ⟨nodeId, by rw [VectorClock.getCounter_new, if_pos rfl]⟩
  removal _ := by
    refine ⟨nodeId, fun id one => ?_⟩
    rw [VectorClock.getCounter_new] at one
    by_contra different
    rw [if_neg different] at one
    cases one

/-- Where both clocks are at most one, a clock ahead of another is at one where the other is. -/
theorem Issued.isAdd_of_ahead (issued : element.Issued) (otherIssued : other.Issued)
    (ahead : element.vectorClock.Ahead other.vectorClock) : element.isAdd = true := by
  rw [← Bool.not_eq_false]
  intro removed
  obtain ⟨nodeId, single⟩ := issued.removal removed
  obtain ⟨⟨extra, less⟩, covers⟩ := ahead
  obtain ⟨common, one⟩ := otherIssued.ticked
  have commonOne : element.vectorClock.getCounter common = 1 := by
    have le := covers common
    have bound := issued.atMostOne common
    omega
  have extraOne : element.vectorClock.getCounter extra = 1 := by
    have bound := issued.atMostOne extra
    omega
  -- the extra node is the common one, where the other clock is at one as well
  rw [single extra extraOne, ← single common commonOne] at less
  have bound := issued.atMostOne common
  omega

/-- No clock of a single node is ahead of a clock that occurs. -/
theorem Issued.not_new_ahead (issued : element.Issued) (nodeId : String) :
    ¬(VectorClock.new nodeId 1).Ahead element.vectorClock := by
  intro ahead
  have removal := issued_new element.value 0 nodeId false
  have absurdity := removal.isAdd_of_ahead issued ahead
  cases absurdity

theorem Issued.merged (issued : element.Issued) (otherIssued : other.Issued)
    (added : element.isAdd = true) :
    { element with
      vectorClock := other.vectorClock.merge element.vectorClock : LWWElement Value }.Issued where
  atMostOne nodeId := by
    rw [VectorClock.getCounter_merge]
    exact max_le (otherIssued.atMostOne nodeId) (issued.atMostOne nodeId)
  ticked := by
    obtain ⟨nodeId, one⟩ := issued.ticked
    have bound := otherIssued.atMostOne nodeId
    refine ⟨nodeId, ?_⟩
    rw [VectorClock.getCounter_merge, one, max_eq_right bound]
  removal removed := by
    rw [added] at removed
    cases removed

/-- The rank of a write: its time, and an addition above a removal of the same time. -/
def rank (element : LWWElement Value) : Int ×ₗ Bool :=
  toLex (element.timestamp, element.isAdd)

theorem rank_le_iff :
    element.rank ≤ other.rank ↔ element.timestamp < other.timestamp ∨
      element.timestamp = other.timestamp ∧ element.isAdd ≤ other.isAdd :=
  Prod.Lex.toLex_le_toLex

end LWWElement

namespace LWWElementSet

open LWWElement

variable {existing otherElement : LWWElement Value}

/-- A replacement is an element that occurs, of the greater rank. -/
theorem replacement_spec (issued : existing.Issued) (otherIssued : otherElement.Issued) :
    ((replacement existing otherElement).getD existing).Issued ∧
      ((replacement existing otherElement).getD existing).rank =
        max existing.rank otherElement.rank := by
  unfold replacement
  by_cases later : otherElement.timestamp > existing.timestamp
  · rw [if_pos later]
    exact ⟨otherIssued, (max_eq_right (rank_le_iff.mpr (.inl later))).symm⟩
  rw [if_neg later]
  by_cases same : otherElement.timestamp = existing.timestamp
  · rw [if_pos same]
    -- the replacement is an addition of the same time
    have taken (added : otherElement.isAdd = true) :
        existing.rank ≤ otherElement.rank :=
      rank_le_iff.mpr (.inr ⟨same.symm, by rw [added]; exact Bool.le_true _⟩)
    have kept (le : otherElement.isAdd ≤ existing.isAdd) : otherElement.rank ≤ existing.rank :=
      rank_le_iff.mpr (.inr ⟨same, le⟩)
    by_cases positive : otherElement.vectorClock.compare existing.vectorClock > 0
    · simp only [if_pos positive, Option.getD_some]
      have ahead := (VectorClock.compare_pos_iff _ _).mp positive
      have added := otherIssued.isAdd_of_ahead issued ahead
      exact ⟨otherIssued.merged issued added, (max_eq_right (taken added)).symm⟩
    simp only [if_neg positive]
    by_cases zero : otherElement.vectorClock.compare existing.vectorClock = 0
    · simp only [if_pos zero]
      by_cases wins : (otherElement.isAdd && !existing.isAdd) = true
      · rw [if_pos wins, Option.getD_some]
        have added : otherElement.isAdd = true := (Bool.and_eq_true_iff.mp wins).1
        exact ⟨otherIssued.merged issued added, (max_eq_right (taken added)).symm⟩
      · rw [if_neg wins, Option.getD_none]
        refine ⟨issued, (max_eq_left (kept ?_)).symm⟩
        revert wins
        cases otherElement.isAdd <;> cases existing.isAdd <;> decide
    · simp only [if_neg zero, Option.getD_none]
      have negative : otherElement.vectorClock.compare existing.vectorClock < 0 := by omega
      have added := issued.isAdd_of_ahead otherIssued
        ((VectorClock.compare_neg_iff _ _).mp negative)
      refine ⟨issued, (max_eq_left (kept ?_)).symm⟩
      rw [added]
      exact Bool.le_true _
  · rw [if_neg same, Option.getD_none]
    have earlier : otherElement.timestamp < existing.timestamp := by omega
    exact ⟨issued, (max_eq_left (rank_le_iff.mpr (.inl earlier))).symm⟩

/-! ### Membership -/

variable (set other : LWWElementSet Value)

/-- Every element has a clock that occurs. -/
def Issued : Prop :=
  ∀ key, ∀ element ∈ set.elements.get key, element.Issued

/-- The rank of the write that stands under a key, if there is one. -/
def standing (key : String) : WithBot (Int ×ₗ Bool) :=
  match set.elements.get key with
  | some element => (element.rank : WithBot (Int ×ₗ Bool))
  | none => ⊥

variable {key : String}

theorem standing_of_some {set : LWWElementSet Value} {element : LWWElement Value}
    (stored : set.elements.get key = some element) : set.standing key = element.rank := by
  rw [standing, stored]

theorem standing_of_none {set : LWWElementSet Value} (vacant : set.elements.get key = none) :
    set.standing key = ⊥ := by
  rw [standing, vacant]

/-- Membership is read off the ranks. -/
theorem has_congr {set other : LWWElementSet Value} {generateKey : Value → String} {value : Value}
    (same : set.standing (generateKey value) = other.standing (generateKey value)) :
    set.has generateKey value = other.has generateKey value := by
  unfold has
  cases here : set.elements.get (generateKey value) with
  | none =>
    cases there : other.elements.get (generateKey value) with
    | none => rfl
    | some element =>
      rw [standing_of_none here, standing_of_some there] at same
      exact absurd same WithBot.bot_ne_coe
  | some element =>
    cases there : other.elements.get (generateKey value) with
    | none =>
      rw [standing_of_some here, standing_of_none there] at same
      exact absurd same WithBot.coe_ne_bot
    | some otherElement =>
      rw [standing_of_some here, standing_of_some there] at same
      exact congrArg (fun rank => (ofLex rank).2) (WithBot.coe_injective same)

theorem get_merge (key : String) :
    (set.merge other).elements.get key =
      (other.elements.get key).elim (set.elements.get key) fun otherElement =>
        some ((set.elements.get key).elim otherElement fun existing =>
          (replacement existing otherElement).getD existing) := by
  refine Table.get_foldl_entries (fun existing otherElement => some (existing.elim otherElement
    fun existing => (replacement existing otherElement).getD existing)) ?_
  intro elements entry key
  obtain ⟨entryKey, otherElement⟩ := entry
  simp only [mergeElement]
  by_cases same : key = entryKey
  · rw [if_pos same, same]
    cases found : elements.get entryKey with
    | none => rw [Table.get_set_self, Option.elim_none]
    | some existing =>
      cases replaced : replacement existing otherElement with
      | none => simp [replaced, found]
      | some element => simp [replaced]
  · rw [if_neg same]
    cases elements.get entryKey with
    | none => simp only [Table.get_set, if_neg same]
    | some existing =>
      cases replaced : replacement existing otherElement with
      | none => simp only [replaced]
      | some element => simp only [replaced, Table.get_set, if_neg same]

variable {set other}

theorem Issued.merge (issued : set.Issued) (otherIssued : other.Issued) :
    (set.merge other).Issued := by
  intro key element stored
  rw [get_merge] at stored
  cases found : other.elements.get key with
  | none =>
    rw [found] at stored
    exact issued key element stored
  | some otherElement =>
    rw [found] at stored
    cases stored
    cases here : set.elements.get key with
    | none => exact otherIssued key otherElement found
    | some existing =>
      exact (replacement_spec (issued key existing here) (otherIssued key otherElement found)).1

/-- A merge takes the greater rank under every key. -/
theorem standing_merge (issued : set.Issued) (otherIssued : other.Issued) (key : String) :
    (set.merge other).standing key = max (set.standing key) (other.standing key) := by
  have merged := get_merge set other key
  cases found : other.elements.get key with
  | none =>
    rw [found] at merged
    rw [standing_of_none found, max_bot_right, standing, merged, standing]
    rfl
  | some otherElement =>
    rw [found] at merged
    rw [standing_of_some merged, standing_of_some found]
    cases here : set.elements.get key with
    | none => rw [standing_of_none here, max_bot_left, Option.elim_none]
    | some existing =>
      have ranks := (replacement_spec (issued key existing here)
        (otherIssued key otherElement found)).2
      rw [standing_of_some here, Option.elim_some, ranks, WithBot.coe_max]

section Writes

variable (generateKey : Value → String) (isAdd : Bool) (value : Value) (nodeId : String)
  (timestamp : Option Int) (now : Int)

/-- A write takes effect exactly when it is later than what stands under its key: a write of the
same time never does. -/
theorem elements_write (issued : set.Issued) :
    (set.write generateKey isAdd value nodeId timestamp now).elements =
      if set.standing (generateKey value) < (toLex (timestamp.getD now, false) : Int ×ₗ Bool) then
        set.elements.set (generateKey value)
          ⟨value, timestamp.getD now, .new nodeId 1, isAdd⟩
      else set.elements := by
  unfold write
  cases found : set.elements.get (generateKey value) with
  | none =>
    simp only [found]
    rw [standing_of_none found, if_pos (WithBot.bot_lt_coe _)]
  | some existing =>
    have later : set.standing (generateKey value) <
        (toLex (timestamp.getD now, false) : Int ×ₗ Bool) ↔
          existing.timestamp < timestamp.getD now := by
      rw [standing_of_some found, WithBot.coe_lt_coe, rank, Prod.Lex.toLex_lt_toLex]
      simp
    have notAhead : ¬(VectorClock.new nodeId 1).compare existing.vectorClock > 0 := by
      intro positive
      exact (issued _ existing found).not_new_ahead nodeId
        ((VectorClock.compare_pos_iff _ _).mp positive)
    simp only [found, later, if_neg notAhead, ite_self, gt_iff_lt]
    split
    · rfl
    · rfl

theorem Issued.write (issued : set.Issued) :
    (set.write generateKey isAdd value nodeId timestamp now).Issued := by
  intro key element stored
  rw [elements_write generateKey isAdd value nodeId timestamp now issued] at stored
  split at stored
  · rw [Table.get_set] at stored
    split at stored
    · cases stored
      exact issued_new value _ nodeId isAdd
    · exact issued key element stored
  · exact issued key element stored

theorem standing_write (issued : set.Issued) (key : String) :
    (set.write generateKey isAdd value nodeId timestamp now).standing key =
      if key = generateKey value ∧ set.standing (generateKey value) <
          (toLex (timestamp.getD now, false) : Int ×ₗ Bool) then
        ((toLex (timestamp.getD now, isAdd) : Int ×ₗ Bool) : WithBot (Int ×ₗ Bool))
      else set.standing key := by
  have written := elements_write generateKey isAdd value nodeId timestamp now issued
  by_cases takes : set.standing (generateKey value) <
      (toLex (timestamp.getD now, false) : Int ×ₗ Bool)
  · rw [if_pos takes] at written
    by_cases same : key = generateKey value
    · rw [if_pos ⟨same, takes⟩, standing, written, same, Table.get_set_self]
      rfl
    · rw [if_neg fun both => same both.1, standing, written, Table.get_set, if_neg same]
      rfl
  · rw [if_neg takes] at written
    rw [if_neg fun both => takes both.2, standing, written]
    rfl

end Writes

theorem issued_empty : (new : LWWElementSet Value).Issued := by
  intro key element stored
  rw [new, Table.get_empty] at stored
  cases stored

theorem standing_empty (key : String) : (new : LWWElementSet Value).standing key = ⊥ := by
  rw [standing, new, Table.get_empty]

end LWWElementSet

end Agora.Crdt

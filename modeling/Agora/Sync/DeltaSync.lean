/-
This file models the endpoint that synchronizes the deltas of clients, and says which of the
stored deltas a client receives.

The server keeps the deltas that each node has submitted, at most a thousand of them. A
client sends its vector clock and is to receive what it has not seen: the deltas whose clock
is neither before its own nor equal to it. The filter of the code asks for the clocks that
are before the client's, or concurrent with it. So a client receives what it has seen, and
does not receive what is strictly ahead of it, and the answer is right exactly when every
stored delta is concurrent with the client's clock or equal to it.
-/

import Agora.Crdt.LwwElementSet

namespace Agora.Sync

open Crdt

variable {Value : Type}

inductive DeltaOperation where
  | add
  | remove
  | update
  deriving DecidableEq, Repr

structure DeltaEntry (Value : Type) where
  id : String
  entityType : String
  entityId : String
  operation : DeltaOperation
  value : Value
  vectorClock : VectorClock
  timestamp : Int
  synced : Bool

structure SyncRequest (Value : Type) where
  nodeId : String
  vectorClock : VectorClock
  deltas : List (DeltaEntry Value)

structure SyncResponse (Value : Type) where
  serverVectorClock : VectorClock
  serverDeltas : List (DeltaEntry Value)
  mergedVectorClock : VectorClock

/-! ### The deltas of a node -/

def ids (deltas : List (DeltaEntry Value)) : List String :=
  deltas.map DeltaEntry.id

/-- Add a delta, avoiding duplicates. -/
def pushNew (deltas : List (DeltaEntry Value)) (delta : DeltaEntry Value) :
    List (DeltaEntry Value) :=
  if deltas.any fun other => other.id == delta.id then deltas else deltas ++ [delta]

/-- The oldest deltas go when there are more than a thousand. -/
def prune (deltas : List (DeltaEntry Value)) : List (DeltaEntry Value) :=
  if deltas.length > 1000 then
    (deltas.insertionSort fun first second => first.timestamp ≤ second.timestamp).drop
      (deltas.length - 1000)
  else deltas

section Push

variable {deltas : List (DeltaEntry Value)} {delta : DeltaEntry Value}

theorem pushNew_of_mem (known : delta.id ∈ ids deltas) : pushNew deltas delta = deltas := by
  obtain ⟨other, member, same⟩ := List.mem_map.mp known
  refine if_pos (List.any_eq_true.mpr ⟨other, member, ?_⟩)
  exact beq_iff_eq.mpr same

theorem pushNew_of_notMem (new : delta.id ∉ ids deltas) :
    pushNew deltas delta = deltas ++ [delta] := by
  refine if_neg fun known => new ?_
  obtain ⟨other, member, same⟩ := List.any_eq_true.mp known
  exact List.mem_map.mpr ⟨other, member, eq_of_beq same⟩

theorem nodup_pushNew (distinct : (ids deltas).Nodup) : (ids (pushNew deltas delta)).Nodup := by
  by_cases known : delta.id ∈ ids deltas
  · rw [pushNew_of_mem known]
    exact distinct
  · rw [pushNew_of_notMem known, ids, List.map_append]
    exact distinct.append (List.nodup_singleton _) (List.disjoint_singleton.mpr known)

theorem nodup_foldl_pushNew (distinct : (ids deltas).Nodup) (new : List (DeltaEntry Value)) :
    (ids (new.foldl pushNew deltas)).Nodup := by
  induction new generalizing deltas with
  | nil => exact distinct
  | cons delta rest inductionHypothesis => exact inductionHypothesis (nodup_pushNew distinct)

theorem nodup_prune (distinct : (ids deltas).Nodup) : (ids (prune deltas)).Nodup := by
  unfold prune
  split
  · refine List.Nodup.sublist ((List.drop_sublist _ _).map _) ?_
    exact ((List.perm_insertionSort _ deltas).map _).nodup_iff.mpr distinct
  · exact distinct

theorem length_prune (deltas : List (DeltaEntry Value)) : (prune deltas).length ≤ 1000 := by
  unfold prune
  split
  · rw [List.length_drop, List.length_insertionSort]
    omega
  · omega

end Push

/-- What is stored for a node: different deltas, and not too many. -/
structure NodeDeltas (Value : Type) where
  list : List (DeltaEntry Value)
  distinct : (ids list).Nodup
  bounded : list.length ≤ 1000

namespace NodeDeltas

def empty : NodeDeltas Value := ⟨[], List.nodup_nil, Nat.zero_le _⟩

def store (stored : NodeDeltas Value) (deltas : List (DeltaEntry Value)) : NodeDeltas Value where
  list := prune (deltas.foldl pushNew stored.list)
  distinct := nodup_prune (nodup_foldl_pushNew stored.distinct deltas)
  bounded := length_prune _

end NodeDeltas

/-! ### The endpoint -/

structure SyncState (Value : Type) where
  serverVectorClock : VectorClock
  deltaStore : Table String (NodeDeltas Value)

namespace SyncState

variable (state : SyncState Value)

def nodeDeltas (nodeId : String) : NodeDeltas Value :=
  (state.deltaStore.get nodeId).getD .empty

/-- The deltas of all nodes. -/
def stored : List (DeltaEntry Value) :=
  state.deltaStore.entries.flatMap fun entry => entry.2.list

def computeServerDeltas (clientClock : VectorClock) : List (DeltaEntry Value) :=
  state.deltaStore.entries.flatMap fun entry => entry.2.list.filter fun delta =>
    delta.vectorClock.happenedBefore clientClock || delta.vectorClock.isConcurrent clientClock

def storeClientDeltas (nodeId : String) (deltas : List (DeltaEntry Value)) : SyncState Value :=
  { state with
    deltaStore := state.deltaStore.set nodeId ((state.nodeDeltas nodeId).store deltas) }

/-- The call with its response. Applying the deltas of the client leaves no trace in the state:
the three operations are placeholders that write a line to the log. -/
def deltaSync (request : SyncRequest Value) : SyncResponse Value × SyncState Value :=
  let clientClock := request.vectorClock
  let serverClock := state.serverVectorClock
  let serverDeltas := state.computeServerDeltas clientClock
  let mergedClock := serverClock.merge clientClock
  let updated := { state with serverVectorClock := mergedClock }
  (⟨serverClock, serverDeltas, mergedClock⟩,
    updated.storeClientDeltas request.nodeId request.deltas)

end SyncState

/-! ### What a client receives -/

/-- The client has seen a delta whose clock is before its own or equal to it. -/
def seen (clientClock : VectorClock) (delta : DeltaEntry Value) : Bool :=
  delta.vectorClock.happenedBefore clientClock || delta.vectorClock.equals clientClock

/-- A clock is before another one or equal to it where it is nowhere ahead. -/
theorem seen_iff (clientClock : VectorClock) (delta : DeltaEntry Value) :
    seen clientClock delta = true ↔
      ∀ nodeId, delta.vectorClock.getCounter nodeId ≤ clientClock.getCounter nodeId := by
  rw [seen, Bool.or_eq_true, VectorClock.happenedBefore_iff, VectorClock.equals_iff]
  constructor
  · rintro (ahead | same) nodeId
    · exact ahead.2 nodeId
    · exact (same nodeId).le
  · intro below
    by_cases somewhere : ∃ nodeId,
        delta.vectorClock.getCounter nodeId < clientClock.getCounter nodeId
    · exact .inl ⟨somewhere, below⟩
    · rw [not_exists] at somewhere
      exact .inr fun nodeId => (below nodeId).antisymm (not_lt.mp (somewhere nodeId))

/-- The filter lets through what was not seen exactly where the clocks are not in order. -/
theorem filter_eq_not_seen_iff {clientClock : VectorClock} {delta : DeltaEntry Value} :
    (delta.vectorClock.happenedBefore clientClock ||
        delta.vectorClock.isConcurrent clientClock) = !seen clientClock delta ↔
      ¬clientClock.Ahead delta.vectorClock ∧ ¬delta.vectorClock.Ahead clientClock := by
  have before := delta.vectorClock.happenedBefore_iff clientClock
  have concurrent := delta.vectorClock.isConcurrent_iff clientClock
  have equal := delta.vectorClock.equals_iff clientClock
  have notBoth (same : delta.vectorClock.equals clientClock = true) :
      ¬clientClock.Ahead delta.vectorClock ∧ ¬delta.vectorClock.Ahead clientClock := by
    refine ⟨fun ahead => ?_, fun ahead => ?_⟩
    · obtain ⟨nodeId, less⟩ := ahead.1
      exact less.ne (equal.mp same nodeId)
    · obtain ⟨nodeId, less⟩ := ahead.1
      exact less.ne (equal.mp same nodeId).symm
  unfold seen
  cases happened : delta.vectorClock.happenedBefore clientClock with
  | true =>
    rw [Bool.true_or, Bool.true_or]
    exact iff_of_false Bool.noConfusion fun both => both.1 (before.mp happened)
  | false =>
    have notBefore : ¬clientClock.Ahead delta.vectorClock := by
      rw [← before, happened]
      exact Bool.noConfusion
    cases same : delta.vectorClock.equals clientClock with
    | true =>
      rw [Bool.false_or, Bool.false_or, Bool.not_true, Bool.eq_false_iff, Ne, concurrent, same]
      exact iff_of_true (fun both => Bool.noConfusion both.2.2) (notBoth same)
    | false =>
      rw [Bool.false_or, Bool.false_or, Bool.not_false, concurrent, same]
      exact ⟨fun both => ⟨both.2.1, both.1⟩, fun both => ⟨both.2, both.1, rfl⟩⟩

/-- A client receives exactly what it has not seen when, and only when, no stored delta has a
clock that is strictly before the client's or strictly after it. -/
theorem deltaSync_exact_iff (state : SyncState Value) (request : SyncRequest Value) :
    (state.deltaSync request).1.serverDeltas =
        state.stored.filter (fun delta => !seen request.vectorClock delta) ↔
      ∀ delta ∈ state.stored, ¬request.vectorClock.Ahead delta.vectorClock ∧
        ¬delta.vectorClock.Ahead request.vectorClock := by
  show state.computeServerDeltas request.vectorClock = _ ↔ _
  rw [show state.computeServerDeltas request.vectorClock = state.stored.filter _ from
    List.filter_flatMap.symm]
  constructor
  · intro same delta member
    refine filter_eq_not_seen_iff.mp (Bool.eq_iff_iff.mpr ?_)
    have both := congrArg (delta ∈ ·) same
    simpa only [List.mem_filter, member, true_and, eq_iff_iff] using both
  · intro unordered
    refine List.filter_congr fun delta member => ?_
    exact filter_eq_not_seen_iff.mpr (unordered delta member)

/-- A delta of the first node, which has counted to one. -/
def firstDelta : DeltaEntry Unit :=
  ⟨"delta", "bookmark", "entity", .add, (), .new "first" 1, 0, false⟩

/-- A server that stores one delta of the first node. -/
def oneDelta : SyncState Unit :=
  SyncState.storeClientDeltas ⟨.new "first" 1, .empty⟩ "first" [firstDelta]

/-- A client that has seen nothing receives nothing, and one that has seen the delta receives
it. -/
theorem deltaSync_starves_and_resends :
    ids oneDelta.stored = ["delta"] ∧
    ids (oneDelta.deltaSync ⟨"second", ⟨.empty⟩, []⟩).1.serverDeltas = [] ∧
    seen ⟨.empty⟩ firstDelta = false ∧
    ids (oneDelta.deltaSync ⟨"second", .new "first" 2, []⟩).1.serverDeltas = ["delta"] ∧
    seen (.new "first" 2) firstDelta = true := by
  refine ⟨?_, ?_, ?_, ?_, ?_⟩ <;> decide +kernel

end Agora.Sync

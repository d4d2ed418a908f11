/-
This file is about the list of events that the registry keeps for every organizer, and
whether it is the list of their stored events.

The list is kept in shards. A new event goes to the shard that the number of events names,
and as many shards are read as this number fills. A removal leaves its gap where it is and
lowers the number, so that it can take the last shard out of sight with events in it. The
shards stand for a list as long as that does not happen.
-/

import Agora.EventRegistry.Catalog

namespace Agora.EventRegistry

open Soroban TicketPayment

/-! ### The shards -/

namespace OrganizerIndex

variable {index next : OrganizerIndex} {organizer other : Address} {eventId : EventId}

/-- The shards that are read hold every id that is marked as listed, each once, and the others
hold none. -/
structure Sound (index : OrganizerIndex) (organizer : Address) : Prop where
  beyond : ∀ shardId, index.shardCount organizer ≤ shardId → index.shardOf organizer shardId = []
  nodup : (index.all organizer).Nodup
  length : (index.all organizer).length = index.countOf organizer
  marked : ∀ eventId, (index.member.get (organizer, eventId)).isSome = true ↔
    eventId ∈ index.all organizer

/-- The condition on a removal: when it leaves nothing but full shards, the last shard lists no
other id. -/
def Closes (index : OrganizerIndex) (organizer : Address) (eventId : EventId) : Prop :=
  index.countOf organizer % shardSize = 1 →
    ∀ other ∈ index.shardOf organizer (index.countOf organizer / shardSize), other = eventId

/-- The ids that are marked as listed are what the shards hold. -/
theorem sound_iff_holds : index.Sound organizer ↔
    ShardsHold shardSize (index.countOf organizer) (index.shardOf organizer) fun eventId =>
      (index.member.get (organizer, eventId)).isSome = true := by
  have reach (shardId : Nat) : index.shardCount organizer ≤ shardId ↔
      index.countOf organizer ≤ shardId * shardSize := by
    unfold shardCount shardSize
    omega
  constructor
  · rintro ⟨beyond, nodup, length, marked⟩
    exact ⟨fun shardId outside => beyond shardId ((reach shardId).mpr outside), nodup, length,
      fun eventId => (marked eventId).symm⟩
  · rintro ⟨beyond, nodup, length, mem⟩
    exact ⟨fun shardId outside => beyond shardId ((reach shardId).mp outside), nodup, length,
      fun eventId => (mem eventId).symm⟩

theorem sound_empty (organizer : Address) : empty.Sound organizer :=
  sound_iff_holds.mpr (shardsHold_empty.congr fun _ => by simp [empty])

/-- Writes for one organizer do not concern another one. -/
theorem Sound.congr (sound : index.Sound organizer)
    (count : next.countOf organizer = index.countOf organizer)
    (shards : next.shardOf organizer = index.shardOf organizer)
    (members : ∀ eventId, next.member.get (organizer, eventId) =
      index.member.get (organizer, eventId)) : next.Sound organizer := by
  rw [sound_iff_holds] at sound ⊢
  rw [count, shards]
  exact sound.congr fun eventId => by rw [members]

/-! ### Adding -/

theorem add_of_listed (listed : (index.member.get (organizer, eventId)).isSome = true) :
    index.add organizer eventId = index :=
  if_pos listed

section Add

variable (unlisted : ¬(index.member.get (organizer, eventId)).isSome = true)

include unlisted

theorem countOf_add (other : Address) :
    (index.add organizer eventId).countOf other =
      if other = organizer then index.countOf organizer + 1 else index.countOf other := by
  rw [add, if_neg unlisted, countOf, Store.get_set]
  split <;> rfl

theorem shardOf_add (other : Address) :
    (index.add organizer eventId).shardOf other =
      if other = organizer then
        pushShard shardSize (index.countOf organizer) (index.shardOf organizer) eventId
      else index.shardOf other := by
  funext shardId
  rw [add, if_neg unlisted]
  simp only [shardOf, Store.get_set, Prod.mk.injEq]
  by_cases same : other = organizer
  · rw [if_pos same, pushShard, same]
    simp only [true_and]
    split <;> rfl
  · rw [if_neg same, if_neg fun both => same both.1]
    rfl

theorem member_add (other : Address) (otherId : EventId) :
    (index.add organizer eventId).member.get (other, otherId) =
      if other = organizer ∧ otherId = eventId then some ()
      else index.member.get (other, otherId) := by
  rw [add, if_neg unlisted, Store.get_set]
  exact if_congr (by rw [Prod.mk.injEq]) rfl rfl

theorem Sound.add (sound : ∀ organizer, index.Sound organizer) (other : Address) :
    (index.add organizer eventId).Sound other := by
  by_cases same : other = organizer
  · subst same
    have pushed := (sound_iff_holds.mp (sound other)).push (by decide) unlisted
    rw [sound_iff_holds, countOf_add unlisted, if_pos rfl, shardOf_add unlisted, if_pos rfl]
    refine pushed.congr fun otherId => ?_
    rw [member_add unlisted]
    by_cases new : otherId = eventId
    · simp [new]
    · simp [new]
  · refine (sound other).congr ?_ ?_ fun otherId => ?_
    · rw [countOf_add unlisted, if_neg same]
    · rw [shardOf_add unlisted, if_neg same]
    · rw [member_add unlisted, if_neg fun both => same both.1]

end Add

/-! ### Removing -/

section Remove

variable {shardId : Nat}
  (found : (List.range (index.shardCount organizer)).find?
    (fun shardId => eventId ∈ index.shardOf organizer shardId) = some shardId)

include found

theorem remove_eq :
    index.remove organizer eventId =
      { member := index.member.remove (organizer, eventId)
        shard := index.shard.set (organizer, shardId)
          ((index.shardOf organizer shardId).filter (· ≠ eventId))
        count := index.count.set organizer (index.countOf organizer - 1) } := by
  simp only [remove, found]

theorem countOf_remove (other : Address) :
    (index.remove organizer eventId).countOf other =
      if other = organizer then index.countOf organizer - 1 else index.countOf other := by
  rw [remove_eq found, countOf, Store.get_set]
  split <;> rfl

theorem shardOf_remove (other : Address) :
    (index.remove organizer eventId).shardOf other =
      if other = organizer then popShard (index.shardOf organizer) shardId eventId
      else index.shardOf other := by
  funext otherShard
  rw [remove_eq found]
  simp only [shardOf, Store.get_set, Prod.mk.injEq]
  by_cases same : other = organizer
  · rw [if_pos same, popShard, same]
    simp only [true_and]
    split <;> rfl
  · rw [if_neg same, if_neg fun both => same both.1]
    rfl

theorem member_remove (other : Address) (otherId : EventId) :
    (index.remove organizer eventId).member.get (other, otherId) =
      if other = organizer ∧ otherId = eventId then none
      else index.member.get (other, otherId) := by
  rw [remove_eq found, Store.get_remove]
  exact if_congr (by rw [Prod.mk.injEq]) rfl rfl

theorem Sound.remove (sound : ∀ organizer, index.Sound organizer)
    (closes : index.Closes organizer eventId) (other : Address) :
    (index.remove organizer eventId).Sound other := by
  by_cases same : other = organizer
  · subst same
    have member : eventId ∈ index.shardOf other shardId := by
      simpa using List.find?_some found
    have popped := (sound_iff_holds.mp (sound other)).pop (by decide) member closes
    rw [sound_iff_holds, countOf_remove found, if_pos rfl, shardOf_remove found, if_pos rfl]
    refine popped.congr fun otherId => ?_
    rw [member_remove found]
    by_cases removed : otherId = eventId
    · simp [removed]
    · simp [removed]
  · refine (sound other).congr ?_ ?_ fun otherId => ?_
    · rw [countOf_remove found, if_neg same]
    · rw [shardOf_remove found, if_neg same]
    · rw [member_remove found, if_neg fun both => same both.1]

end Remove

/-! ### Owners -/

section Owners

variable {owner nextOwner : EventId → Option Address}

/-- The lists are sound, and each lists what belongs to the organizer. -/
structure Exact (index : OrganizerIndex) (owner : EventId → Option Address) : Prop where
  sound : ∀ organizer, index.Sound organizer
  listed : ∀ organizer eventId, eventId ∈ index.all organizer ↔ owner eventId = some organizer

theorem exact_empty : empty.Exact fun _ => none where
  sound := sound_empty
  listed organizer eventId := by
    rw [← (sound_empty organizer).marked]
    simp [empty]

section

variable (exact : index.Exact owner)

include exact

/-- What belongs to an organizer is marked for them. -/
theorem Exact.marked {organizer : Address} {eventId : EventId} :
    (index.member.get (organizer, eventId)).isSome = true ↔ owner eventId = some organizer :=
  ((exact.sound organizer).marked eventId).trans (exact.listed organizer eventId)

theorem Exact.congr (same : ∀ eventId, nextOwner eventId = owner eventId) : index.Exact nextOwner :=
  ⟨exact.sound, fun organizer eventId => by rw [exact.listed, same]⟩

/-- What belongs to the organizer already is not listed again. -/
theorem Exact.add_eq (owned : owner eventId = some organizer) :
    index.add organizer eventId = index :=
  add_of_listed (exact.marked.mpr owned)

theorem Exact.add (free : owner eventId = none)
    (read : ∀ other, nextOwner other = if other = eventId then some organizer else owner other) :
    (index.add organizer eventId).Exact nextOwner := by
  have unlisted : ¬(index.member.get (organizer, eventId)).isSome = true := by
    rw [exact.marked, free]
    exact (Option.some_ne_none organizer).symm
  have sound := Sound.add unlisted exact.sound
  refine ⟨sound, fun other otherId => ?_⟩
  rw [← (sound other).marked, member_add unlisted, read]
  by_cases new : otherId = eventId
  · by_cases mine : other = organizer
    · simp [new, mine]
    · simp only [mine, false_and, if_false, new, if_true, exact.marked, free]
      exact iff_of_false (Option.some_ne_none other).symm fun same =>
        mine (Option.some.inj same).symm
  · simp [new, exact.marked]

theorem Exact.remove (owned : owner eventId = some organizer)
    (closes : index.Closes organizer eventId)
    (read : ∀ other, nextOwner other = if other = eventId then none else owner other) :
    (index.remove organizer eventId).Exact nextOwner := by
  obtain ⟨shardId, found, _⟩ := exists_find_shard ((exact.listed organizer eventId).mpr owned)
  have sound := Sound.remove found exact.sound closes
  refine ⟨sound, fun other otherId => ?_⟩
  rw [← (sound other).marked, member_remove found, read]
  by_cases removed : otherId = eventId
  · by_cases mine : other = organizer
    · simp [removed, mine]
    · simp only [mine, false_and, if_false, removed, if_true, exact.marked, owned]
      exact iff_of_false (fun same => mine (Option.some.inj same).symm)
        (Option.some_ne_none other).symm
  · simp [removed, exact.marked]

end

end Owners

end OrganizerIndex

/-! ### The events of an organizer -/

/-- The organizer sees all their events, anybody else the public ones. -/
def Registry.getOrganizerEvents (registry : Registry) (organizer caller : Address) :
    List EventId :=
  if organizer = caller then registry.organizerEvents.all organizer
  else (registry.organizerEvents.all organizer).filter fun eventId =>
    (registry.events.get eventId).any (!·.isPrivate)

/-- Whose event is stored under an id. -/
def Catalog.owner (catalog : Catalog) (eventId : EventId) : Option Address :=
  (catalog.events.get eventId).map (·.organizerAddress)

/-- The lists are the stored events of the organizers. -/
def Catalog.IndexExact (catalog : Catalog) : Prop :=
  catalog.organizerEvents.Exact catalog.owner

section Exact

variable {registry : Registry} (exact : registry.catalog.IndexExact) {eventId : EventId}
  {event record : Event}

theorem owner_of_stored (stored : registry.events.get eventId = some event) :
    registry.catalog.owner eventId = some event.organizerAddress :=
  congrArg (Option.map _) stored

theorem owner_updateEvent (other : EventId) :
    (registry.updateEvent eventId record).catalog.owner other =
      if other = eventId then some record.organizerAddress else registry.catalog.owner other := by
  show ((registry.events.set eventId record).get other).map _ = _
  rw [Store.get_set]
  split <;> rfl

include exact

section

variable (stored : registry.events.get eventId = some event)
  (organizer : record.organizerAddress = event.organizerAddress)

include stored organizer

/-- An event is written over another one of the same organizer. -/
theorem Catalog.IndexExact.updateEvent :
    (registry.updateEvent eventId record).catalog.IndexExact := by
  refine OrganizerIndex.Exact.congr exact fun other => ?_
  rw [owner_updateEvent]
  split
  · rename_i same
    rw [same, owner_of_stored stored, organizer]
  · rfl

theorem Catalog.IndexExact.storeEvent :
    (registry.storeEvent eventId record).catalog.IndexExact := by
  have listed : registry.organizerEvents.add record.organizerAddress eventId =
      registry.organizerEvents := by
    refine OrganizerIndex.Exact.add_eq exact ?_
    rw [owner_of_stored stored, organizer]
  show (registry.organizerEvents.add record.organizerAddress eventId).Exact _
  rw [listed]
  exact Catalog.IndexExact.updateEvent exact stored organizer

end

theorem Catalog.IndexExact.registerEvent (free : registry.events.get eventId = none) :
    (registry.storeEvent eventId record).catalog.IndexExact :=
  OrganizerIndex.Exact.add exact (congrArg (Option.map _) free) owner_updateEvent

theorem Catalog.IndexExact.removeEvent (stored : registry.events.get eventId = some event)
    (closes : registry.organizerEvents.Closes event.organizerAddress eventId) :
    (registry.removeEvent eventId).catalog.IndexExact := by
  have removed : (registry.removeEvent eventId).catalog.IndexExact ↔
      (registry.organizerEvents.remove event.organizerAddress eventId).Exact fun other =>
        ((registry.events.remove eventId).get other).map (·.organizerAddress) := by
    unfold Registry.removeEvent
    simp only [stored]
    rfl
  refine removed.mpr (OrganizerIndex.Exact.remove exact (owner_of_stored stored) closes ?_)
  intro other
  rw [Store.get_remove]
  split <;> rfl

theorem Catalog.IndexExact.suspendOrganizerEvents {organizer : Address} :
    (registry.suspendOrganizerEvents organizer).catalog.IndexExact := by
  refine Registry.suspendOrganizerEvents_induction (·.catalog.IndexExact) ?_ exact organizer
  intro reached eventId event stored exact
  exact Catalog.IndexExact.storeEvent exact stored rfl

end Exact

/-! ### The runs -/

/-- The condition on a call: an event is archived only if its removal closes a shard. -/
def KeepsIndex (registry : Registry) (call : CatalogCall) : Prop :=
  ∀ eventId event, call = .call (.archiveEvent eventId) →
    registry.events.get eventId = some event →
    registry.organizerEvents.Closes event.organizerAddress eventId

theorem CatalogTurn.indexExact {registry next : Registry} {call : CatalogCall}
    (turn : CatalogTurn registry call next) (keeps : KeepsIndex registry call)
    (exact : registry.catalog.IndexExact) : next.catalog.IndexExact := by
  cases turn with
  | kept same | reprieved called same => exact same ▸ exact
  | registered called welcome free same =>
    rw [same]
    exact Catalog.IndexExact.registerEvent exact free
  | rewritten same rewrites =>
    rw [same]
    exact Catalog.IndexExact.updateEvent exact rewrites.stored rewrites.organizer
  | @sold eventId tierId user _ quantity _ tier called stocked same =>
    obtain ⟨counts, counted⟩ := countTickets_eq
    rw [same, counted]
    exact Catalog.IndexExact.updateEvent exact stocked.eventEq rfl
  | minted called stocked same =>
    rw [same]
    exact Catalog.IndexExact.updateEvent exact stocked.eventEq rfl
  | stored called stored organizer same =>
    rw [same]
    exact Catalog.IndexExact.storeEvent exact stored organizer
  | archived called stored inactive same =>
    rw [same]
    exact Catalog.IndexExact.removeEvent exact stored (keeps _ _ called stored)
  | @blacklisted organizer called same =>
    rw [same]
    have listed : (registry.addToBlacklist organizer).catalog.IndexExact := exact
    exact listed.suspendOrganizerEvents

theorem run_indexExact (actions : List (Invocation × CatalogCall))
    (keeps : Respects catalogStep (fun registry action => KeepsIndex registry action.2) .vacant
      actions) : (runActions catalogStep .vacant actions).catalog.IndexExact := by
  refine respects_invariant (fun registry : Registry => registry.catalog.IndexExact) ?_ .vacant
    actions keeps OrganizerIndex.exact_empty
  intro registry action keeps exact
  exact (catalogStep_turn registry action).indexExact keeps exact

/-- In every run of such calls the list of an organizer has each of their stored events once and
nothing else, and the stored number is its length. -/
theorem organizer_events_exact (actions : List (Invocation × CatalogCall))
    (keeps : Respects catalogStep (fun registry action => KeepsIndex registry action.2) .vacant
      actions) (organizer : Address) :
    let registry := runActions catalogStep .vacant actions
    (registry.getOrganizerEvents organizer organizer).Nodup ∧
      (∀ eventId, eventId ∈ registry.getOrganizerEvents organizer organizer ↔
        ∃ event, registry.events.get eventId = some event ∧ event.organizerAddress = organizer) ∧
      registry.organizerEvents.countOf organizer =
        (registry.getOrganizerEvents organizer organizer).length := by
  have exact := run_indexExact actions keeps
  have sound := exact.sound organizer
  simp only [Registry.getOrganizerEvents, if_pos]
  refine ⟨sound.nodup, fun eventId => ?_, sound.length.symm⟩
  exact (exact.listed organizer eventId).trans Option.map_eq_some_iff

/-- An event is taken off sale and archived. -/
def archiving (eventId : EventId) : List (Invocation × CatalogCall) :=
  [(everybodySigns, .call (.updateEventStatus eventId false)),
    (everybodySigns, .call (.archiveEvent eventId))]

/-- Of two events one is archived, and the other one is left in the list. -/
theorem archived_concert_unlisted :
    let registry := runActions catalogStep .vacant (twoRegistered ++ archiving "concert")
    "concert" ∉ registry.getOrganizerEvents organizerAddress organizerAddress ∧
      "festival" ∈ registry.getOrganizerEvents organizerAddress organizerAddress ∧
      (registry.getOrganizerEvents organizerAddress organizerAddress).length = 1 := by
  have other {registry : Registry} {call : CatalogCall}
      (another : ∀ eventId, call ≠ .call (.archiveEvent eventId)) : KeepsIndex registry call :=
    fun eventId _ called => absurd called (another eventId)
  obtain ⟨-, listed, count⟩ := organizer_events_exact (twoRegistered ++ archiving "concert")
    ⟨other fun _ => by simp [opening], other fun _ => by simp, other fun _ => by simp,
      other fun _ => by simp, by
        intro eventId event called stored
        cases called
        cases stored
        intro absurdity
        exact absurd absurdity (by decide), trivial⟩ organizerAddress
  refine ⟨fun present => ?_, (listed "festival").mpr ⟨_, rfl, rfl⟩, count.symm⟩
  obtain ⟨event, absurdity, -⟩ := (listed "concert").mp present
  cases absurdity

/-- As many concerts, under names of different lengths. -/
def manyConcerts (count : Nat) : List (Invocation × CatalogCall) :=
  (List.range count).map fun number => (everybodySigns, .call (.registerEvent
    { smallConcert with eventId := String.ofList (List.replicate (number + 1) 'c') }))

/-- Of fifty-one events the first one is archived. The fifty-first is stored and on sale, and is
not in the list. -/
theorem fifty_first_concert_unlisted :
    let last := String.ofList (List.replicate 51 'c')
    let registry := runActions catalogStep .vacant
      (opening :: manyConcerts 51 ++ archiving "c")
    (registry.events.get last).map (·.organizerAddress) = some organizerAddress ∧
      last ∉ registry.getOrganizerEvents organizerAddress organizerAddress ∧
      registry.organizerEvents.countOf organizerAddress = 50 ∧
      (registry.getOrganizerEvents organizerAddress organizerAddress).length = 49 := by
  decide +kernel

end Agora.EventRegistry

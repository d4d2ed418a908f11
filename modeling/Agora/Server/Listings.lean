/-
This file models three listings of the server that are read page by page: past events, the
attendees of an event, and the events of the organizers that a user follows.

Each is a query over tables with a filter, an order and a cursor condition. A joined table
with a unique key is a condition on the row that it is joined to. The clock and the tables
stay as they are while the pages are read, and a cursor is decoded to what was encoded.
-/

import Mathlib.Data.Prod.Lex
import Agora.Lib.Pages

namespace Agora.Server

abbrev Uuid := Nat

structure EventRow where
  id : Uuid
  organizerId : Uuid
  startTime : Int
  endTime : Option Int
  isFlagged : Bool

structure OrganizerRow where
  id : Uuid
  walletAddress : Option String

structure FollowRow where
  followerId : String
  followingId : String

structure TierRow where
  id : Uuid
  eventId : Uuid

structure TicketRow where
  id : Uuid
  ticketTierId : Option Uuid
  createdAt : Int

/-- The tables that the listings read. Events and tickets have unique ids. Whether tickets have
the column `quantity` is left open: no migration creates it, but a query selects it. -/
structure Tables where
  events : List EventRow
  organizers : List OrganizerRow
  follows : List FollowRow
  tiers : List TierRow
  tickets : List TicketRow
  hasQuantity : Bool
  event_ids : (events.map (·.id)).Nodup
  ticket_ids : (tickets.map (·.id)).Nodup

/-! ### Pages -/

def maxPageSize : Nat := 100

/-- The limit of a request after validation. -/
def pageSize (limit : Nat) : Nat := max 1 (min limit maxPageSize)

/-- A cursor: the time and the id of a row. -/
structure TimeCursor where
  time : Int
  id : Uuid

variable {Row : Type} (rows : List Row) (id : Row → Uuid)

/-- In ascending order of the time and then of the id. -/
def ascending (time : Row → Int) (ids : (rows.map id).Nodup) :
    Feed Row TimeCursor (Int ×ₗ Uuid) where
  rows := sortByKey (fun row => toLex (time row, id row)) rows
  key row := toLex (time row, id row)
  cursorOf row := some ⟨time row, id row⟩
  after cursor row := cursor.time < time row || (time row = cursor.time && cursor.id < id row)
  sorted := sorted_sortByKey (.of_map (fun key => (ofLex key).2) (by rwa [List.map_map]))
  cursor_some row _ := by
    refine ⟨_, rfl, fun other _ => ?_⟩
    simp only [Prod.Lex.toLex_lt_toLex, Bool.or_eq_true, Bool.and_eq_true, decide_eq_true_eq]
    exact or_congr_right (and_congr_left' eq_comm)

/-- In descending order of the time and then of the id, for rows that have a time. -/
def descending (time : Row → Option Int) (ids : (rows.map id).Nodup)
    (timed : ∀ row ∈ rows, (time row).isSome = true) :
    Feed Row TimeCursor (Int ×ₗ Uuid)ᵒᵈ where
  rows := sortByKey (fun row => OrderDual.toDual (toLex ((time row).getD 0, id row))) rows
  key row := OrderDual.toDual (toLex ((time row).getD 0, id row))
  cursorOf row := (time row).map (⟨·, id row⟩)
  after cursor row := (time row).any fun time =>
    time < cursor.time || (time = cursor.time && id row < cursor.id)
  sorted := sorted_sortByKey (.of_map (fun key => (ofLex (OrderDual.ofDual key)).2)
    (by rwa [List.map_map]))
  cursor_some row member := by
    obtain ⟨first, firstEq⟩ := Option.isSome_iff_exists.mp
      (timed row ((List.mem_insertionSort _).mp member))
    refine ⟨⟨first, id row⟩, by rw [firstEq]; rfl, fun other member => ?_⟩
    obtain ⟨second, secondEq⟩ := Option.isSome_iff_exists.mp
      (timed other ((List.mem_insertionSort _).mp member))
    simp [firstEq, secondEq, Prod.Lex.toLex_lt_toLex]

/-! ### The listings -/

variable (tables : Tables) (now : Int)

/-- The organizer filter. A subquery that gives more than one organizer is an error. -/
def organizerFilter : Option String → Option (EventRow → Bool)
  | none => some fun _ => true
  | some wallet => match tables.organizers.filter (·.walletAddress = some wallet) with
    | [] => some fun _ => false
    | [organizer] => some fun event => event.organizerId = organizer.id
    | _ => none

def isPast (event : EventRow) : Bool := event.endTime.any (· ≤ now) && !event.isFlagged

theorem isSome_endTime_of_isPast {event : EventRow} (past : isPast now event = true) :
    event.endTime.isSome = true := by
  cases ends : event.endTime with
  | none => simp [isPast, ends] at past
  | some _ => rfl

def listPastEvents (wallet : Option String) :
    Option (Feed EventRow TimeCursor (Int ×ₗ Uuid)ᵒᵈ) :=
  (organizerFilter tables wallet).map fun selects =>
    descending (tables.events.filter fun event => isPast now event && selects event) (·.id)
      (·.endTime) (tables.event_ids.sublist (List.filter_sublist.map _)) fun _ member =>
        isSome_endTime_of_isPast now (Bool.and_eq_true_iff.mp (List.mem_filter.mp member).2).1

/-- There is an event with the id that is not flagged. -/
def isListed (eventId : Uuid) : Bool :=
  tables.events.any fun event => event.id = eventId && !event.isFlagged

/-- The tickets with a tier of the event. It is an error where there is no such event, where the
event is flagged, and where the query selects a column that is not there. -/
def listEventAttendees (eventId : Uuid) : Option (Feed TicketRow TimeCursor (Int ×ₗ Uuid)) :=
  if isListed tables eventId = true ∧ tables.hasQuantity = true then
    some (ascending (tables.tickets.filter fun ticket => tables.tiers.any fun tier =>
        some tier.id = ticket.ticketTierId && tier.eventId = eventId) (·.id) (·.createdAt)
      (tables.ticket_ids.sublist (List.filter_sublist.map _)))
  else none

/-- The organizer of the event is followed. -/
def isFollowed (follower : String) (event : EventRow) : Bool :=
  tables.organizers.any fun organizer => organizer.id = event.organizerId &&
    tables.follows.any fun follow =>
      some follow.followingId = organizer.walletAddress && follow.followerId = follower

def listFollowingEvents (follower : String) : Feed EventRow TimeCursor (Int ×ₗ Uuid) :=
  ascending (tables.events.filter fun event => isFollowed tables follower event &&
      !event.isFlagged && event.endTime.any (now < ·)) (·.id) (·.startTime)
    (tables.event_ids.sublist (List.filter_sublist.map _))

/-- Unless the listing is an error, its pages come to an end. They show every row once and in
order exactly when it is no error and there are no more rows than one page shows. -/
def CompleteWhenOnePage {Key : Type} [LinearOrder Key]
    (listing : Option (Feed Row TimeCursor Key)) (limit fuel : Nat) : Prop :=
  (∀ feed ∈ listing, (feed.walk (pageSize limit) fuel none).isSome = true) ∧
    ((∃ feed ∈ listing, feed.walk (pageSize limit) fuel none = some feed.rows) ↔
      ∃ feed ∈ listing, feed.rows.length ≤ pageSize limit)

theorem completeWhenOnePage {Key : Type} [LinearOrder Key]
    {listing : Option (Feed Row TimeCursor Key)} {fuel : Nat}
    (enough : ∀ feed ∈ listing, feed.rows.length < fuel) (limit : Nat) :
    CompleteWhenOnePage listing limit fuel := by
  refine ⟨fun feed listed => ?_, exists_congr fun feed => and_congr_right fun listed => ?_⟩
  · exact (Feed.walk_eq_rows_iff (enough feed listed)).1
  · exact (Feed.walk_eq_rows_iff (enough feed listed)).2

/-- Of each listing, whatever the tables, the clock, the filter and the limit. -/
theorem pages_complete_iff (limit fuel : Nat) (wallet : Option String) (eventId : Uuid)
    (follower : String)
    (enough : tables.events.length < fuel ∧ tables.tickets.length < fuel) :
    CompleteWhenOnePage (listPastEvents tables now wallet) limit fuel ∧
      CompleteWhenOnePage (listEventAttendees tables eventId) limit fuel ∧
      CompleteWhenOnePage (some (listFollowingEvents tables now follower)) limit fuel := by
  have events (selects : EventRow → Bool) : (tables.events.filter selects).length < fuel :=
    lt_of_le_of_lt (List.length_filter_le _ _) enough.1
  have tickets (selects : TicketRow → Bool) : (tables.tickets.filter selects).length < fuel :=
    lt_of_le_of_lt (List.length_filter_le _ _) enough.2
  refine ⟨completeWhenOnePage (fun feed listed => ?_) limit,
    completeWhenOnePage (fun feed listed => ?_) limit,
    completeWhenOnePage (fun feed listed => ?_) limit⟩
  · obtain ⟨selects, _, rfl⟩ := Option.mem_map.mp listed
    exact lt_of_eq_of_lt (List.length_insertionSort _ _) (events _)
  · obtain ⟨_, found⟩ := Option.ite_none_right_eq_some.mp listed
    obtain rfl := Option.some.inj found
    exact lt_of_eq_of_lt (List.length_insertionSort _ _) (tickets _)
  · obtain rfl := Option.some.inj listed
    exact lt_of_eq_of_lt (List.length_insertionSort _ _) (events _)

/-- Two events that ended at the same time. -/
def twoEvents : Tables where
  events := [⟨1, 1, 3, some 5, false⟩, ⟨2, 1, 3, some 5, false⟩]
  organizers := [⟨1, none⟩]
  follows := []
  tiers := []
  tickets := []
  hasQuantity := false
  event_ids := by decide
  ticket_ids := by decide

/-- A page of two shows both events. -/
theorem both_events_shown :
    ∃ past ∈ listPastEvents twoEvents 9 none, past.walk (pageSize 2) 3 none = some past.rows :=
  (pages_complete_iff twoEvents 9 2 3 none 1 "" (by decide)).1.2.mpr (by decide)

/-- Pages of one show the first event and nothing else. -/
theorem second_event_lost :
    ∃ past ∈ listPastEvents twoEvents 9 none,
      (past.walk (pageSize 1) 3 none).map (·.map (·.id)) = some [2] ∧
        past.rows.map (·.id) = [2, 1] := by
  decide

end Agora.Server

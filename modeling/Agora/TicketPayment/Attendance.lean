/-
This file proves that a ticket earns one attendance token at most, whoever holds it and
however often it is scanned.

A token is minted by a check-in or on request, for the holder of that moment. The flag of
the ticket is global and the list is the holder's own, in shards, so that the uniqueness
over all lists rests on the flag alone.
-/

import Agora.TicketPayment.Reachable

namespace Agora.TicketPayment

open Soroban

variable {Registry : Type} [RegistryApi Registry] {host : Host}

/-! ### Tokens -/

/-- The flags and the lists agree, and no ticket is listed twice. -/
structure Attested (minted : Store PaymentId Unit) (poaps : ShardedList Address) : Prop where
  packed : ∀ attendee, poaps.Packed attendee
  nodup : ∀ attendee, (poaps.all attendee).Nodup
  owned : ∀ {paymentId first second}, paymentId ∈ poaps.all first →
    paymentId ∈ poaps.all second → first = second
  flagged : ∀ paymentId, (minted.get paymentId).isSome = true ↔
    ∃ attendee, paymentId ∈ poaps.all attendee

theorem attested_empty : Attested .empty .empty := by
  have none (attendee : Address) : (ShardedList.empty : ShardedList Address).all attendee = [] :=
    List.eq_nil_of_length_eq_zero (ShardedList.packed_empty attendee).length
  refine ⟨ShardedList.packed_empty, fun attendee => ?_, fun listed => ?_, fun paymentId => ?_⟩
  · rw [none]
    exact List.nodup_nil
  · rw [none] at listed
    cases listed
  · simp [none]

section Mint

variable {minted : Store PaymentId Unit} {poaps : ShardedList Address} {paymentId : PaymentId}

/-- After a mint the attendee has one token more. -/
theorem mem_all_append (packed : ∀ attendee, poaps.Packed attendee) (paymentId : PaymentId)
    (attendee other : Address) (listed : PaymentId) :
    listed ∈ (poaps.append attendee paymentId).all other ↔
      listed ∈ poaps.all other ∨ other = attendee ∧ listed = paymentId := by
  by_cases same : other = attendee
  · subst same
    simp [(packed other).all_append]
  · simp [ShardedList.all_append_other same, same]

theorem Attested.mint (attested : Attested minted poaps) {attendee : Address}
    (unminted : (minted.get paymentId).isSome = false) :
    Attested (minted.set paymentId ()) (poaps.append attendee paymentId) := by
  have members := mem_all_append attested.packed paymentId attendee
  have unlisted (other : Address) : paymentId ∉ poaps.all other := by
    intro listed
    rw [(attested.flagged paymentId).mpr ⟨other, listed⟩] at unminted
    cases unminted
  refine ⟨.append attested.packed, fun other => ?_, fun {listed first second} inFirst inSecond =>
    ?_, fun listed => ?_⟩
  · by_cases same : other = attendee
    · subst same
      rw [(attested.packed other).all_append]
      refine List.nodup_append.mpr ⟨attested.nodup other, List.nodup_singleton paymentId, ?_⟩
      rintro before member _ single rfl
      exact unlisted other (List.mem_singleton.mp single ▸ member)
    · rw [ShardedList.all_append_other same]
      exact attested.nodup other
  · rw [members] at inFirst inSecond
    obtain old | ⟨rfl, rfl⟩ := inFirst
    · obtain also | ⟨-, rfl⟩ := inSecond
      · exact attested.owned old also
      · exact absurd old (unlisted first)
    · obtain also | ⟨rfl, -⟩ := inSecond
      · exact absurd also (unlisted second)
      · rfl
  · rw [Store.get_set]
    by_cases same : listed = paymentId
    · subst same
      simp [members]
    · simp [members, same, attested.flagged]

end Mint

/-! ### Steps -/

variable {tickets : Tickets}

theorem attendance_foldl {Item : Type} {turn : Tickets → Item → Tickets}
    (keeps : ∀ tickets item, (turn tickets item).attendance = tickets.attendance)
    {items : List Item} :
    (items.foldl turn tickets).attendance = tickets.attendance := by
  induction items generalizing tickets with
  | nil => rfl
  | cons item rest inductionHypothesis => rw [List.foldl_cons, inductionHypothesis, keeps]

theorem attendance_storeRecords (items : List BatchItem) (tickets : Tickets) :
    (storeRecords items tickets).attendance = tickets.attendance :=
  attendance_foldl (fun tickets _ => Tickets.attendance_storePayment tickets _)

/-- The tokens of the tickets are attested. -/
def Tickets.Attested (tickets : Tickets) : Prop :=
  TicketPayment.Attested tickets.attendance.1 tickets.attendance.2

theorem Tickets.Attested.of_attendance {next : Tickets} (attested : tickets.Attested)
    (same : next.attendance = tickets.attendance) : next.Attested := by
  unfold Tickets.Attested
  rw [same]
  exact attested

variable {paymentId : PaymentId}

theorem Tickets.Attested.markPoapMinted (attested : tickets.Attested) {attendee : Address}
    (unminted : tickets.isPoapMinted paymentId = false) :
    (tickets.markPoapMinted paymentId attendee).Attested :=
  TicketPayment.Attested.mint attested unminted

theorem Tickets.Attested.checkIn (attested : tickets.Attested) {timestamp : Nat}
    {payment : Payment} :
    (checkInTickets timestamp paymentId payment tickets).Attested := by
  have written : (tickets.storePayment (payment.checkedIn timestamp)).Attested :=
    attested.of_attendance (Tickets.attendance_storePayment tickets _)
  rw [checkInTickets]
  split
  · exact written
  · rename_i unminted
    exact written.markPoapMinted (Bool.eq_false_of_not_eq_true unminted)

theorem step_attested {world : World Registry} (escrow : world.escrowState = .empty)
    (action : Action host Registry) (attested : world.tickets.Attested) :
    (step world action).tickets.Attested := by
  obtain ⟨change, effect, does⟩ := step_takes escrow action
  rw [does.tickets]
  cases effect with
  | nothing | registry | configured | inflow | withdrawal | claim | settlement | feeWithdrawal
  | listing | bid => exact attested
  | sale =>
    refine attested.of_attendance (attendance_foldl (fun tickets index => ?_))
    exact Tickets.attendance_storePayment tickets _
  | confirm =>
    refine attested.of_attendance ?_
    show (confirmTickets _ _ _ _).attendance = _
    unfold confirmTickets
    split
    · rfl
    · exact Tickets.attendance_reindexStatus _ _
  | refund | cancellationRefund =>
    exact attested.of_attendance (Tickets.attendance_reindexStatus _ _)
  | bulkRefund | partialRefund | cascade =>
    exact attested.of_attendance (attendance_storeRecords _ _)
  | checkIn env paymentId scanner rawSecret payment => exact attested.checkIn
  | poap env paymentId attendee unminted =>
    exact attested.markPoapMinted unminted
  | transfer | resale => exact attested.of_attendance rfl
  | closing => exact attested.of_attendance (Tickets.attendance_storePayment _ _)

theorem reached_attested (registry : Registry) (actions : List (Action host Registry)) :
    (reached registry actions).tickets.Attested :=
  reached_invariant (·.tickets.Attested)
    (fun _ action _ wellformed => step_attested wellformed.escrowState action)
    (respects_true _ actions) attested_empty

/-- In every reachable state the lists of all attendees together name no ticket twice, they name
those whose token is minted, and the counts are the lengths of the lists. -/
theorem one_poap_per_ticket (registry : Registry) (actions : List (Action host Registry)) :
    let tickets := (reached registry actions).tickets
    (∀ attendees : List Address, attendees.Nodup →
      (attendees.flatMap tickets.getPoapsByAttendee).Nodup) ∧
    (∀ paymentId, (∃ attendee, paymentId ∈ tickets.getPoapsByAttendee attendee) ↔
      tickets.isPoapMinted paymentId = true) ∧
    ∀ attendee, tickets.poaps.countOf attendee = (tickets.getPoapsByAttendee attendee).length := by
  have attested := reached_attested registry actions
  refine ⟨fun attendees distinct => ?_, fun paymentId => (attested.flagged paymentId).symm,
    fun attendee => (attested.packed attendee).length.symm⟩
  refine List.nodup_flatMap.mpr ⟨fun attendee _ => attested.nodup attendee, ?_⟩
  refine distinct.imp fun different paymentId inFirst inSecond => ?_
  exact different (attested.owned inFirst inSecond)

end Agora.TicketPayment

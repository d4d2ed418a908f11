/-
This file asks whether every dispute comes to an end, and who decides it.

The share of the buyers is computed in 32 bits, so that a dispute with too many votes for
them cannot be resolved, and the money of the event stays frozen. And while it takes a
ticket to open a dispute, it takes none to vote on it; what is called a quorum is compared
with the share of the buyers in the votes, and not with the tickets.
-/

import Agora.EventRegistry.DisputeVotes

namespace Agora.EventRegistry

open Soroban TicketPayment

variable {host : Host}

/-! ### Resolving a dispute -/

variable {eventId : EventId} {storage : DisputeStorage} {timestamp : Nat}

theorem resolveDispute_accepted_iff :
    accepted (Disputes.resolveDispute timestamp eventId) storage = true ↔
      ∃ dispute, storage.dispute.get eventId = some dispute ∧ dispute.closesAt < timestamp ∧
        (dispute.Resolved ∨ dispute.buyerVotes * 10000 < 2 ^ 32) := by
  simp only [accepted_eq_true_iff, Disputes.resolveDispute, Disputes.getDispute, succeeds_rules,
    checkedU32_eq_some, and_true, exists_and_left, exists_eq]
  refine exists_congr fun dispute => and_congr_right fun _ => and_congr_right fun _ => ?_
  by_cases resolved : dispute.Resolved
  · simp [resolved]
  · simp [resolved]

/-- The payment contract sees a dispute as long as it is live. -/
theorem isEventDisputed_world {court : Court} :
    isEventDisputed court.world eventId = true ↔
      ∃ dispute, court.storage.dispute.get eventId = some dispute ∧ dispute.Live := by
  have read : RegistryApi.getDispute court.world.registry eventId =
      (court.storage.dispute.get eventId).map (·.status) := Store.get_map _ _ _
  rw [isEventDisputed, read]
  cases stored : court.storage.dispute.get eventId with
  | none => simp
  | some dispute =>
    simp only [Option.map_some, Option.some.injEq, exists_eq_left', Dispute.Live]
    cases dispute.status <;> simp

variable {dispute : Dispute}

theorem Dispute.Resolved.not_live (resolved : dispute.Resolved) : ¬dispute.Live := by
  rintro (live | live)
  · rcases resolved with resolved | resolved <;> cases live.symm.trans resolved
  · rcases resolved with resolved | resolved <;> cases live.symm.trans resolved

variable {court : Court}

theorem isEventDisputed_of_resolved (stored : court.storage.dispute.get eventId = some dispute)
    (resolved : dispute.Resolved) : isEventDisputed court.world eventId = false := by
  refine Bool.eq_false_iff.mpr fun disputed => ?_
  obtain ⟨found, foundStored, live⟩ := isEventDisputed_world.mp disputed
  cases foundStored.symm.trans stored
  exact resolved.not_live live

/-- A dispute that was resolved stays so, and another gets its verdict. -/
theorem resolveDispute_resolved :
    Ensures (Disputes.resolveDispute timestamp eventId) storage fun _ next =>
      ∃ dispute, next.dispute.get eventId = some dispute ∧ dispute.Resolved := by
  refine resolveDispute_ensures.mono ?_
  rintro _ _ ⟨dispute, stored, _, ⟨resolved, rfl⟩ | ⟨_, rfl⟩⟩
  · exact ⟨dispute, stored, resolved⟩
  · rw [DisputeStorage.dispute_storeDispute, storage.keyed eventId dispute stored,
      Store.get_set_self]
    exact ⟨_, rfl, dispute.verdict_cases _⟩

/-- In every state of every run, a dispute whose vote is over can be resolved, and the money of
the event released, exactly when it is resolved already or the share of the buyers fits into 32
bits. -/
theorem dispute_resolvable_iff (actions : List (CourtAction host)) (eventId : EventId)
    (dispute : Dispute)
    (stored : (runActions courtStep .fresh actions).storage.dispute.get eventId = some dispute)
    (invocation : Invocation) (closed : dispute.closesAt < invocation.timestamp) :
    let court := runActions courtStep .fresh actions
    let next := courtStep court (.dispute invocation (.resolveDispute eventId) : CourtAction host)
    accepted (Disputes.resolveDispute invocation.timestamp eventId) court.storage = true ∧
        isEventDisputed next.world eventId = false ↔
      dispute.Resolved ∨ dispute.buyerVotes * 10000 < 2 ^ 32 := by
  intro court next
  have resolvable : accepted (Disputes.resolveDispute invocation.timestamp eventId)
      court.storage = true ↔ dispute.Resolved ∨ dispute.buyerVotes * 10000 < 2 ^ 32 := by
    rw [resolveDispute_accepted_iff]
    constructor
    · rintro ⟨found, foundStored, _, either⟩
      cases foundStored.symm.trans stored
      exact either
    · exact fun either => ⟨dispute, stored, closed, either⟩
  refine Iff.trans (and_iff_left_of_imp fun done => ?_) resolvable
  obtain ⟨resolved, after, isResolved⟩ := commit_of_accepted done resolveDispute_resolved
  exact isEventDisputed_of_resolved after isResolved

/-- A dispute with two votes is resolved, and the money of the concert is released. -/
theorem small_dispute_resolvable :
    let court := runActions courtStep .fresh twoVotes
    let next := courtStep court
      (.dispute (signedAt 172812) (.resolveDispute "concert") : CourtAction stage)
    accepted (Disputes.resolveDispute 172812 "concert") court.storage = true ∧
      isEventDisputed next.world "concert" = false :=
  (dispute_resolvable_iff twoVotes "concert"
    ⟨"concert", aliceAddress, 11, 172811, .voting, 2, 1, 1, 3000, 0⟩ (by decide +kernel)
    (signedAt 172812) (by decide)).mpr (.inr (by decide))

/-! ### A dispute with too many votes -/

variable {voter : Address}

/-- A vote that passes every check is written. -/
theorem voteOnDispute_commit (signed : Address → Bool) (timestamp : Nat) (vote : DisputeVote)
    (isSigned : signed voter = true) (stored : storage.dispute.get eventId = some dispute)
    (live : dispute.Live) (inTime : timestamp ≤ dispute.closesAt)
    (fresh : storage.hasVoted eventId voter = false) (total : dispute.totalVotes + 1 < 2 ^ 32)
    (side : dispute.votesFor vote + 1 < 2 ^ 32)
    (count : storage.getDisputeVoteCount eventId + 1 < 2 ^ 32) :
    commit (Disputes.voteOnDispute signed timestamp eventId voter vote) storage =
      ((storage.storeDisputeVote eventId voter vote).addDisputeVote eventId voter).storeDispute
        (dispute.withVote vote) := by
  have succeeds : Succeeds (Disputes.voteOnDispute signed timestamp eventId voter vote) storage
      fun _ next => next = ((storage.storeDisputeVote eventId voter vote).addDisputeVote eventId
        voter).storeDispute (dispute.withVote vote) := by
    simp only [Disputes.voteOnDispute, Disputes.getDispute, succeeds_rules, checkedU32_eq_some]
    exact ⟨isSigned, dispute, stored, live, inTime, fresh, _, ⟨total, rfl⟩, _, ⟨side, rfl⟩, count,
      rfl⟩
  obtain ⟨_, next, run, written⟩ := succeeds
  rw [commit, run]
  exact written

/-- One member of a crowd as large as one likes. -/
def crowdMember (index : Nat) : Address :=
  ⟨String.ofList (List.replicate index 'v')⟩

theorem crowdMember_injective {first second : Nat}
    (same : crowdMember first = crowdMember second) : first = second := by
  have lists := String.ofList_injective (Address.mk.inj same)
  simpa using congrArg List.length lists

/-- So many members of the crowd vote for the buyers. -/
def crowdVotes (size : Nat) : List (CourtAction stage) :=
  disputedConcert ["ticket"] ++ (List.range size).map fun index =>
    .dispute (signedAt 12) (.voteOnDispute "concert" (crowdMember index) .buyerFavor)

/-- The dispute after so many of these votes. -/
def crowdDispute (size : Nat) : Dispute :=
  ⟨"concert", aliceAddress, 11, 172811, if size = 0 then .opened else .voting, size, size, 0,
    3000, 0⟩

theorem crowdDispute_succ (size : Nat) :
    (crowdDispute size).withVote .buyerFavor = crowdDispute (size + 1) := by
  cases size <;> rfl

theorem crowdVotes_succ (size : Nat) :
    crowdVotes (size + 1) = crowdVotes size ++
      [.dispute (signedAt 12) (.voteOnDispute "concert" (crowdMember size) .buyerFavor)] := by
  simp [crowdVotes, List.range_succ]

/-- The next vote of the crowd is accepted. -/
theorem crowd_vote_written {size : Nat} (small : size + 1 < 2 ^ 32)
    (stored : (runActions courtStep .fresh (crowdVotes size)).storage.dispute.get "concert" =
      some (crowdDispute size))
    (fresh : (runActions courtStep .fresh (crowdVotes size)).storage.hasVoted "concert"
      (crowdMember size) = false) :
    (runActions courtStep .fresh (crowdVotes (size + 1))).storage =
      (((runActions courtStep .fresh (crowdVotes size)).storage.storeDisputeVote "concert"
        (crowdMember size) .buyerFavor).addDisputeVote "concert" (crowdMember size)).storeDispute
          (crowdDispute (size + 1)) := by
  have count : (runActions courtStep .fresh (crowdVotes size)).storage.getDisputeVoteCount
      "concert" = size :=
    ((court_orderly (crowdVotes size)).counters stored).1.symm
  have written := voteOnDispute_commit (signedAt 12).signed 12 .buyerFavor rfl stored
    (by cases size <;> simp [crowdDispute, Dispute.Live]) (by show 12 ≤ 172811; decide)
    fresh small small (by rw [count]; exact small)
  rw [← crowdDispute_succ, ← written, crowdVotes_succ, runActions_append]
  rfl

/-- Every vote of the crowd is counted. -/
theorem crowd_counted (size : Nat) (small : size < 2 ^ 32) :
    let court := runActions courtStep .fresh (crowdVotes size)
    court.storage.dispute.get "concert" = some (crowdDispute size) ∧
      ∀ index, size ≤ index → court.storage.hasVoted "concert" (crowdMember index) = false := by
  induction size with
  | zero =>
    have stored : (runActions courtStep .fresh (crowdVotes 0)).storage.dispute.get "concert" =
        some (crowdDispute 0) := by
      decide +kernel
    exact ⟨stored, fun index _ => (court_orderly (crowdVotes 0)).unvoted stored rfl _⟩
  | succ size inductionHypothesis =>
    obtain ⟨stored, fresh⟩ := inductionHypothesis (Nat.lt_of_succ_lt small)
    intro court
    have written : court.storage = _ := crowd_vote_written small stored (fresh size le_rfl)
    rw [written]
    refine ⟨?_, fun index above => ?_⟩
    · rw [DisputeStorage.dispute_storeDispute]
      exact Store.get_set_self _ _ _
    · have different : ("concert", crowdMember index) ≠ ("concert", crowdMember size) := by
        intro same
        have equal := crowdMember_injective (Prod.mk.inj same).2
        omega
      refine Eq.trans ?_ (fresh index (Nat.le_of_succ_le above))
      exact congrArg Option.isSome (if_neg different)

/-- With too many votes for the buyers, the dispute cannot be resolved at any time. -/
theorem crowd_unresolvable {size : Nat} (small : size < 2 ^ 32) (large : 2 ^ 32 ≤ size * 10000)
    (stored : storage.dispute.get "concert" = some (crowdDispute size)) (timestamp : Nat) :
    accepted (Disputes.resolveDispute timestamp "concert") storage = false := by
  refine Bool.eq_false_iff.mpr fun done => ?_
  obtain ⟨dispute, found, _, resolved | share⟩ := resolveDispute_accepted_iff.mp done
  · cases found.symm.trans stored
    have positive : size ≠ 0 := by omega
    simp [Dispute.Resolved, crowdDispute, positive] at resolved
  · cases found.symm.trans stored
    exact absurd share (Nat.not_lt.mpr large)

/-- After 429497 votes for the buyers nobody can resolve the dispute, and the money of the event
stays frozen. -/
theorem crowded_dispute_unresolvable :
    let court := runActions courtStep .fresh (crowdVotes 429497)
    (∃ dispute, court.storage.dispute.get "concert" = some dispute ∧
        dispute.totalVotes = 429497) ∧
      (∀ timestamp, accepted (Disputes.resolveDispute timestamp "concert") court.storage =
        false) ∧
      isEventDisputed court.world "concert" = true := by
  have small : 429497 < 2 ^ 32 := by norm_num
  obtain ⟨stored, _⟩ := crowd_counted 429497 small
  refine ⟨⟨_, stored, ?_⟩, crowd_unresolvable small (by norm_num) stored, ?_⟩
  · rw [crowdDispute]
  · refine isEventDisputed_world.mpr ⟨_, stored, .inr ?_⟩
    rw [crowdDispute, if_neg (by norm_num)]

/-! ### Who decides -/

/-- The tickets of the event whose holders may vote. -/
def Court.eligibleTickets (court : Court) (eventId : EventId) : Nat :=
  (court.world.tickets.getEventPayments eventId).countP fun paymentId =>
    (court.world.tickets.getPayment paymentId).any fun payment =>
      decide (payment.status = .confirmed)

/-- The votes cast come up to the quorum of the tickets. -/
def Court.ReachesQuorum (court : Court) (eventId : EventId) (dispute : Dispute) : Prop :=
  dispute.quorumThresholdBps * court.eligibleTickets eventId ≤ dispute.totalVotes * 10000

instance (court : Court) (eventId : EventId) (dispute : Dispute) :
    Decidable (court.ReachesQuorum eventId dispute) :=
  inferInstanceAs (Decidable (_ ≤ _))

/-- The condition on a step: who votes holds a ticket, and a dispute that the buyers are winning
is resolved only with a quorum of the tickets. -/
def HoldersVote (court : Court) : CourtAction host → Prop
  | .dispute _ (.voteOnDispute eventId voter _) =>
    court.world.tickets.hasConfirmedTicket eventId voter = true
  | .dispute _ (.resolveDispute eventId) =>
    ∀ dispute ∈ court.storage.dispute.get eventId, dispute.Live →
      dispute.organizerVotes < dispute.buyerVotes → court.ReachesQuorum eventId dispute
  | _ => True

instance (court : Court) (action : CourtAction host) : Decidable (HoldersVote court action) :=
  match action with
  | .dispute _ (.voteOnDispute eventId voter _) =>
    inferInstanceAs (Decidable (court.world.tickets.hasConfirmedTicket eventId voter = true))
  | .dispute _ (.resolveDispute eventId) =>
    inferInstanceAs (Decidable (∀ dispute ∈ court.storage.dispute.get eventId, dispute.Live →
      dispute.organizerVotes < dispute.buyerVotes → court.ReachesQuorum eventId dispute))
  | .dispute _ (.openDispute _ _) => inferInstanceAs (Decidable True)
  | .joint _ => inferInstanceAs (Decidable True)

/-- The step resolves the dispute in favour of the buyers. -/
def ResolvesForBuyers (court : Court) (action : CourtAction host) (eventId : EventId)
    (dispute : Dispute) : Prop :=
  court.storage.dispute.get eventId = some dispute ∧ dispute.status ≠ .resolvedBuyer ∧
    ∃ after, (courtStep court action).storage.dispute.get eventId = some after ∧
      after.status = .resolvedBuyer

theorem Dispute.organizerVotes_lt {buyerBps : Nat}
    (verdict : dispute.verdict buyerBps = .resolvedBuyer) :
    dispute.organizerVotes < dispute.buyerVotes := by
  unfold Dispute.verdict at verdict
  split at verdict
  · rename_i ahead
    exact ahead.2
  · cases verdict

/-- Only the call that resolves a dispute decides for the buyers, and only when they are ahead. -/
theorem DisputeTurn.decides_for_buyers {world : World Registry} {invocation : Invocation}
    {next : DisputeStorage} {call : DisputeCall} {after : Dispute}
    (turn : DisputeTurn world invocation storage call next)
    (stored : storage.dispute.get eventId = some dispute)
    (undecided : dispute.status ≠ .resolvedBuyer)
    (nextStored : next.dispute.get eventId = some after) (decided : after.status = .resolvedBuyer) :
    call = .resolveDispute eventId ∧ ¬dispute.Resolved ∧
      dispute.organizerVotes < dispute.buyerVotes := by
  -- a dispute that the call has not written has its old status
  have rewritten : next.dispute.get eventId ≠ storage.dispute.get eventId := by
    intro same
    rw [same, stored] at nextStored
    cases nextStored
    exact undecided decided
  cases turn with
  | kept call => exact absurd rfl rewritten
  | opened opened openedBy absent holder =>
    rw [DisputeStorage.dispute_storeDispute, Store.get_set] at nextStored rewritten
    split at nextStored
    · cases nextStored
      cases decided
    · rename_i other
      exact absurd (if_neg other) rewritten
  | voted voted voter vote found foundStored live inTime fresh =>
    rw [DisputeStorage.dispute_storeDispute, Store.get_set] at nextStored rewritten
    split at nextStored
    · cases nextStored
      cases (live.withVote_status vote).symm.trans decided
    · rename_i other
      exact absurd (if_neg other) rewritten
  | resolved resolved found foundStored closed unresolved =>
    have key := storage.keyed resolved found foundStored
    rw [DisputeStorage.dispute_storeDispute, Store.get_set, key] at nextStored rewritten
    split at nextStored
    · rename_i same
      subst same
      cases foundStored.symm.trans stored
      cases nextStored
      exact ⟨rfl, unresolved, Dispute.organizerVotes_lt decided⟩
    · rename_i other
      exact absurd (if_neg other) rewritten

theorem CastsVote.holder {action : CourtAction host} (casts : CastsVote eventId voter court action)
    (holds : HoldersVote court action) :
    court.world.tickets.hasConfirmedTicket eventId voter = true := by
  cases action with
  | joint action => exact casts.elim
  | dispute invocation call =>
    cases call with
    | openDispute event openedBy => exact casts.elim
    | resolveDispute event => exact casts.elim
    | voteOnDispute event address vote =>
      obtain ⟨rfl, rfl, _⟩ := casts
      exact holds

/-- In every run in which only holders of tickets vote, and a dispute that the buyers are winning
is resolved only with a quorum, every vote that is counted was cast by somebody who held a
confirmed ticket at the time, and every decision for the buyers had its quorum. -/
theorem holders_decide (actions : List (CourtAction host))
    (holdersVote : Respects courtStep HoldersVote .fresh actions) :
    (∀ eventId voter,
        (runActions courtStep .fresh actions).storage.hasVoted eventId voter = true →
          ∃ court action, StepOf courtStep .fresh actions court action ∧
            CastsVote eventId voter court action ∧
            court.world.tickets.hasConfirmedTicket eventId voter = true) ∧
      ∀ court action, StepOf courtStep .fresh actions court action →
        ∀ eventId dispute, ResolvesForBuyers court action eventId dispute →
          court.ReachesQuorum eventId dispute := by
  constructor
  · intro eventId voter voted
    obtain ⟨court, action, taken, casts⟩ := (hasVoted_iff_hasVotedIn actions).mp voted
    exact ⟨court, action, taken, casts, casts.holder (holdersVote.stepOf taken)⟩
  · rintro court action taken eventId dispute ⟨stored, undecided, after, nextStored, decided⟩
    obtain same | ⟨invocation, call, rfl, turn⟩ := courtStep_turn court action
    · rw [same, stored] at nextStored
      cases nextStored
      exact absurd decided undecided
    · obtain ⟨rfl, unresolved, ahead⟩ :=
        turn.decides_for_buyers stored undecided nextStored decided
      have condition := holdersVote.stepOf taken
      obtain ⟨earlier, later, _, rfl⟩ := taken
      have standing := (court_orderly earlier).standing eventId dispute stored
      exact condition dispute stored (standing.resolve_right unresolved) ahead

/-- Alice votes with the only ticket, and the dispute is resolved. -/
def aliceDecides : List (CourtAction stage) :=
  disputedConcert ["ticket"] ++
    [.dispute (signedAt 12) (.voteOnDispute "concert" aliceAddress .buyerFavor),
      .dispute (signedAt 172812) (.resolveDispute "concert")]

theorem alice_decides_as_holder :
    ((runActions courtStep .fresh aliceDecides).storage.dispute.get "concert").map (·.status) =
        some .resolvedBuyer ∧
      ∃ court action, StepOf courtStep .fresh aliceDecides court action ∧
        CastsVote "concert" aliceAddress court action ∧
        court.world.tickets.hasConfirmedTicket "concert" aliceAddress = true :=
  ⟨by decide +kernel, (holders_decide aliceDecides (by decide +kernel)).1 "concert" aliceAddress
    (by decide +kernel)⟩

/-- Alice has four tickets. Bob has none, and their vote alone decides the dispute for the
buyers, far below three tenths of the tickets. -/
theorem outsider_decides_without_quorum :
    let before := runActions courtStep .fresh (disputedConcert ["one", "two", "three", "four"])
    let vote : CourtAction stage :=
      .dispute (signedAt 12) (.voteOnDispute "concert" bobAddress .buyerFavor)
    let resolve : CourtAction stage := .dispute (signedAt 172812) (.resolveDispute "concert")
    let voted := courtStep before vote
    before.world.tickets.hasConfirmedTicket "concert" bobAddress = false ∧
      voted.storage.hasVoted "concert" bobAddress = true ∧
      voted.eligibleTickets "concert" = 4 ∧
      ((courtStep voted resolve).storage.dispute.get "concert").map
          (fun dispute => (dispute.status, dispute.totalVotes, dispute.quorumThresholdBps)) =
        some (.resolvedBuyer, 1, 3000) ∧
      1 * 10000 < 3000 * voted.eligibleTickets "concert" := by
  decide +kernel

end Agora.EventRegistry

/-
This file follows the votes on a dispute through every run, and the status of the dispute.

What is stored about the votes on one event is taken together as its ballots. A step either
leaves the ballots of an event alone or casts one vote, by somebody who had not voted. From
this it follows that the counters, the stored votes and the list of the voters agree, and
that they count the addresses that voted.
-/

import Agora.EventRegistry.Dispute

namespace Agora.EventRegistry

open Soroban TicketPayment

/-! ### Ballots -/

/-- What is stored about the votes on one event. -/
@[ext]
structure Ballots where
  count : Nat
  shard : Nat → List Address
  vote : Address → Option DisputeVote
  total : Nat
  side : DisputeVote → Nat

namespace Ballots

variable {ballots : Ballots} {voter : Address}

def none : Ballots := ⟨0, fun _ => [], fun _ => Option.none, 0, fun _ => 0⟩

/-- One vote is written to every place. -/
def cast (ballots : Ballots) (voter : Address) (vote : DisputeVote) : Ballots where
  count := ballots.count + 1
  shard := pushShard DisputeStorage.disputeShardSize ballots.count ballots.shard voter
  vote := fun other => if other = voter then some vote else ballots.vote other
  total := ballots.total + 1
  side := fun other => ballots.side other + if other = vote then 1 else 0

def voters (ballots : Ballots) : List Address :=
  inShards DisputeStorage.disputeShardSize ballots.count ballots.shard

def votes (ballots : Ballots) : List DisputeVote :=
  ballots.voters.filterMap ballots.vote

/-- The list holds those whose vote is stored, each once, and the counters count them. -/
structure Tallied (ballots : Ballots) : Prop where
  beyond : EmptyBeyond DisputeStorage.disputeShardSize ballots.count ballots.shard
  nodup : ballots.voters.Nodup
  voted : ∀ voter, voter ∈ ballots.voters ↔ (ballots.vote voter).isSome = true
  length : ballots.voters.length = ballots.count
  total : ballots.total = ballots.count
  side : ∀ vote, ballots.side vote = ballots.votes.count vote

theorem tallied_none : none.Tallied where
  beyond _ _ := rfl
  nodup := List.nodup_nil
  voted _ := iff_of_false List.not_mem_nil Bool.false_ne_true
  length := rfl
  total := rfl
  side _ := rfl

section

variable (tallied : ballots.Tallied)

include tallied

theorem Tallied.notMem_voters (fresh : ballots.vote voter = .none) : voter ∉ ballots.voters := by
  rw [tallied.voted, fresh]
  exact Bool.false_ne_true

theorem Tallied.voters_cast (vote : DisputeVote) :
    (ballots.cast voter vote).voters = ballots.voters ++ [voter] :=
  tallied.beyond.inShards_push (by decide) voter

theorem Tallied.votes_cast (fresh : ballots.vote voter = .none) (vote : DisputeVote) :
    (ballots.cast voter vote).votes = ballots.votes ++ [vote] := by
  have earlier : ballots.voters.filterMap (ballots.cast voter vote).vote = ballots.votes := by
    refine List.filterMap_congr fun other listed => ?_
    refine if_neg fun same => tallied.notMem_voters fresh ?_
    rwa [same] at listed
  have last : (ballots.cast voter vote).vote voter = some vote := if_pos rfl
  rw [votes, tallied.voters_cast, List.filterMap_append, earlier, List.filterMap_cons_some last,
    List.filterMap_nil]

theorem Tallied.cast (fresh : ballots.vote voter = .none) (vote : DisputeVote) :
    (ballots.cast voter vote).Tallied where
  beyond := tallied.beyond.push
  nodup := by
    rw [tallied.voters_cast]
    exact List.nodup_append.mpr ⟨tallied.nodup, List.nodup_singleton voter, by
      rintro listed present _ last rfl
      exact tallied.notMem_voters fresh (List.mem_singleton.mp last ▸ present)⟩
  voted other := by
    rw [tallied.voters_cast, List.mem_append, List.mem_singleton, tallied.voted]
    show _ ↔ (if other = voter then some vote else ballots.vote other).isSome = true
    by_cases same : other = voter
    · simp [same]
    · simp [same]
  length := by
    rw [tallied.voters_cast, List.length_append, tallied.length]
    rfl
  total := congrArg (· + 1) tallied.total
  side other := by
    rw [tallied.votes_cast fresh, List.count_append, ← tallied.side, List.count_singleton]
    show ballots.side other + (if other = vote then 1 else 0) = _
    by_cases same : other = vote
    · simp [same]
    · simp [same, Ne.symm same]

/-- Every listed voter has a vote. -/
theorem Tallied.length_votes : ballots.votes.length = ballots.voters.length :=
  List.filterMap_length_eq_length.mpr fun voter listed => (tallied.voted voter).mp listed

end

/-- A vote is for the one side or for the other. -/
theorem count_sides (votes : List DisputeVote) :
    votes.count .buyerFavor + votes.count .organizerFavor = votes.length := by
  induction votes with
  | nil => rfl
  | cons vote rest inductionHypothesis =>
    cases vote <;> simp <;> omega

end Ballots

/-! ### Steps -/

namespace DisputeStorage

/-- A counter of the dispute, and zero while there is none. -/
def counter (storage : DisputeStorage) (eventId : EventId) (field : Dispute → Nat) : Nat :=
  ((storage.dispute.get eventId).map field).getD 0

def ballots (storage : DisputeStorage) (eventId : EventId) : Ballots where
  count := storage.getDisputeVoteCount eventId
  shard := storage.voteShard eventId
  vote voter := storage.disputeVote.get (eventId, voter)
  total := storage.counter eventId (·.totalVotes)
  side vote := storage.counter eventId (·.votesFor vote)

variable {storage : DisputeStorage} {eventId : EventId}

variable {dispute : Dispute}

theorem counter_of_stored (stored : storage.dispute.get eventId = some dispute)
    (field : Dispute → Nat) : storage.counter eventId field = field dispute := by
  rw [counter, stored]
  rfl

/-- Where nobody has voted the list is empty, and it makes no difference that it is not read. -/
theorem getDisputeVotes_eq {storage : DisputeStorage} :
    storage.getDisputeVotes eventId = (storage.ballots eventId).votes := by
  unfold getDisputeVotes
  split
  · rename_i nobody
    have empty : (storage.ballots eventId).voters = [] := by
      show inShards disputeShardSize (storage.getDisputeVoteCount eventId) _ = []
      rw [nobody]
      rfl
    rw [Ballots.votes, empty]
    rfl
  · rfl

/-- A dispute that is stored with the same counters leaves all ballots alone. -/
theorem ballots_storeDispute
    (total : dispute.totalVotes = storage.counter dispute.eventId (·.totalVotes))
    (sides : ∀ vote, dispute.votesFor vote = storage.counter dispute.eventId (·.votesFor vote)) :
    (storage.storeDispute dispute).ballots eventId = storage.ballots eventId := by
  have counters (field : Dispute → Nat)
      (same : field dispute = storage.counter dispute.eventId field) :
      (storage.storeDispute dispute).counter eventId field = storage.counter eventId field := by
    rw [counter, dispute_storeDispute, Store.get_set]
    split
    · rename_i named
      rw [named, ← same]
      rfl
    · rfl
  exact Ballots.ext rfl rfl rfl (counters _ total) (funext fun vote => counters _ (sides vote))

variable {voter : Address} {vote : DisputeVote}

theorem ballots_vote_other {other : EventId} (key : dispute.eventId = eventId)
    (different : other ≠ eventId) :
    (((storage.storeDisputeVote eventId voter vote).addDisputeVote eventId voter).storeDispute
      dispute).ballots other = storage.ballots other := by
  have apart {Key : Type} (key : Key) (other' : Key) : (other, other') ≠ (eventId, key) :=
    fun same => different (Prod.mk.inj same).1
  have counters (field : Dispute → Nat) :
      (((storage.storeDisputeVote eventId voter vote).addDisputeVote eventId voter).storeDispute
        dispute).counter other field = storage.counter other field := by
    rw [counter, dispute_storeDispute, Store.get_set, key, if_neg different]
    rfl
  refine Ballots.ext ?_ ?_ ?_ (counters _) (funext fun vote => counters _)
  · show ((storage.disputeVoteCount.set eventId _).get other).getD 0 = _
    rw [Store.get_set, if_neg different]
    rfl
  · funext shardId
    show ((storage.disputeVoteShard.set (eventId, _) _).get (other, shardId)).getD [] = _
    rw [Store.get_set, if_neg (apart _ _)]
    rfl
  · funext address
    show (storage.disputeVote.set (eventId, voter) vote).get (other, address) = _
    rw [Store.get_set, if_neg (apart _ _)]
    rfl

theorem ballots_vote_self (stored : storage.dispute.get eventId = some dispute) :
    (((storage.storeDisputeVote eventId voter vote).addDisputeVote eventId voter).storeDispute
      (dispute.withVote vote)).ballots eventId = (storage.ballots eventId).cast voter vote := by
  have key : (dispute.withVote vote).eventId = eventId := by
    rw [← storage.keyed eventId dispute stored]
    cases vote <;> rfl
  have after : (((storage.storeDisputeVote eventId voter vote).addDisputeVote eventId
      voter).storeDispute (dispute.withVote vote)).dispute.get eventId =
        some (dispute.withVote vote) := by
    rw [dispute_storeDispute, key, Store.get_set_self]
  refine Ballots.ext ?_ ?_ ?_ ?_ ?_
  · show ((storage.disputeVoteCount.set eventId _).get eventId).getD 0 = _
    rw [Store.get_set_self]
    rfl
  · funext shardId
    show ((storage.disputeVoteShard.set (eventId, _) _).get (eventId, shardId)).getD [] = _
    simp only [Store.get_set, Prod.mk.injEq, true_and]
    exact apply_ite (Option.getD · []) _ _ _
  · funext address
    show (storage.disputeVote.set (eventId, voter) vote).get (eventId, address) = _
    rw [Store.get_set]
    simp only [Prod.mk.injEq, true_and]
    rfl
  · show counter _ _ _ = counter _ _ _ + 1
    rw [counter_of_stored after, counter_of_stored stored]
    cases vote <;> rfl
  · funext side
    show counter _ _ _ = counter _ _ _ + _
    rw [counter_of_stored after, counter_of_stored stored]
    cases vote <;> cases side <;> rfl

end DisputeStorage

variable {world : World Registry} {invocation : Invocation} {storage next : DisputeStorage}
  {call : DisputeCall}

/-- A call leaves the ballots of an event alone, or casts one vote. -/
theorem DisputeTurn.ballots (turn : DisputeTurn world invocation storage call next)
    {eventId : EventId} :
    next.ballots eventId = storage.ballots eventId ∨
      ∃ voter vote, call = .voteOnDispute eventId voter vote ∧
        storage.disputeVote.get (eventId, voter) = none ∧
        next.ballots eventId = (storage.ballots eventId).cast voter vote := by
  cases turn with
  | kept call => exact .inl rfl
  | opened opened openedBy absent holder =>
    have zero (field : Dispute → Nat) : storage.counter opened field = 0 := by
      rw [DisputeStorage.counter, absent]
      rfl
    refine .inl (DisputeStorage.ballots_storeDispute (zero _).symm (fun vote => ?_))
    refine Eq.trans ?_ (zero _).symm
    cases vote <;> rfl
  | voted voted voter vote dispute stored live inTime fresh =>
    by_cases same : eventId = voted
    · subst same
      exact .inr ⟨voter, vote, rfl, fresh, DisputeStorage.ballots_vote_self stored⟩
    · refine .inl (DisputeStorage.ballots_vote_other ?_ same)
      rw [← storage.keyed voted dispute stored]
      cases vote <;> rfl
  | resolved resolved dispute stored closed unresolved =>
    have key := storage.keyed resolved dispute stored
    refine .inl (DisputeStorage.ballots_storeDispute ?_ (fun vote => ?_))
    · rw [key, DisputeStorage.counter_of_stored stored]
    · rw [key, DisputeStorage.counter_of_stored stored]
      cases vote <;> rfl

/-! ### The status -/

/-- From open to voting, and from both to a verdict. -/
def StatusMoves (before after : DisputeStatus) : Prop :=
  after = before ∨ before = .opened ∧ after = .voting ∨
    (before = .opened ∨ before = .voting) ∧ (after = .resolvedBuyer ∨ after = .resolvedOrganizer)

theorem Dispute.withVote_closesAt (dispute : Dispute) (vote : DisputeVote) :
    (dispute.withVote vote).closesAt = dispute.closesAt := by
  cases vote <;> rfl

/-- A vote is the end of the open status. -/
theorem Dispute.Live.withVote_status {dispute : Dispute} (live : dispute.Live)
    (vote : DisputeVote) : (dispute.withVote vote).status = .voting := by
  have voting : (if dispute.status = .opened then .voting else dispute.status) =
      DisputeStatus.voting := by
    rcases live with opened | voting
    · rw [if_pos opened]
    · rw [voting]
      rfl
  cases vote <;> exact voting

theorem Dispute.verdict_cases (dispute : Dispute) (buyerBps : Nat) :
    dispute.verdict buyerBps = .resolvedBuyer ∨
      dispute.verdict buyerBps = .resolvedOrganizer := by
  unfold Dispute.verdict
  split
  · exact .inl rfl
  · exact .inr rfl

/-- A stored dispute is as it was before the call, or new and open, or its status moves. -/
theorem DisputeTurn.dispute (turn : DisputeTurn world invocation storage call next)
    {eventId : EventId} :
    next.dispute.get eventId = storage.dispute.get eventId ∨
      (storage.dispute.get eventId = none ∧ ∃ dispute, next.dispute.get eventId = some dispute ∧
        dispute.status = .opened) ∨
      ∃ dispute after, storage.dispute.get eventId = some dispute ∧
        next.dispute.get eventId = some after ∧ after.closesAt = dispute.closesAt ∧
        (dispute.Live ∧ after.status = .voting ∨ ¬dispute.Resolved ∧ after.Resolved) := by
  cases turn with
  | kept call => exact .inl rfl
  | opened opened openedBy absent holder =>
    rw [DisputeStorage.dispute_storeDispute, Store.get_set]
    split
    · rename_i same
      exact .inr (.inl ⟨same.symm ▸ absent, _, rfl, rfl⟩)
    · exact .inl rfl
  | voted voted voter vote dispute stored live inTime fresh =>
    have key : (dispute.withVote vote).eventId = voted := by
      rw [← storage.keyed voted dispute stored]
      cases vote <;> rfl
    rw [DisputeStorage.dispute_storeDispute, Store.get_set, key]
    split
    · rename_i same
      subst same
      exact .inr (.inr ⟨dispute, _, stored, rfl, dispute.withVote_closesAt vote,
        .inl ⟨live, live.withVote_status vote⟩⟩)
    · exact .inl rfl
  | resolved resolved dispute stored closed unresolved =>
    have key := storage.keyed resolved dispute stored
    rw [DisputeStorage.dispute_storeDispute, Store.get_set, key]
    split
    · rename_i same
      subst same
      exact .inr (.inr ⟨dispute, _, stored, rfl, rfl,
        .inr ⟨unresolved, dispute.verdict_cases _⟩⟩)
    · exact .inl rfl

/-! ### Runs -/

variable {host : Host}

/-- Nothing but a call about a dispute changes what is stored about one. -/
theorem courtStep_turn (court : Court) (action : CourtAction host) :
    (courtStep court action).storage = court.storage ∨
      ∃ invocation call, action = .dispute invocation call ∧
        DisputeTurn court.world invocation court.storage call (courtStep court action).storage := by
  cases action with
  | dispute invocation call => exact .inr ⟨invocation, call, rfl, disputeStep_turn _ _ _ _⟩
  | joint action => exact .inl rfl

/-- What holds of every court: the ballots are tallied, and no dispute has expired. -/
structure Court.Orderly (court : Court) : Prop where
  tallied : ∀ eventId, (court.storage.ballots eventId).Tallied
  standing : ∀ eventId, ∀ dispute ∈ court.storage.dispute.get eventId,
    dispute.Live ∨ dispute.Resolved

theorem Court.Orderly.step {court : Court} (orderly : court.Orderly) (action : CourtAction host) :
    (courtStep court action).Orderly := by
  obtain same | ⟨invocation, call, rfl, turn⟩ := courtStep_turn court action
  · exact ⟨fun eventId => same.symm ▸ orderly.tallied eventId,
      fun eventId => same.symm ▸ orderly.standing eventId⟩
  · constructor
    · intro eventId
      obtain same | ⟨voter, vote, _, fresh, cast⟩ := turn.ballots
      · exact same.symm ▸ orderly.tallied eventId
      · exact cast.symm ▸ (orderly.tallied eventId).cast fresh vote
    · intro eventId after stored
      obtain same | ⟨_, dispute, new, status⟩ | ⟨dispute, next, _, new, _, moved⟩ := turn.dispute
      · exact orderly.standing eventId after (same ▸ stored)
      · rw [Option.mem_def, new] at stored
        cases stored
        exact .inl (.inl status)
      · rw [Option.mem_def, new] at stored
        cases stored
        exact moved.imp (fun voting => .inr voting.2) (·.2)

variable (actions : List (CourtAction host))

theorem court_orderly : (runActions courtStep .fresh actions).Orderly := by
  refine run_invariant _ (fun _ action orderly => orderly.step action) _ actions ⟨?_, ?_⟩
  · exact fun _ => Ballots.tallied_none
  · intro _ _ stored
    cases stored

/-! ### One dispute -/

section Stored

variable {court : Court} {eventId : EventId}

variable {dispute : Dispute}

section

variable (orderly : court.Orderly) (stored : court.storage.dispute.get eventId = some dispute)

include orderly stored

/-- The counters of a stored dispute are those of its ballots. -/
theorem Court.Orderly.counters :
    dispute.totalVotes = (court.storage.ballots eventId).count ∧
      dispute.totalVotes = (court.storage.getDisputeVotes eventId).length ∧
      ∀ side, dispute.votesFor side = (court.storage.getDisputeVotes eventId).count side := by
  have tallied := orderly.tallied eventId
  have counter := DisputeStorage.counter_of_stored stored
  have total : dispute.totalVotes = (court.storage.ballots eventId).count :=
    (counter _).symm.trans tallied.total
  rw [DisputeStorage.getDisputeVotes_eq]
  refine ⟨total, ?_, fun side => ?_⟩
  · rw [total, tallied.length_votes, tallied.length]
  · rw [← tallied.side]
    exact (counter fun dispute => dispute.votesFor side).symm

/-- Nobody has voted on a dispute without votes. -/
theorem Court.Orderly.unvoted (none : dispute.totalVotes = 0) (voter : Address) :
    court.storage.hasVoted eventId voter = false := by
  have tallied := orderly.tallied eventId
  have nobody : (court.storage.ballots eventId).voters = [] := by
    rw [← List.length_eq_zero_iff, tallied.length, ← (orderly.counters stored).1, none]
  refine Bool.eq_false_iff.mpr fun voted => ?_
  have listed := (tallied.voted voter).mpr voted
  rw [nobody] at listed
  exact List.not_mem_nil listed

/-- A stored dispute stays, closes at the same time, and its status moves forward. -/
theorem Court.Orderly.moves (action : CourtAction host) :
    ∃ next, (courtStep court action).storage.dispute.get eventId = some next ∧
      next.closesAt = dispute.closesAt ∧ StatusMoves dispute.status next.status := by
  obtain same | ⟨invocation, call, rfl, turn⟩ := courtStep_turn court action
  · exact ⟨dispute, same.symm ▸ stored, rfl, .inl rfl⟩
  · obtain same | ⟨absent, _⟩ | ⟨before, next, found, after, closesAt, moved⟩ := turn.dispute
    · exact ⟨dispute, same.trans stored, rfl, .inl rfl⟩
    · cases absent.symm.trans stored
    · cases found.symm.trans stored
      refine ⟨next, after, closesAt, ?_⟩
      rcases moved with ⟨opened | voting, status⟩ | ⟨unresolved, verdict⟩
      · exact .inr (.inl ⟨opened, status⟩)
      · exact .inl (status.trans voting.symm)
      · exact .inr (.inr ⟨(orderly.standing eventId dispute stored).resolve_right unresolved,
          verdict⟩)

end

theorem opened_of_new {action : CourtAction host} {next : Dispute}
    (absent : court.storage.dispute.get eventId = none)
    (new : (courtStep court action).storage.dispute.get eventId = some next) :
    next.status = .opened := by
  obtain same | ⟨invocation, call, rfl, turn⟩ := courtStep_turn court action
  · rw [same, absent] at new
    cases new
  · obtain same | ⟨_, begun, begunNew, status⟩ | ⟨_, _, found, _⟩ := turn.dispute
    · rw [same, absent] at new
      cases new
    · cases begunNew.symm.trans new
      exact status
    · cases found.symm.trans absent

end Stored

/-! ### The voters -/

/-- Only a vote stores a vote. -/
theorem DisputeTurn.disputeVote_eq (turn : DisputeTurn world invocation storage call next)
    (other : ∀ eventId voter vote, call ≠ .voteOnDispute eventId voter vote) :
    next.disputeVote = storage.disputeVote := by
  cases turn with
  | kept _ | opened _ _ _ _ | resolved _ _ _ _ _ => rfl
  | voted eventId voter vote => exact absurd rfl (other eventId voter vote)

/-- The step is a vote of the address, and it is accepted. -/
def CastsVote (eventId : EventId) (voter : Address) (court : Court) : CourtAction host → Prop
  | .dispute invocation (.voteOnDispute event address vote) =>
    event = eventId ∧ address = voter ∧
      accepted (Disputes.voteOnDispute invocation.signed invocation.timestamp event address vote)
        court.storage = true
  | _ => False

/-- The address has voted in the run. -/
def HasVotedIn (actions : List (CourtAction host)) (eventId : EventId) (voter : Address) : Prop :=
  ∃ court action, StepOf courtStep .fresh actions court action ∧
    CastsVote eventId voter court action

section Cast

variable (court : Court) (eventId : EventId) (voter : Address)

theorem hasVoted_vote_iff {invocation : Invocation} {event : EventId} {address : Address}
    {vote : DisputeVote} :
    (courtStep court (.dispute invocation (.voteOnDispute event address vote) :
        CourtAction host)).storage.hasVoted eventId voter = true ↔
      court.storage.hasVoted eventId voter = true ∨
        CastsVote eventId voter court
          (.dispute invocation (.voteOnDispute event address vote) : CourtAction host) := by
  show (commit _ court.storage).hasVoted eventId voter = true ↔ _ ∨ _ ∧ _ ∧ _
  obtain ⟨refused, same⟩ | ⟨done, _, run⟩ := commit_cases_accepted
    (Disputes.voteOnDispute invocation.signed invocation.timestamp event address vote)
    court.storage
  · rw [same, refused]
    simp
  · obtain ⟨dispute, _, _, _, _, next⟩ := voteOnDispute_ensures _ _ run
    rw [next, done]
    show (((court.storage.disputeVote.set (event, address) vote).get (eventId, voter)).isSome =
      true) ↔ _
    rw [Store.get_set]
    by_cases mine : event = eventId ∧ address = voter
    · obtain ⟨rfl, rfl⟩ := mine
      simp
    · have different : (eventId, voter) ≠ (event, address) := by
        rintro ⟨⟩
        exact mine ⟨rfl, rfl⟩
      rw [if_neg different]
      exact ⟨.inl, fun either => either.resolve_right fun cast => mine ⟨cast.1, cast.2.1⟩⟩

/-- A vote is stored by casting it, and stays. -/
theorem hasVoted_step_iff (action : CourtAction host) :
    (courtStep court action).storage.hasVoted eventId voter = true ↔
      court.storage.hasVoted eventId voter = true ∨ CastsVote eventId voter court action := by
  have idle {next : DisputeStorage} (same : next.disputeVote = court.storage.disputeVote) :
      next.hasVoted eventId voter = true ↔
        court.storage.hasVoted eventId voter = true ∨ False := by
    rw [or_false, DisputeStorage.hasVoted, same]
    rfl
  cases action with
  | joint action => exact idle rfl
  | dispute invocation call =>
    cases call with
    | openDispute _ _ =>
      exact idle ((disputeStep_turn _ _ _ _).disputeVote_eq fun _ _ _ same => by cases same)
    | voteOnDispute event address vote =>
      exact hasVoted_vote_iff court eventId voter
    | resolveDispute _ =>
      exact idle ((disputeStep_turn _ _ _ _).disputeVote_eq fun _ _ _ same => by cases same)

end Cast

theorem hasVoted_iff_hasVotedIn {eventId : EventId} {voter : Address} :
    (runActions courtStep .fresh actions).storage.hasVoted eventId voter = true ↔
      HasVotedIn actions eventId voter := by
  refine (holds_iff_stepOf (fun court : Court => court.storage.hasVoted eventId voter = true)
    (CastsVote eventId voter) (hasVoted_step_iff · eventId voter) .fresh actions).trans ?_
  exact or_iff_right Bool.false_ne_true

/-- The list of the voters holds every address that has voted, each once. -/
theorem ncard_hasVotedIn (eventId : EventId) :
    {voter | HasVotedIn actions eventId voter}.ncard =
      ((runActions courtStep .fresh actions).storage.ballots eventId).count := by
  have tallied := (court_orderly actions).tallied eventId
  have listed : {voter | HasVotedIn actions eventId voter} =
      (((runActions courtStep .fresh actions).storage.ballots eventId).voters.toFinset :
        Set Address) := by
    ext voter
    rw [Finset.mem_coe, List.mem_toFinset, tallied.voted]
    exact (hasVoted_iff_hasVotedIn actions).symm
  rw [listed, Set.ncard_coe_finset, List.toFinset_card_of_nodup tallied.nodup, tallied.length]

/-- In every state of every run the counters of a dispute, the stored votes and the list of the
voters agree with the addresses that voted. The status moves from open to voting and from both
to a verdict, which is final, every other dispute begins open, and no vote is accepted after the
dispute closes. -/
theorem dispute_tallies_and_lifecycle (actions : List (CourtAction host)) (eventId : EventId)
    (dispute : Dispute)
    (stored : (runActions courtStep .fresh actions).storage.dispute.get eventId = some dispute) :
    let court := runActions courtStep .fresh actions
    let votes := court.storage.getDisputeVotes eventId
    (dispute.totalVotes = dispute.buyerVotes + dispute.organizerVotes ∧
        dispute.totalVotes = {voter | HasVotedIn actions eventId voter}.ncard ∧
        dispute.totalVotes = votes.length ∧ dispute.buyerVotes = votes.count .buyerFavor ∧
        dispute.organizerVotes = votes.count .organizerFavor) ∧
      (∀ action : CourtAction host, ∃ next,
        (courtStep court action).storage.dispute.get eventId = some next ∧
          next.closesAt = dispute.closesAt ∧ StatusMoves dispute.status next.status) ∧
      (∀ (action : CourtAction host) (other : EventId) (next : Dispute),
        court.storage.dispute.get other = none →
          (courtStep court action).storage.dispute.get other = some next →
          next.status = .opened) ∧
      ∀ (invocation : Invocation) (voter : Address) (vote : DisputeVote),
        accepted (Disputes.voteOnDispute invocation.signed invocation.timestamp eventId voter vote)
          court.storage = true → invocation.timestamp ≤ dispute.closesAt := by
  intro court votes
  have orderly := court_orderly actions
  obtain ⟨total, length, sides⟩ := orderly.counters stored
  have buyers : dispute.buyerVotes = votes.count .buyerFavor := sides .buyerFavor
  have organizers : dispute.organizerVotes = votes.count .organizerFavor := sides .organizerFavor
  refine ⟨⟨?_, ?_, length, buyers, organizers⟩, orderly.moves stored, ?_, ?_⟩
  · rw [length, buyers, organizers, Ballots.count_sides]
  · rw [total, ncard_hasVotedIn]
  · exact fun action other next absent new => opened_of_new absent new
  · intro invocation voter vote done
    obtain ⟨_, _, run, _⟩ := accepted_eq_true_iff.mp done
    obtain ⟨found, foundStored, _, inTime, _⟩ := voteOnDispute_ensures _ _ run
    cases foundStored.symm.trans stored
    exact inTime

/-! ### A disputed concert -/

/-- Both contracts are initialised, the event is registered, and the buyers have tokens. -/
def onSale (args : EventRegistrationArgs) : List (JointAction stage) :=
  [.registry opening.1 opening.2 adminAddress,
    .registry everybodySigns (.call (.registerEvent args)) args.organizerAddress,
    .call (allSign 0) (.configure (.initializeContract
      ⟨adminAddress, usdcAddress, ⟨"wallet"⟩, ⟨"registry"⟩⟩)),
    .tokens (.mint usdcAddress aliceAddress 100000),
    .tokens (.approve usdcAddress aliceAddress stage.contract 100000)]

/-- Everybody signs, at the given time. -/
def signedAt (timestamp : Nat) : Invocation :=
  { everybodySigns with timestamp := timestamp }

/-- Alice has so many tickets for the concert, and opens a dispute when it is over. -/
def disputedConcert (tickets : List PaymentId) : List (CourtAction stage) :=
  (onSale { smallConcert with endTime := 10 }).map .joint ++
    tickets.map (fun ticket =>
      .joint (.call (allSign 1) (.processPayment (ticketFor aliceAddress ticket 1)))) ++
    tickets.map (fun ticket => .joint (.call (allSign 2) (.confirmPayment ticket "hash"))) ++
    [.dispute (signedAt 11) (.openDispute "concert" aliceAddress)]

/-- Two votes are cast, one for each side. -/
def twoVotes : List (CourtAction stage) :=
  disputedConcert ["ticket"] ++
    [.dispute (signedAt 12) (.voteOnDispute "concert" aliceAddress .buyerFavor),
      .dispute (signedAt 12) (.voteOnDispute "concert" organizerAddress .organizerFavor)]

theorem two_votes_tallied :
    ∃ dispute, (runActions courtStep .fresh twoVotes).storage.dispute.get "concert" =
        some dispute ∧
      dispute.totalVotes = 2 ∧
      {voter | HasVotedIn twoVotes "concert" voter}.ncard = 2 := by
  have stored : (runActions courtStep .fresh twoVotes).storage.dispute.get "concert" =
      some ⟨"concert", aliceAddress, 11, 172811, .voting, 2, 1, 1, 3000, 0⟩ := by
    decide +kernel
  have tallies := (dispute_tallies_and_lifecycle twoVotes "concert" _ stored).1
  exact ⟨_, stored, rfl, tallies.2.1.symm⟩

end Agora.EventRegistry

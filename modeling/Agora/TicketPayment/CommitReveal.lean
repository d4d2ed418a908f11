/-
This file proves what the two steps of a Dutch purchase promise to a buyer: a commit can
be revealed once, at the price committed to and no other, and a timely reveal is accepted
at the price of the moment, which is not higher.

The last promise rests on the price never rising, so that the slippage does not matter. It
is kept as far as the products of the price and of the slippage fit their type, which
nothing in the check of a configuration ensures.
-/

import Agora.EventRegistry.System
import Agora.TicketPayment.DutchAuction

namespace Agora.TicketPayment

open Soroban EventRegistry

variable {host : Host}

/-! ### The machine -/

inductive DutchAction (host : Host) where
  | setDutchAuction (eventId : EventId) (tierId : TierId) (config : DutchAuctionConfig)
  | commitPurchase (env : Env host) (eventId : EventId) (tierId : TierId) (buyer : Address)
      (commitHash : BytesN32) (maxSlippageBps : Nat)
  | revealPurchase (env : Env host) (eventId : EventId) (tierId : TierId) (buyer : Address)
      (secret : Bytes) (priceStroops : Int)

def dutchStep (toXdr : Address → Bytes) (state : DutchState) : DutchAction host → DutchState
  | .setDutchAuction eventId tierId config => setDutchAuction eventId tierId config state
  | .commitPurchase env eventId tierId buyer commitHash maxSlippageBps =>
    commit (commitPurchase env eventId tierId buyer commitHash maxSlippageBps) state
  | .revealPurchase env eventId tierId buyer secret priceStroops =>
    commit (revealPurchase env toXdr eventId tierId buyer secret priceStroops) state

/-- A buyer and the tier the buyer is after. -/
structure Bargain where
  eventId : EventId
  tierId : TierId
  buyer : Address
  deriving DecidableEq, Repr

namespace Bargain

abbrev key (bargain : Bargain) : EventId × TierId × Address :=
  (bargain.eventId, bargain.tierId, bargain.buyer)

theorem eq_of_key_eq {first second : Bargain} (same : first.key = second.key) :
    first = second := by
  cases first
  cases second
  simpa only [Prod.mk.injEq, mk.injEq] using same

/-- One for a commit of the bargain that is accepted. -/
def commits (bargain : Bargain) (state : DutchState) : DutchAction host → Nat
  | .commitPurchase env eventId tierId buyer commitHash maxSlippageBps =>
    if ⟨eventId, tierId, buyer⟩ = bargain ∧ accepted
      (commitPurchase env eventId tierId buyer commitHash maxSlippageBps) state = true then 1
    else 0
  | _ => 0

/-- One for a reveal of the bargain that is accepted. -/
def reveals (bargain : Bargain) (toXdr : Address → Bytes) (state : DutchState) :
    DutchAction host → Nat
  | .revealPurchase env eventId tierId buyer secret priceStroops =>
    if ⟨eventId, tierId, buyer⟩ = bargain ∧ accepted
      (revealPurchase env toXdr eventId tierId buyer secret priceStroops) state = true then 1
    else 0
  | _ => 0

/-! ### What a step does to a pending commit -/

variable {bargain : Bargain} {toXdr : Address → Bytes} {state : DutchState}

/-- A step that is no commit of the bargain leaves its pending commit alone or takes it. -/
inductive Turn (bargain : Bargain) (toXdr : Address → Bytes) (state : DutchState)
    (action : DutchAction host) : Prop
  | idle
      (pending : (dutchStep toXdr state action).pending.get bargain.key =
        state.pending.get bargain.key)
      (unrevealed : bargain.reveals toXdr state action = 0)
  | taken (commit : PendingCommit) (stored : state.pending.get bargain.key = some commit)
      (pending : (dutchStep toXdr state action).pending.get bargain.key = none)
      (revealed : bargain.reveals toXdr state action = 1)

theorem Turn.commitPurchase (env : Env host) (other : Bargain) (commitHash : BytesN32)
    (maxSlippageBps : Nat)
    (none : bargain.commits state (.commitPurchase env other.eventId other.tierId other.buyer
      commitHash maxSlippageBps) = 0) :
    bargain.Turn toXdr state (.commitPurchase env other.eventId other.tierId other.buyer commitHash
      maxSlippageBps) := by
  refine .idle ?_ rfl
  obtain ⟨-, unchanged⟩ | ⟨accepts, price, run⟩ := commit_cases_accepted
    (TicketPayment.commitPurchase env other.eventId other.tierId other.buyer commitHash
      maxSlippageBps) state
  · exact congrArg (·.pending.get bargain.key) unchanged
  · have different : bargain.key ≠ other.key := by
      intro same
      rw [commits, if_pos ⟨(eq_of_key_eq same).symm, accepts⟩] at none
      cases none
    obtain ⟨-, next⟩ := commitPurchase_ensures _ _ run
    refine (congrArg (·.pending.get bargain.key) next).trans ?_
    exact (Store.get_set _).trans (if_neg different)

theorem Turn.revealPurchase (env : Env host) (other : Bargain) (secret : Bytes)
    (priceStroops : Int) :
    bargain.Turn toXdr state (.revealPurchase env other.eventId other.tierId other.buyer secret
      priceStroops) := by
  obtain ⟨refused, unchanged⟩ | ⟨accepts, charged, run⟩ := commit_cases_accepted
    (TicketPayment.revealPurchase env toXdr other.eventId other.tierId other.buyer secret
      priceStroops) state
  · refine .idle (congrArg (·.pending.get bargain.key) unchanged) ?_
    simp [reveals, refused]
  · obtain ⟨⟨commit, stored, -⟩, next⟩ := revealPurchase_ensures _ _ run
    by_cases same : bargain = other
    · subst same
      refine .taken commit stored ?_ (if_pos ⟨rfl, accepts⟩)
      refine (congrArg (·.pending.get bargain.key) next).trans ?_
      exact (Store.get_remove _).trans (if_pos rfl)
    · refine .idle ?_ (if_neg fun both => same both.1.symm)
      refine (congrArg (·.pending.get bargain.key) next).trans ?_
      exact (Store.get_remove _).trans (if_neg fun keys => same (eq_of_key_eq keys))

theorem dutchStep_turn {toXdr : Address → Bytes} {action : DutchAction host}
    (none : bargain.commits state action = 0) : bargain.Turn toXdr state action := by
  cases action with
  | setDutchAuction => exact .idle rfl rfl
  | commitPurchase env eventId tierId buyer commitHash maxSlippageBps =>
    exact .commitPurchase env ⟨eventId, tierId, buyer⟩ commitHash maxSlippageBps none
  | revealPurchase env eventId tierId buyer secret priceStroops =>
    exact .revealPurchase env ⟨eventId, tierId, buyer⟩ secret priceStroops

theorem auction_commit {Value : Type} {entry : DutchEntry Value}
    (ensures : Ensures entry state fun _ next => next.auction = state.auction) :
    (commit entry state).auction = state.auction := by
  obtain ⟨-, -, unchanged⟩ | ⟨value, run⟩ := commit_cases entry state
  · rw [unchanged]
  · exact ensures value _ run

variable {action : DutchAction host}

/-- The configuration of a tier changes only by a call that sets it. -/
theorem auction_dutchStep {eventId : EventId} {tierId : TierId}
    (unset : ∀ config, action ≠ .setDutchAuction eventId tierId config) :
    (dutchStep toXdr state action).auction.get (eventId, tierId) =
      state.auction.get (eventId, tierId) := by
  cases action with
  | setDutchAuction event tier config =>
    refine (Store.get_set _).trans (if_neg fun same => ?_)
    cases same
    exact unset config rfl
  | commitPurchase env event tier buyer commitHash maxSlippageBps =>
    refine congrArg (·.get (eventId, tierId)) (auction_commit (commitPurchase_ensures.mono ?_))
    rintro _ _ ⟨-, rfl⟩
    rfl
  | revealPurchase env event tier buyer secret priceStroops =>
    refine congrArg (·.get (eventId, tierId)) (auction_commit (revealPurchase_ensures.mono ?_))
    rintro _ _ ⟨-, rfl⟩
    rfl

/-! ### Runs after a commit -/

/-- The commit is pending and not revealed yet, or it is gone. -/
def Standing (bargain : Bargain) (commit : PendingCommit) (state : DutchState) (revealed : Nat) :
    Prop :=
  (state.pending.get bargain.key = some commit ∧ revealed = 0) ∨
    (state.pending.get bargain.key = none ∧ revealed ≤ 1)

variable {commit : PendingCommit} {revealed : Nat}

theorem Standing.step (standing : bargain.Standing commit state revealed)
    (action : DutchAction host) (none : bargain.commits state action = 0) :
    bargain.Standing commit (dutchStep toXdr state action)
      (revealed + bargain.reveals toXdr state action) := by
  cases dutchStep_turn none with
  | idle pending unrevealed =>
    rw [Standing, pending, unrevealed]
    exact standing
  | taken found stored pending taken =>
    rw [Standing, pending, taken]
    obtain ⟨-, rfl⟩ | ⟨gone, -⟩ := standing
    · exact .inr ⟨rfl, le_rfl⟩
    · cases gone.symm.trans stored

/-- A reveal that is accepted while a commit stands is at its price. -/
theorem Standing.price_eq (standing : bargain.Standing commit state revealed) {env : Env host}
    {secret : Bytes} {priceStroops : Int}
    (accepts : accepted (revealPurchase env toXdr bargain.eventId
      bargain.tierId bargain.buyer secret priceStroops) state = true) :
    priceStroops = commit.committedPrice := by
  obtain ⟨charged, next, run, -⟩ := accepted_eq_true_iff.mp accepts
  obtain ⟨⟨found, stored, of⟩, -⟩ := revealPurchase_ensures _ _ run
  obtain ⟨pending, -⟩ | ⟨gone, -⟩ := standing
  · cases pending.symm.trans stored
    exact of.priceEq
  · cases gone.symm.trans stored

theorem standing_of_run {actions : List (DutchAction host)}
    (pending : state.pending.get bargain.key = some commit)
    (uncommitted : Respects (dutchStep toXdr) (fun state action => bargain.commits state action = 0)
      state actions) :
    bargain.Standing commit (runActions (dutchStep toXdr) state actions)
      (runTotal (dutchStep toXdr) (bargain.reveals toXdr) state actions) := by
  have standing := runTotal_invariant (bargain.Standing commit) (bargain.reveals toXdr)
    (fun _ _ action none standing => standing.step action none) state 0 actions uncommitted
    (.inl ⟨pending, rfl⟩)
  rwa [zero_add] at standing

/-- Nothing happens to the bargain: no commit or reveal of it is accepted, and its tier keeps its
configuration. -/
def Quiet (bargain : Bargain) (toXdr : Address → Bytes) (config : DutchAuctionConfig)
    (state : DutchState) (action : DutchAction host) : Prop :=
  bargain.commits state action = 0 ∧ bargain.reveals toXdr state action = 0 ∧
    ∀ other, action = .setDutchAuction bargain.eventId bargain.tierId other → other = config

/-- The commit waits under the configuration. -/
structure Waiting (bargain : Bargain) (config : DutchAuctionConfig) (commit : PendingCommit)
    (state : DutchState) : Prop where
  pending : state.pending.get bargain.key = some commit
  auction : state.auction.get (bargain.eventId, bargain.tierId) = some config

theorem Waiting.step {config : DutchAuctionConfig} (quiet : bargain.Quiet toXdr config state action)
    (waiting : bargain.Waiting config commit state) :
    bargain.Waiting config commit (dutchStep toXdr state action) := by
  obtain ⟨uncommitted, unrevealed, fixed⟩ := quiet
  refine ⟨?_, ?_⟩
  · cases dutchStep_turn uncommitted with
    | idle pending => exact pending.trans waiting.pending
    | taken _ _ _ revealed => cases unrevealed.symm.trans revealed
  · by_cases sets : ∃ other, action = .setDutchAuction bargain.eventId bargain.tierId other
    · obtain ⟨other, rfl⟩ := sets
      rw [fixed other rfl]
      exact Store.get_set_self _ _ _
    · exact (auction_dutchStep fun other same => sets ⟨other, same⟩).trans waiting.auction

end Bargain

/-! ### Reveals in time -/

/-- The products of the price and of the slippage are in the range of an i128. -/
structure RevealFits (config : DutchAuctionConfig) (maxSlippageBps : Nat) (price : Int)
    (now : Nat) : Prop where
  current : config.PriceFits now
  slippage : price * maxSlippageBps < 2 ^ 127
  ceiling : price + price * maxSlippageBps / maxBps < 2 ^ 127

theorem ceiling_eq_some_iff {commit : PendingCommit} (nonneg : 0 ≤ commit.committedPrice)
    {ceiling : Int} :
    commit.ceiling = some ceiling ↔ commit.committedPrice * commit.maxSlippageBps < 2 ^ 127 ∧
      commit.committedPrice + commit.committedPrice * commit.maxSlippageBps / maxBps < 2 ^ 127 ∧
      ceiling = commit.committedPrice +
        commit.committedPrice * commit.maxSlippageBps / maxBps := by
  have bps : (0 : Int) ≤ commit.maxSlippageBps := Int.natCast_nonneg _
  have share : 0 ≤ commit.committedPrice * commit.maxSlippageBps / (maxBps : Int) :=
    Int.ediv_nonneg (Int.mul_nonneg nonneg bps) (Int.natCast_nonneg _)
  simp only [PendingCommit.ceiling, Option.bind_eq_bind,
    mulDiv_of_nonneg nonneg bps (show (0 : Int) < maxBps by decide)]
  by_cases fits : commit.committedPrice * commit.maxSlippageBps < 2 ^ 127
  · rw [if_pos fits, Option.bind_some, checkedAdd, checkedI128_of_nonneg (by omega)]
    by_cases below : commit.committedPrice + commit.committedPrice * commit.maxSlippageBps /
        (maxBps : Int) < 2 ^ 127
    · rw [if_pos below]
      simp only [fits, below, true_and, Option.some.injEq]
      exact eq_comm
    · rw [if_neg below]
      refine iff_of_false ?_ fun both => below both.2.1
      exact (Option.some_ne_none ceiling).symm
  · rw [if_neg fits]
    refine iff_of_false ?_ fun both => fits both.1
    exact (Option.some_ne_none ceiling).symm

/-- The commit of a buyer who knows the secret and comes in time is revealed at the price of the
moment exactly when everything fits. -/
theorem waiting_reveal_iff {bargain : Bargain} {config : DutchAuctionConfig}
    (valid : config.Valid) {toXdr : Address → Bytes} {commitTime maxSlippageBps : Nat}
    {secret : Bytes} {price : Int} {state : DutchState}
    (waiting : bargain.Waiting config ⟨buildCommitHash host toXdr secret bargain.buyer price,
      commitTime + commitExpirySecs, price, maxSlippageBps⟩ state)
    (priceEq : currentDutchPrice config commitTime = some price) {env : Env host}
    (signed : env.signed bargain.buyer = true) (later : commitTime ≤ env.timestamp)
    (inTime : env.timestamp ≤ commitTime + commitExpirySecs) :
    Succeeds (revealPurchase env toXdr bargain.eventId bargain.tierId bargain.buyer secret price)
        state (fun charged _ => currentDutchPrice config env.timestamp = some charged ∧
          charged ≤ price) ↔
      RevealFits config maxSlippageBps price env.timestamp := by
  rw [valid.currentDutchPrice_eq] at priceEq
  split at priceEq
  rotate_left
  · cases priceEq
  obtain rfl := Option.some.inj priceEq
  have nonneg : 0 ≤ config.price commitTime := valid.reserve_pos.le.trans valid.price_bounds.1
  have falls := valid.price_anti later
  have ceilings (ceiling : Int) := @ceiling_eq_some_iff
    ⟨buildCommitHash host toXdr secret bargain.buyer (config.price commitTime),
      commitTime + commitExpirySecs, config.price commitTime, maxSlippageBps⟩ nonneg ceiling
  rw [revealPurchase_succeeds_iff]
  simp only [waiting.pending, waiting.auction, Option.some.injEq, exists_eq_left',
    valid.currentDutchPrice_eq, ceilings]
  constructor
  · rintro ⟨-, current, currentEq, ceiling, ⟨slippage, below, -⟩, -⟩
    split at currentEq
    · exact ⟨‹_›, slippage, below⟩
    · cases currentEq
  · rintro ⟨fits, slippage, below⟩
    have share : 0 ≤ config.price commitTime * maxSlippageBps / (maxBps : Int) :=
      Int.ediv_nonneg (Int.mul_nonneg nonneg (Int.natCast_nonneg _)) (Int.natCast_nonneg _)
    refine ⟨⟨signed, inTime, rfl, rfl⟩, config.price env.timestamp, if_pos fits, _,
      ⟨slippage, below, rfl⟩, by omega, ?_⟩
    rw [if_pos fits, min_eq_left falls]
    exact ⟨rfl, falls⟩

/-- After a commit under a valid configuration: while nothing else happens to the bargain, a reveal
within five minutes succeeds at the price of the moment exactly when the products fit; and as long
as there is no other commit, one reveal at most is accepted, at the price committed to. -/
theorem commit_reveal_promises (toXdr : Address → Bytes) (bargain : Bargain)
    (config : DutchAuctionConfig) (checkedAt : Nat) (typed : config.Typed)
    (validated : validateDutchAuctionConfig checkedAt config = .ok ())
    (state committed : DutchState)
    (stored : state.auction.get (bargain.eventId, bargain.tierId) = some config)
    (commitEnv : Env host) (secret : Bytes) (maxSlippageBps : Nat) (price : Int)
    (commits : (commitPurchase commitEnv bargain.eventId bargain.tierId bargain.buyer
      (buildCommitHash host toXdr secret bargain.buyer price) maxSlippageBps).run state =
        .ok (price, committed)) :
    (∀ (between : List (DutchAction host)) (revealEnv : Env host),
      Respects (dutchStep toXdr) (bargain.Quiet toXdr config) committed between →
      revealEnv.signed bargain.buyer = true → commitEnv.timestamp ≤ revealEnv.timestamp →
      revealEnv.timestamp ≤ commitEnv.timestamp + 300 →
      (Succeeds (revealPurchase revealEnv toXdr bargain.eventId bargain.tierId bargain.buyer secret
          price) (runActions (dutchStep toXdr) committed between) (fun charged _ =>
            currentDutchPrice config revealEnv.timestamp = some charged ∧ charged ≤ price) ↔
        RevealFits config maxSlippageBps price revealEnv.timestamp)) ∧
    ∀ actions : List (DutchAction host),
      Respects (dutchStep toXdr) (fun state action => bargain.commits state action = 0) committed
        actions →
      runTotal (dutchStep toXdr) (bargain.reveals toXdr) committed actions ≤ 1 ∧
      ∀ reached env otherSecret otherPrice, StepOf (dutchStep toXdr) committed actions reached
        (.revealPurchase env bargain.eventId bargain.tierId bargain.buyer otherSecret otherPrice) →
        accepted (revealPurchase env toXdr bargain.eventId bargain.tierId bargain.buyer otherSecret
          otherPrice) reached = true → otherPrice = price := by
  have valid := config.valid_of_validate typed validated
  obtain ⟨⟨found, of⟩, rfl⟩ := commitPurchase_ensures _ _ commits
  obtain rfl := Option.some.inj (of.configEq.symm.trans stored)
  refine ⟨fun between revealEnv quiet signed later inTime => ?_, fun actions uncommitted => ?_⟩
  · refine waiting_reveal_iff valid ?_ of.priceEq signed later inTime
    exact respects_invariant _ (fun _ _ quiet waiting => waiting.step quiet) _ between quiet
      ⟨Store.get_set_self _ _ _, stored⟩
  · have pending := Store.get_set_self state.pending bargain.key ⟨buildCommitHash host toXdr secret
      bargain.buyer price, commitEnv.timestamp + commitExpirySecs, price, maxSlippageBps⟩
    refine ⟨?_, fun reached env otherSecret otherPrice taken accepts => ?_⟩
    · obtain ⟨-, none⟩ | ⟨-, once⟩ := Bargain.standing_of_run pending uncommitted
      · exact none.trans_le (Nat.zero_le 1)
      · exact once
    · obtain ⟨earlier, rest, rfl, rfl⟩ := taken
      have before := (respects_append.mp uncommitted).1
      exact (Bargain.standing_of_run pending before).price_eq accepts

def aliceBargain : Bargain := ⟨"concert", "general", aliceAddress⟩

/-- The characters of the address, for want of its external form. -/
def plainXdr (address : Address) : Bytes :=
  address.strkey.toList.map fun letter => UInt8.ofNat letter.toNat

/-- An auction of the tier. -/
def auctionOf (config : DutchAuctionConfig) : DutchState :=
  setDutchAuction "concert" "general" config ⟨.empty, .empty⟩

/-- Alice commits to a price at a time, and tolerates no higher one. -/
def aliceCommits (now : Nat) (price : Int) : DutchEntry Int :=
  commitPurchase (allSign now) "concert" "general" aliceAddress
    (buildCommitHash stage plainXdr [1, 2, 3] aliceAddress price) 0

/-- The price falls from 1000 to 100. -/
def fallingAuction : DutchAuctionConfig := ⟨1000, 100, 0, 1000, false⟩

/-- Alice commits to 910 at time 100 and pays 820 at time 200. -/
theorem alice_reveals_in_time :
    Succeeds (revealPurchase (allSign 200) plainXdr "concert" "general" aliceAddress [1, 2, 3] 910)
        (commit (aliceCommits 100 910) (auctionOf fallingAuction))
        (fun charged _ => currentDutchPrice fallingAuction 200 = some charged ∧ charged ≤ 910) ∧
      currentDutchPrice fallingAuction 200 = some 820 := by
  have promises := commit_reveal_promises plainXdr aliceBargain fallingAuction 0
    ⟨by decide, by decide⟩ rfl (auctionOf fallingAuction) _ rfl (allSign 100) [1, 2, 3] 0 910
    (run_eq_of_commit (by decide))
  refine ⟨(promises.1 [] (allSign 200) trivial (by decide) (by decide) (by decide)).mpr ?_,
    by decide⟩
  exact ⟨by decide, by decide, by decide⟩

/-- The highest price there is. -/
def steepAuction : DutchAuctionConfig := ⟨2 ^ 127 - 1, 1, 0, 1000, false⟩

/-- The configuration is accepted and Alice commits at the start, but the price of two seconds
later cannot be computed, and the reveal fails. -/
theorem steep_reveal_fails :
    let committed := commit (aliceCommits 0 (2 ^ 127 - 1)) (auctionOf steepAuction)
    validateDutchAuctionConfig 0 steepAuction = .ok () ∧
      ((aliceCommits 0 (2 ^ 127 - 1)).run (auctionOf steepAuction)).toOption.map Prod.fst =
        some (2 ^ 127 - 1) ∧
      accepted (revealPurchase (allSign 2) plainXdr "concert" "general" aliceAddress [1, 2, 3]
        (2 ^ 127 - 1)) committed = false := by
  refine ⟨rfl, ?_⟩
  decide

end Agora.TicketPayment

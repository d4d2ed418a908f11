/-
This file says what a step of the contract does, in a form that composes: the
postings to the ledger, and the changes of the records, the bids, the listings, the
governance and the discounts.

Every invariant of the development reads only these parts of the state, so one
description of an entry point serves all of them. The settings may change as long as
they stay sound, no cancellation is taken back, and only the initialisation sets the flag
of the initialised contract. Whether the registry and the fees counted for the day may
change too is part of the description.
-/

import Agora.TicketPayment.Guards

namespace Agora.TicketPayment

open Soroban

variable {Registry : Type}

/-- What a step does to the parts of the state that the invariants read. -/
structure Change where
  lines : List (Posting Account) := []
  tickets : Tickets → Tickets := id
  auctions : Auctions → Auctions := id
  resale : Store PaymentId ResaleListing → Store PaymentId ResaleListing := id
  governance : Governance → Governance := id
  discounts : Discounts → Discounts := id
  /-- The registry may change. -/
  callsRegistry : Bool := false
  /-- The fees withdrawn on a day may change. -/
  countsFees : Bool := false
  /-- The contract is initialised. -/
  initializes : Bool := false

namespace Change

/-- A step that moves money and nothing else. -/
@[simp]
def posting (lines : List (Posting Account)) : Change := { lines }

/-- A step that the invariants do not see. -/
def nothing : Change := {}

def andThen (first second : Change) : Change where
  lines := first.lines ++ second.lines
  tickets := second.tickets ∘ first.tickets
  auctions := second.auctions ∘ first.auctions
  resale := second.resale ∘ first.resale
  governance := second.governance ∘ first.governance
  discounts := second.discounts ∘ first.discounts
  callsRegistry := first.callsRegistry || second.callsRegistry
  countsFees := first.countsFees || second.countsFees
  initializes := first.initializes || second.initializes

theorem andThen_nothing (change : Change) : change.andThen .nothing = change := by
  simp [andThen, nothing]

end Change

/-- Royalty in basis points where the event has set none. -/
def defaultResaleRoyaltyBps : Nat := 500

def maxResaleRoyaltyBps : Nat := 5000

def Settings.getResaleRoyaltyBps (settings : Settings) (eventId : EventId) : Nat :=
  (settings.resaleRoyaltyBps.get eventId).getD defaultResaleRoyaltyBps

/-- What the setters of the contract check: the platform wallet is not the contract itself, and
no royalty is above the maximum. -/
structure Settings.Sound (host : Host) (settings : Settings) : Prop where
  wallet : settings.platformWallet ≠ some host.contract
  royalty : ∀ eventId, settings.getResaleRoyaltyBps eventId ≤ maxResaleRoyaltyBps

/-- The step from one state to the next does exactly this. -/
structure Does (host : Host) (change : Change) (world next : World Registry) : Prop where
  ledger : next.ledger host = post (world.ledger host) change.lines
  tickets : next.tickets = change.tickets world.tickets
  auctions : next.auctions = change.auctions world.auctions
  resale : next.resale = change.resale world.resale
  governance : next.governance = change.governance world.governance
  discounts : next.discounts = change.discounts world.discounts
  escrowState : next.escrowState = world.escrowState
  sound : world.settings.Sound host → next.settings.Sound host
  cancelled : ∀ eventId, isEventCancelledForRefund world eventId = true →
    isEventCancelledForRefund next eventId = true
  registry : change.callsRegistry = false → next.registry = world.registry
  fees : change.countsFees = false →
    next.books.dailyWithdrawalAmount = world.books.dailyWithdrawalAmount
  initialized : next.settings.initialized = (world.settings.initialized || change.initializes)

/-- The tokens, the books and the notes change at most, and no fees are counted towards a day. -/
def SameButMoney (world next : World Registry) : Prop :=
  ∃ tokens books trail, next = { world with tokens, books, trail } ∧
    books.dailyWithdrawalAmount = world.books.dailyWithdrawalAmount

namespace Does

variable {host : Host} {world middle next : World Registry}

theorem refl (world : World Registry) : Does host .nothing world world where
  ledger := (post_nil _).symm
  tickets := rfl
  auctions := rfl
  resale := rfl
  governance := rfl
  discounts := rfl
  escrowState := rfl
  sound := id
  cancelled _ := id
  registry _ := rfl
  fees _ := rfl
  initialized := (Bool.or_false _).symm

theorem trans {first second : Change} (head : Does host first world middle)
    (tail : Does host second middle next) : Does host (first.andThen second) world next where
  ledger := by rw [tail.ledger, head.ledger, post_post]; rfl
  tickets := by rw [tail.tickets, head.tickets]; rfl
  auctions := by rw [tail.auctions, head.auctions]; rfl
  resale := by rw [tail.resale, head.resale]; rfl
  governance := by rw [tail.governance, head.governance]; rfl
  discounts := by rw [tail.discounts, head.discounts]; rfl
  escrowState := tail.escrowState.trans head.escrowState
  sound := tail.sound ∘ head.sound
  cancelled := fun eventId => tail.cancelled eventId ∘ head.cancelled eventId
  registry := fun quiet =>
    have both := Bool.or_eq_false_iff.mp quiet
    (tail.registry both.2).trans (head.registry both.1)
  fees := fun quiet =>
    have both := Bool.or_eq_false_iff.mp quiet
    (tail.fees both.2).trans (head.fees both.1)
  initialized := by rw [tail.initialized, head.initialized, Bool.or_assoc]; rfl

/-- Two money movements in a row post the concatenation. -/
theorem trans_posting {first second : List (Posting Account)}
    (head : Does host (.posting first) world middle)
    (tail : Does host (.posting second) middle next) :
    Does host (.posting (first ++ second)) world next :=
  head.trans tail

variable {change : Change}

/-- An invisible step before another one changes nothing of the description. -/
theorem after_nothing (head : Does host .nothing world middle)
    (tail : Does host change middle next) :
    Does host change world next :=
  head.trans tail

/-- An invisible step after another one changes nothing of the description. -/
theorem then_nothing (head : Does host change world middle)
    (tail : Does host .nothing middle next) :
    Does host change world next :=
  change.andThen_nothing ▸ head.trans tail

variable {lines : List (Posting Account)}

/-- Money first, records second. -/
theorem posting_then_tickets {change : Tickets → Tickets}
    (head : Does host (.posting lines) world middle)
    (tail : Does host { tickets := change } middle next) :
    Does host { lines, tickets := change } world next := by
  have both := head.trans tail
  rwa [Change.andThen, Change.posting, List.append_nil] at both

/-- Only what is posted to each account counts. -/
theorem congr_lines (does : Does host change world next)
    (same : ∀ account, posted lines account = posted change.lines account) :
    Does host { change with lines } world next :=
  { does with
    ledger := by
      rw [does.ledger]
      funext account
      rw [post_apply, post_apply, same] }

/-- A posting of nothing may be added. -/
theorem add_zero_line (account : Account) (does : Does host (.posting lines) world next) :
    Does host (.posting (lines ++ [(account, 0)])) world next :=
  does.congr_lines fun other => by simp

/-! ### The changes of the state -/

theorem of_money (ledger : next.ledger host = post (world.ledger host) lines)
    (same : SameButMoney world next) : Does host (.posting lines) world next := by
  obtain ⟨tokens, books, trail, rfl, daily⟩ := same
  exact ⟨ledger, rfl, rfl, rfl, rfl, rfl, rfl, id, fun _ => id, fun _ => rfl, fun _ => daily,
    (Bool.or_false _).symm⟩

/-- A step that may count fees towards a day. -/
theorem of_counted_money (ledger : next.ledger host = post (world.ledger host) lines)
    (same : ∃ tokens books trail, next = { world with tokens, books, trail }) :
    Does host { lines, countsFees := true } world next := by
  obtain ⟨tokens, books, trail, rfl⟩ := same
  exact ⟨ledger, rfl, rfl, rfl, rfl, rfl, rfl, id, fun _ => id, fun _ => rfl,
    (fun absurdity => by cases absurdity), (Bool.or_false _).symm⟩

theorem withSettings (change : Settings → Settings)
    (keeps : world.settings.Sound host → (change world.settings).Sound host :=
      by exact fun sound => ⟨sound.wallet, sound.royalty⟩)
    (cancelled : ∀ eventId, isEventCancelledForRefund world eventId = true →
      isEventCancelledForRefund (world.withSettings change) eventId = true :=
      by exact fun _ => id)
    (initialized : (change world.settings).initialized = world.settings.initialized := by rfl) :
    Does host .nothing world (world.withSettings change) where
  ledger := (World.ledger_congr rfl rfl rfl).trans (post_nil _).symm
  tickets := rfl
  auctions := rfl
  resale := rfl
  governance := rfl
  discounts := rfl
  escrowState := rfl
  sound := keeps
  cancelled := cancelled
  registry _ := rfl
  fees _ := rfl
  initialized := initialized.trans (Bool.or_false _).symm

/-- A step that moves no money and may call the registry. -/
theorem of_stores (change : Change) (registry : Registry)
    (called : change.callsRegistry = false → registry = world.registry)
    (lines : change.lines = []) (initializes : change.initializes = false) :
    Does host change world { world with
      tickets := change.tickets world.tickets
      auctions := change.auctions world.auctions
      discounts := change.discounts world.discounts
      resale := change.resale world.resale
      governance := change.governance world.governance
      registry := registry } where
  ledger := by
    rw [lines, post_nil]
    exact World.ledger_congr rfl rfl rfl
  tickets := rfl
  auctions := rfl
  resale := rfl
  governance := rfl
  discounts := rfl
  escrowState := rfl
  sound := id
  cancelled _ := id
  registry := called
  fees _ := rfl
  initialized := by rw [initializes, Bool.or_false]

/-- Only what the change makes of the present discounts counts. -/
theorem withDiscounts (change : Discounts → Discounts) {described : Discounts → Discounts}
    (same : change world.discounts = described world.discounts) :
    Does host { discounts := described } world (world.withDiscounts change) := by
  rw [World.withDiscounts, same]
  exact of_stores { discounts := described } world.registry (fun _ => rfl) rfl rfl

theorem withGovernance (change : Governance → Governance) {described : Governance → Governance}
    (same : change world.governance = described world.governance) :
    Does host { governance := described } world (world.withGovernance change) := by
  rw [World.withGovernance, same]
  exact of_stores { governance := described } world.registry (fun _ => rfl) rfl rfl

theorem withRegistry (registry : Registry) :
    Does host { callsRegistry := true } world (world.withRegistry registry) :=
  of_stores { callsRegistry := true } registry (by rintro ⟨⟩) rfl rfl

theorem withTickets (change : Tickets → Tickets) :
    Does host { tickets := change } world (world.withTickets change) :=
  of_stores { tickets := change } world.registry (fun _ => rfl) rfl rfl

theorem withAuctions (change : Auctions → Auctions) :
    Does host { auctions := change } world (world.withAuctions change) :=
  of_stores { auctions := change } world.registry (fun _ => rfl) rfl rfl

theorem withListing (listing : ResaleListing) :
    Does host { resale := fun resale => resale.set listing.paymentId listing } world
      (world.withListing listing) :=
  of_stores { resale := fun resale => resale.set listing.paymentId listing } world.registry
    (fun _ => rfl) rfl rfl

theorem withBalance (eventId : EventId) (balance : EventBalance) :
    Does host (.posting
      [(.organizer eventId,
          balance.organizerAmount - (world.books.getEventBalance eventId).organizerAmount),
        (.withdrawn eventId,
          balance.totalWithdrawn - (world.books.getEventBalance eventId).totalWithdrawn),
        (.platform eventId,
          balance.platformFee - (world.books.getEventBalance eventId).platformFee)])
      world (world.withBalance eventId balance) :=
  of_money (World.ledger_withBalance host world) ⟨_, _, _, rfl, rfl⟩

/-- The change that the source's `update_event_balance` makes. -/
theorem creditEvent (eventId : EventId) (organizerAmount platformFee : Int) :
    Does host (.posting [(.organizer eventId, organizerAmount), (.withdrawn eventId, 0),
        (.platform eventId, platformFee)])
      world (world.withBalance eventId
        { organizerAmount :=
            (world.books.getEventBalance eventId).organizerAmount + organizerAmount
          totalWithdrawn := (world.books.getEventBalance eventId).totalWithdrawn
          platformFee := (world.books.getEventBalance eventId).platformFee + platformFee }) := by
  have step : Does host _ world _ := withBalance eventId
    { organizerAmount := (world.books.getEventBalance eventId).organizerAmount + organizerAmount
      totalWithdrawn := (world.books.getEventBalance eventId).totalWithdrawn
      platformFee := (world.books.getEventBalance eventId).platformFee + platformFee }
  simpa only [add_sub_cancel_left, sub_self] using step

theorem addVolume (amount : Int) : Does host .nothing world (world.addVolume amount) :=
  of_money (by rw [World.ledger_addVolume, post_nil]) ⟨_, _, _, rfl, rfl⟩

theorem addFees (token : Address) (amount : Int) :
    Does host (.posting [(.fees token, amount)]) world (world.addFees token amount) :=
  of_money (World.ledger_addFees host world token amount) ⟨_, _, _, rfl, rfl⟩

theorem addEscrowTotal (amount : Int) :
    Does host (.posting [(.escrowTotal, amount)]) world (world.addEscrowTotal amount) :=
  of_money (World.ledger_addEscrowTotal host world amount) ⟨_, _, _, rfl, rfl⟩

theorem addEscrow (token : Address) (amount : Int) :
    Does host (.posting [(.escrow token, amount)]) world (world.addEscrow token amount) :=
  of_money (World.ledger_addEscrow host world token amount) ⟨_, _, _, rfl, rfl⟩

theorem pay (token target : Address) (amount : Int) (headings : List Trail) :
    Does host (.posting ((.held token, if target = host.contract then 0 else -amount) ::
        World.noted headings amount))
      world (world.pay host token target amount headings) :=
  of_money (World.ledger_pay host world) ⟨_, _, _, rfl, rfl⟩

theorem pull (token source : Address) (amount : Int) (headings : List Trail) :
    Does host (.posting ((.held token, if source = host.contract then 0 else amount) ::
        World.noted headings amount))
      world (world.pull host token source amount headings) :=
  of_money (World.ledger_pull host world) ⟨_, _, _, rfl, rfl⟩

theorem note (headings : List Trail) (amount : Int) :
    Does host (.posting (World.noted headings amount)) world (world.note headings amount) :=
  of_money (World.ledger_note host world headings amount) ⟨_, _, _, rfl, rfl⟩

theorem pay_outside {target : Address} (outside : target ≠ host.contract) (token : Address)
    (amount : Int) (headings : List Trail) :
    Does host (.posting ((.held token, -amount) :: World.noted headings amount)) world
      (world.pay host token target amount headings) := by
  have step : Does host _ world _ := pay token target amount headings
  rwa [if_neg outside] at step

theorem pull_outside {source : Address} (outside : source ≠ host.contract) (token : Address)
    (amount : Int) (headings : List Trail) :
    Does host (.posting ((.held token, amount) :: World.noted headings amount)) world
      (world.pull host token source amount headings) := by
  have step : Does host _ world _ := pull token source amount headings
  rwa [if_neg outside] at step

end Does

/-! ### Transfers of positive amounts -/

/-- Only the tokens and the notes change. -/
def SameButTokens (world next : World Registry) : Prop :=
  ∃ tokens trail, next = { world with tokens := tokens, trail := trail }

theorem payIfPositive_ensures {host : Host} {token target : Address} {amount : Int}
    {headings : List Trail} {world : World Registry} :
    Ensures (payIfPositive host token target amount headings) world fun _ next =>
      Does host (.posting ((.held token, -if target = host.contract then 0 else max amount 0) ::
          World.noted headings (max amount 0))) world next ∧
        (∀ other holder, next.tokens.balance other holder = world.tokens.balance other holder +
          Tokens.moved token host.contract target (max amount 0) other holder) ∧
        SameButTokens world next := by
  simp only [payIfPositive, ensures_rules, ensures_payOut]
  refine ⟨fun positive _ => ⟨?_, fun other holder => ?_, _, _, rfl⟩,
    fun notPositive => ⟨?_, fun other holder => ?_, _, _, rfl⟩⟩
  · have paid : Does host _ world _ := Does.pay token target amount headings
    refine paid.congr_lines fun account => ?_
    rw [max_eq_left positive.le]
    by_cases own : target = host.contract <;> simp [own]
  · rw [max_eq_left positive.le]
    rfl
  · refine (Does.refl world).congr_lines fun account => ?_
    have unnoted : posted (World.noted headings 0) account = 0 := by
      cases account with
      | trail heading =>
        rw [World.posted_noted_trail]
        exact List.sum_eq_zero (by simp)
      | _ => exact World.posted_noted_of_ne headings 0 _ (by intro heading equal; cases equal)
    rw [max_eq_right (not_lt.mp notPositive)]
    simp [unnoted, Change.nothing]
  · rw [max_eq_right (not_lt.mp notPositive)]
    simp [Tokens.moved]

end Agora.TicketPayment

/-
This file asks whether the money of an event can change hands through its id.

The registry says who the organizer of an event is, and the payment contract keeps the money,
both under the id of the event. Archiving removes the record and does not look at the money,
and then anybody may register the id. The time between two registrations is a tenure: it has an
organizer, the addresses that they let the money be sent to, and the sums from before it. In
every run in which the id is registered only while no money is left under it, and the event
keeps to one currency, what is paid out in a tenure is covered by what was received in it and
goes to the organizer of the tenure or to an address they chose.
-/

import Agora.EventRegistry.DisputeVotes
import Agora.EventRegistry.Records
import Agora.TicketPayment.AuctionEscrow
import Agora.TicketPayment.Milestones
import Agora.TicketPayment.Revenue

namespace Agora.TicketPayment

open Soroban

variable {Registry : Type} [RegistryApi Registry] {host : Host}

/-! ### Where the payouts go -/

variable {token source target : Address} {amount : Int}

/-- A movement adds no more than its amount, and only to the holder it goes to. -/
theorem moved_pos {other holder : Address} (nonneg : 0 ≤ amount)
    (rises : 0 < Tokens.moved token source target amount other holder) :
    holder = target ∧ other = token ∧
      Tokens.moved token source target amount other holder ≤ amount := by
  unfold Tokens.moved at rises ⊢
  by_cases here : other = token
  · rw [if_pos here] at rises ⊢
    refine ⟨?_, here, ?_⟩
    · by_contra elsewhere
      rw [if_neg elsewhere] at rises
      split at rises <;> omega
    · split <;> split <;> omega
  · rw [if_neg here] at rises
    exact absurd rises (lt_irrefl 0)

/-- Nobody but the target has more tokens than before, and what they have more is released for
the event. -/
def PaysOnly (eventId : EventId) (target : Address) (world next : World Registry) : Prop :=
  ∀ token holder, world.tokens.balance token holder < next.tokens.balance token holder →
    holder = target ∧ next.tokens.balance token holder - world.tokens.balance token holder ≤
      next.released eventId token - world.released eventId token

variable {eventId : EventId} {world next : World Registry}

omit [RegistryApi Registry] in
theorem PaysOnly.of_same (same : next.tokens = world.tokens) :
    PaysOnly eventId target world next := by
  intro token holder rises
  rw [same] at rises
  exact absurd rises (lt_irrefl _)

omit [RegistryApi Registry] in
theorem PaysOnly.of_move (nonneg : 0 ≤ amount)
    (moves : next.tokens = world.tokens.move token source target amount)
    (trail : next.trail = (.released eventId token, amount) :: world.trail) :
    PaysOnly eventId target world next := by
  intro other holder rises
  have balance : next.tokens.balance other holder = world.tokens.balance other holder +
      Tokens.moved token source target amount other holder := by
    rw [moves]
    rfl
  rw [balance] at rises ⊢
  obtain ⟨isTarget, rfl, small⟩ := moved_pos nonneg ((lt_add_iff_pos_right _).mp rises)
  have released : next.released eventId other = amount + world.released eventId other := by
    rw [World.released, trail, posted_cons, if_pos rfl]
    rfl
  refine ⟨isTarget, ?_⟩
  omega

variable {env : Env host}

theorem withdrawOrganizerFunds_paysOnly :
    Ensures (withdrawOrganizerFunds env eventId token) world fun _ next =>
      ∃ event, RegistryApi.getEvent world.registry eventId = some event ∧
        PaysOnly eventId event.organizerAddress world next := by
  rw [ensures_iff_not_succeeds, withdrawOrganizerFunds_succeeds]
  rintro ⟨event, may, due, _, withdraws⟩
  cases due with
  | none => exact withdraws ⟨event, may.found, .of_same rfl⟩
  | some amount => exact withdraws.2 ⟨event, may.found, .of_move withdraws.1.moves.1 rfl rfl⟩

theorem claimRevenue_paysOnly :
    Ensures (claimRevenue env eventId token) world fun _ next =>
      ∃ event, RegistryApi.getEvent world.registry eventId = some event ∧
        PaysOnly eventId event.paymentAddress world next := by
  simp only [claimRevenue, requireGoal, requirePlatformWallet, trapping, payIfPositive, unescrow,
    subtractFromActiveEscrowTotal, subtractFromActiveEscrowByToken, ensures_rules, ensures_checks,
    ensures_getEvent, ensures_requireUndisputed, ensures_payOut, ensures_setEventBalance,
    ensures_counters]
  intro _ _ event found _ _ _ _ _ _ _
  refine ⟨fun positive allowed _ _ => ⟨fun _ _ _ => ?_, fun _ => ?_⟩,
    fun _ _ _ => ⟨fun _ _ _ => ?_, fun _ => ?_⟩⟩
  · exact ⟨event, found, .of_move allowed.1 rfl rfl⟩
  · exact ⟨event, found, .of_move allowed.1 rfl rfl⟩
  · exact ⟨event, found, .of_same rfl⟩
  · exact ⟨event, found, .of_same rfl⟩

/-- The calls that pay an organizer out of the money of the event. -/
def PaysOut (eventId : EventId) : Call → Prop
  | .withdrawOrganizerFunds target _ => target = eventId
  | .claimRevenue target _ => target = eventId
  | .configure (.releaseMilestoneEscrow target) => target = eventId
  | _ => False

/-- Whoever has more tokens than before is the organizer or the payment address of the stored
event, and what they have more is released for the event. -/
def PaysEvent (eventId : EventId) (world next : World Registry) : Prop :=
  ∀ token holder, world.tokens.balance token holder < next.tokens.balance token holder →
    ∃ event, RegistryApi.getEvent world.registry eventId = some event ∧
      (holder = event.organizerAddress ∨ holder = event.paymentAddress) ∧
      next.tokens.balance token holder - world.tokens.balance token holder ≤
        next.released eventId token - world.released eventId token

theorem PaysEvent.refl :
    PaysEvent eventId world world := by
  intro token holder rises
  exact absurd rises (lt_irrefl _)

theorem payout_paysEvent (escrow : world.escrowState = .empty) (env : Env host) {call : Call}
    (pays : PaysOut eventId call) : PaysEvent eventId world (step world (.call env call)) := by
  cases call with
  | withdrawOrganizerFunds target withdrawn =>
    cases pays
    refine commit_of_ensures (.refl) (withdrawOrganizerFunds_paysOnly.mono ?_)
    intro _ _ ⟨event, found, only⟩ token holder rises
    exact ⟨event, found, (only token holder rises).imp_left .inl⟩
  | claimRevenue target claimed =>
    cases pays
    refine commit_of_ensures (.refl) (claimRevenue_paysOnly.mono ?_)
    intro _ _ ⟨event, found, only⟩ token holder rises
    exact ⟨event, found, (only token holder rises).imp_left .inr⟩
  | configure call =>
    cases call with
    | releaseMilestoneEscrow target =>
      have uninitialized : world.escrowState.get target = none := by
        rw [escrow]
        rfl
      refine commit_of_ensures (.refl) ((releaseMilestoneEscrow_ensures uninitialized).mono ?_)
      exact fun _ _ => False.elim
    | _ => exact pays.elim
  | _ => exact pays.elim

end Agora.TicketPayment

namespace Agora.EventRegistry

open Soroban TicketPayment

variable {host : Host}

/-! ### Tenures -/

/-- The time since a registration of an event: its organizer, the addresses they let the money
be sent to, the bids placed in it, and what was received and released before it. -/
structure Tenure where
  organizer : Address
  payees : List Address
  bids : List (TierId × HighestBid)
  receivedBefore : Address → Int
  releasedBefore : Address → Int

/-- A registration opens a tenure. -/
def Tenure.opened (world : World Registry) (args : EventRegistrationArgs) : Tenure where
  organizer := args.organizerAddress
  payees := [args.organizerAddress, args.paymentAddress]
  bids := []
  receivedBefore := world.received args.eventId
  releasedBefore := world.released args.eventId

/-- Another payment address is chosen. -/
def Tenure.addPayee (tenure : Tenure) (payee : Address) : Tenure :=
  { tenure with payees := payee :: tenure.payees }

def Tenure.addBid (tenure : Tenure) (tierId : TierId) (bid : HighestBid) : Tenure :=
  { tenure with bids := (tierId, bid) :: tenure.bids }

section Tenures

variable (eventId : EventId) (world : World Registry)

/-- The latest tenure of the event after a step. The organizer chooses another payment address
when they replace the record. -/
def tenureStep : JointAction host → Option Tenure → Option Tenure
  | .registry invocation (.call (.registerEvent args)) _, tenure =>
    if args.eventId = eventId ∧
        accepted (registerEvent world.registry.platform invocation.signed args) world.registry then
      some (.opened world args)
    else tenure
  | .registry invocation (.storeEvent target record) _, tenure =>
    if target = eventId ∧ accepted (storeEvent invocation.signed invocation.timestamp target record)
        world.registry then
      tenure.map (·.addPayee record.paymentAddress)
    else tenure
  | .call env (.placeBid target tierId bid), tenure =>
    if target = eventId ∧ accepted (placeBid env target tierId bid) world then
      tenure.map (·.addBid tierId bid)
    else tenure
  | _, tenure => tenure

/-- No money is left under the id: nothing for an organizer, and no bid that can still win. -/
structure Cleared : Prop where
  organizerAmount : (world.books.getEventBalance eventId).organizerAmount ≤ 0
  bids : ∀ tierId, world.auctions.closed.get (eventId, tierId) = none →
    world.auctions.highestBid.get (eventId, tierId) = none

/-- The condition on a step: the event keeps to one currency, and its id is registered only while
no money is left under it. -/
def KeepsTenure (currency : Address) (world : World Registry) (action : JointAction host) :
    Prop :=
  InCurrency eventId currency world (action.action world) ∧
    match action with
    | .registry _ (.call (.registerEvent args)) _ => args.eventId = eventId →
      world.registry.events.get eventId = none → Cleared eventId world
    | _ => True

end Tenures

/-- The same tenure, in which more payees or bids may have come up. -/
structure Tenure.Continues (first second : Tenure) : Prop where
  organizer : second.organizer = first.organizer
  receivedBefore : second.receivedBefore = first.receivedBefore
  releasedBefore : second.releasedBefore = first.releasedBefore
  payees : ∀ payee ∈ first.payees, payee ∈ second.payees
  bids : ∀ bid ∈ first.bids, bid ∈ second.bids

theorem Tenure.Continues.refl (tenure : Tenure) : tenure.Continues tenure :=
  ⟨rfl, rfl, rfl, fun _ => id, fun _ => id⟩

theorem Tenure.continues_addPayee (tenure : Tenure) (payee : Address) :
    tenure.Continues (tenure.addPayee payee) :=
  ⟨rfl, rfl, rfl, fun _ => List.mem_cons_of_mem payee, fun _ => id⟩

theorem Tenure.continues_addBid (tenure : Tenure) (tierId : TierId) (bid : HighestBid) :
    tenure.Continues (tenure.addBid tierId bid) :=
  ⟨rfl, rfl, rfl, fun _ => id, fun _ => List.mem_cons_of_mem (tierId, bid)⟩

/-- A registration of the event that succeeds. -/
def Registers (eventId : EventId) (world : World Registry) (action : JointAction host)
    (args : EventRegistrationArgs) : Prop :=
  ∃ invocation recipient, action = .registry invocation (.call (.registerEvent args)) recipient ∧
    args.eventId = eventId ∧
    accepted (registerEvent world.registry.platform invocation.signed args) world.registry = true

/-- A step opens a tenure, or the latest one goes on. -/
theorem tenureStep_cases (eventId : EventId) (world : World Registry) (action : JointAction host)
    (tenure : Option Tenure) :
    (∃ args, Registers eventId world action args ∧
        tenureStep eventId world action tenure = some (.opened world args)) ∨
      ∃ extend : Tenure → Tenure, (∀ current : Tenure, current.Continues (extend current)) ∧
        tenureStep eventId world action tenure = tenure.map extend := by
  have same : ∃ extend : Tenure → Tenure, (∀ current : Tenure, current.Continues (extend current)) ∧
      tenure = tenure.map extend := ⟨id, .refl, (Option.map_id_apply).symm⟩
  unfold tenureStep
  split
  · split
    · rename_i registers
      exact .inl ⟨_, ⟨_, _, rfl, registers⟩, rfl⟩
    · exact .inr same
  · split
    · exact .inr ⟨_, fun current => current.continues_addPayee _, rfl⟩
    · exact .inr same
  · split
    · exact .inr ⟨_, fun current => current.continues_addBid _ _, rfl⟩
    · exact .inr same
  · exact .inr same

section Steps

variable {eventId : EventId} {currency : Address} {world : World Registry}
  {action : JointAction host} {tenure : Option Tenure}

variable {args : EventRegistrationArgs}

theorem Registers.free (registers : Registers eventId world action args) :
    world.registry.events.get eventId = none := by
  obtain ⟨invocation, _, _, rfl, done⟩ := registers
  obtain ⟨_, next, run, _⟩ := accepted_eq_true_iff.mp done
  have free := (registerEvent_ensures _ next run).1
  simpa using free

theorem KeepsTenure.cleared (keeps : KeepsTenure eventId currency world action)
    (registers : Registers eventId world action args) : Cleared eventId world := by
  have free := registers.free
  obtain ⟨_, _, rfl, named, _⟩ := registers
  exact keeps.2 named free

/-! ### The money of a tenure -/

/-- What was released in the tenure is covered by what was received in it, and in the currency
there is room for the organizer's amount. -/
def Tenure.Covered (eventId : EventId) (currency : Address) (world : World Registry)
    (tenure : Tenure) : Prop :=
  ∀ token, world.released eventId token +
      (if token = currency then max 0 (world.books.getEventBalance eventId).organizerAmount
        else 0) ≤
    world.received eventId token + (tenure.releasedBefore token - tenure.receivedBefore token)

theorem covered_step (keeps : KeepsTenure eventId currency world action)
    (state : FundedState host eventId currency world)
    (before : ∀ current ∈ tenure, current.Covered eventId currency world) :
    ∀ next ∈ tenureStep eventId world action tenure,
      next.Covered eventId currency (jointStep world action) := by
  intro next member
  rcases tenureStep_cases eventId world action tenure with
    ⟨args, registers, opens⟩ | ⟨extend, continues, extended⟩
  · have cleared := keeps.cleared registers
    obtain ⟨invocation, recipient, rfl, rfl, _⟩ := registers
    cases opens.symm.trans member
    intro token
    have nothing : max 0 (world.books.getEventBalance args.eventId).organizerAmount = 0 :=
      max_eq_left cleared.organizerAmount
    show world.released args.eventId token + (if token = currency then
        max 0 (world.books.getEventBalance args.eventId).organizerAmount else 0) ≤
      world.received args.eventId token +
        (world.released args.eventId token - world.received args.eventId token)
    rw [nothing, ite_self]
    omega
  · obtain ⟨current, held, rfl⟩ := Option.map_eq_some_iff.mp (extended.symm.trans member)
    intro token
    rw [(continues current).releasedBefore, (continues current).receivedBefore]
    obtain ⟨change, effect, does⟩ := step_takes state.wellformed.escrowState (action.action world)
    obtain ⟨_, _, _, turnover, covered⟩ := effect.turnover state keeps.1
    exact covers_of_turnover does turnover covered (before current held token)

/-! ### The bids of a tenure -/

/-- Every bid that can still win was placed in the tenure. -/
def Tenure.HasBids (eventId : EventId) (world : World Registry) (tenure : Tenure) : Prop :=
  ∀ tierId, world.auctions.closed.get (eventId, tierId) = none →
    ∀ bid ∈ world.auctions.highestBid.get (eventId, tierId), (tierId, bid) ∈ tenure.bids

variable {tierId : TierId}

/-- A bid that is accepted becomes one of the tenure. -/
theorem hasBids_placeBid {env : Env host} {placed : HighestBid} {next : Tenure}
    (member : next ∈ tenureStep eventId world (.call env (.placeBid eventId tierId placed)) tenure)
    (before : ∀ current ∈ tenure, current.HasBids eventId world)
    (unclosed : (jointStep world (.call env (.placeBid eventId tierId placed))).auctions.closed.get
      (eventId, tierId) = none) :
    ∀ bid ∈ (jointStep world (.call env (.placeBid eventId tierId placed))).auctions.highestBid.get
      (eventId, tierId), (tierId, bid) ∈ next.bids := by
  have stepped : jointStep world (.call env (.placeBid eventId tierId placed)) =
    commit (placeBid env eventId tierId placed) world := rfl
  rw [stepped] at unclosed ⊢
  rw [tenureStep] at member
  intro bid highest
  rcases commit_cases_accepted (placeBid env eventId tierId placed) world with
    ⟨refused, same⟩ | ⟨done, value, run⟩
  · rw [same] at unclosed highest
    rw [refused, if_neg (by simp)] at member
    exact before next member tierId unclosed bid highest
  · obtain ⟨_, _, _, does, _⟩ := placeBid_ensures value _ run
    rw [done, if_pos ⟨rfl, rfl⟩] at member
    obtain ⟨current, _, rfl⟩ := Option.map_eq_some_iff.mp member
    have isPlaced : placed = bid := by
      rw [does.auctions] at highest
      exact Option.some.inj ((Store.get_set_self _ _ _).symm.trans highest)
    rw [isPlaced]
    exact List.mem_cons_self

/-- An auction that is closed has no bid that can still win. -/
theorem closeAuction_unclosed {env : Env host} {paymentId : PaymentId}
    (unclosed : (jointStep world
      (.call env (.closeAuction paymentId eventId tierId))).auctions.closed.get
        (eventId, tierId) = none) :
    jointStep world (.call env (.closeAuction paymentId eventId tierId)) = world := by
  obtain ⟨_, _, same⟩ | ⟨value, run⟩ := commit_cases (closeAuction env paymentId eventId tierId)
    world
  · exact same
  · obtain ⟨_, _, _, _, _, _, does, _⟩ := closeAuction_ensures value _ run
    have closed : (commit (closeAuction env paymentId eventId tierId) world).auctions.closed.get
        (eventId, tierId) = some () := by
      rw [does.auctions]
      exact Store.get_set_self _ _ _
    cases closed.symm.trans unclosed

theorem JointAction.eq_call {env : Env host} {entry : Call}
    (same : action.action world = .call env entry) : action = .call env entry := by
  cases action with
  | call env entry =>
    cases same
    rfl
  | tokens move => cases same
  | registry invocation call recipient => cases same

theorem hasBids_step (keeps : KeepsTenure eventId currency world action)
    (escrow : world.escrowState = .empty)
    (before : ∀ current ∈ tenure, current.HasBids eventId world) :
    ∀ next ∈ tenureStep eventId world action tenure,
      next.HasBids eventId (jointStep world action) := by
  intro next member
  rcases tenureStep_cases eventId world action tenure with
    ⟨args, registers, opens⟩ | ⟨extend, continues, extended⟩
  · have cleared := keeps.cleared registers
    obtain ⟨invocation, recipient, rfl, rfl, _⟩ := registers
    intro tierId unclosed bid highest
    have nothing := cleared.bids tierId unclosed
    cases highest.symm.trans nothing
  · obtain ⟨current, held, rfl⟩ := Option.map_eq_some_iff.mp (extended.symm.trans member)
    intro tierId unclosed bid highest
    by_cases concerns : (action.action world).auctionKey = some (eventId, tierId)
    · rcases auctionKey_cases concerns with ⟨env, placed, same⟩ | ⟨env, paymentId, same⟩
      · obtain rfl := JointAction.eq_call same
        exact hasBids_placeBid member before unclosed bid highest
      · obtain rfl := JointAction.eq_call same
        have kept := closeAuction_unclosed unclosed
        rw [kept] at unclosed highest
        exact (continues current).bids _ (before current held tierId unclosed bid highest)
    · obtain ⟨sameBid, sameClosed⟩ := step_elsewhere escrow concerns
      exact (continues current).bids _ (before current held tierId (sameClosed ▸ unclosed) bid
        (sameBid ▸ highest))

/-! ### The payees of a tenure -/

/-- The stored event is that of the tenure: its organizer is, and its payment address is one of
the payees, as the organizer is. -/
structure Tenure.Owns (event : Event) (tenure : Tenure) : Prop where
  organizer : event.organizerAddress = tenure.organizer
  organizer_mem : tenure.organizer ∈ tenure.payees
  payment_mem : event.paymentAddress ∈ tenure.payees

/-- The stored event is that of the latest tenure. -/
def OwnedInTenure (eventId : EventId) (registry : Registry) (tenure : Option Tenure) : Prop :=
  ∀ event ∈ registry.events.get eventId, ∃ current ∈ tenure, current.Owns event

variable {event record : Event} {call : CatalogCall}

/-- No write changes the organizer, and only the replacement of the record changes the payment
address. -/
theorem RecordWrite.owner (writes : RecordWrite eventId call event record) :
    record.organizerAddress = event.organizerAddress ∧
      (record.paymentAddress = event.paymentAddress ∨ call = .storeEvent eventId record) := by
  cases writes with
  | replaced called organizer => exact ⟨organizer, .inr called⟩
  | _ => exact ⟨rfl, .inl rfl⟩

theorem Tenure.Continues.owns {first second : Tenure} (continues : first.Continues second)
    (owns : first.Owns event) (organizer : record.organizerAddress = event.organizerAddress)
    (payment : record.paymentAddress = event.paymentAddress) : second.Owns record where
  organizer := organizer.trans (owns.organizer.trans continues.organizer.symm)
  organizer_mem := continues.organizer ▸ continues.payees _ owns.organizer_mem
  payment_mem := payment ▸ continues.payees _ owns.payment_mem

variable {current : Tenure}

/-- While the event is stored its tenure goes on. -/
theorem exists_continues (stored : world.registry.events.get eventId = some event)
    (held : current ∈ tenure) :
    ∃ next ∈ tenureStep eventId world action tenure, current.Continues next := by
  rcases tenureStep_cases eventId world action tenure with
    ⟨args, registers, _⟩ | ⟨extend, continues, extended⟩
  · cases stored.symm.trans registers.free
  · exact ⟨extend current, extended.trans (Option.map_eq_some_iff.mpr ⟨current, held, rfl⟩),
      continues current⟩

/-- A record with the organizer and the payment address of the stored event. -/
theorem OwnedInTenure.kept (before : OwnedInTenure eventId world.registry tenure)
    (stored : world.registry.events.get eventId = some event)
    (organizer : record.organizerAddress = event.organizerAddress)
    (payment : record.paymentAddress = event.paymentAddress) :
    ∃ next ∈ tenureStep eventId world action tenure, next.Owns record := by
  obtain ⟨current, held, owns⟩ := before event stored
  obtain ⟨next, member, continues⟩ := exists_continues stored held
  exact ⟨next, member, continues.owns owns organizer payment⟩

theorem owned_registry (before : OwnedInTenure eventId world.registry tenure)
    {invocation : Invocation} {recipient : Address} :
    OwnedInTenure eventId (catalogStep world.registry (invocation, call))
      (tenureStep eventId world (.registry invocation call recipient : JointAction host)
        tenure) := by
  intro record found
  have turn := catalogStep_record world.registry invocation call eventId
  rw [Option.mem_def.mp found] at turn
  obtain ⟨refused, same⟩ | ⟨done, _⟩ := commit_cases_accepted (call.entry invocation)
    world.registry
  · -- a call that is refused leaves the record and the tenure alone
    have kept : catalogStep world.registry (invocation, call) = world.registry := same
    rw [kept] at found
    exact before.kept found rfl rfl
  · rcases turn.cases_stored with kept | ⟨args, called, named, rfl, _⟩ | ⟨event, stored, writes⟩
    · exact before.kept kept rfl rfl
    · subst called
      have registered : accepted (registerEvent world.registry.platform invocation.signed args)
          world.registry = true := by
        rw [accepted_eq_true_iff] at done ⊢
        simpa only [CatalogCall.entry, RegistryCall.entry, succeeds_rules] using done
      refine ⟨.opened world args, if_pos ⟨named, registered⟩, ?_⟩
      exact ⟨rfl, List.mem_cons_self, List.mem_cons_of_mem _ List.mem_cons_self⟩
    · obtain ⟨organizer, payment | called⟩ := writes.owner
      · exact before.kept stored organizer payment
      · subst called
        obtain ⟨current, held, owns⟩ := before event stored
        refine ⟨current.addPayee record.paymentAddress, ?_, organizer.trans owns.organizer,
          List.mem_cons_of_mem _ owns.organizer_mem, List.mem_cons_self⟩
        have paid : tenureStep eventId world (.registry invocation (.storeEvent eventId record)
            recipient : JointAction host) tenure = tenure.map (·.addPayee record.paymentAddress) :=
          if_pos ⟨rfl, done⟩
        rw [paid, Option.mem_def.mp held]
        rfl

theorem owned_step (wellformed : Wellformed host world)
    (before : OwnedInTenure eventId world.registry tenure) :
    OwnedInTenure eventId (jointStep world action).registry
      (tenureStep eventId world action tenure) := by
  cases action with
  | registry invocation call recipient => exact owned_registry before
  | tokens move => exact before
  | call env entry =>
    intro record found
    obtain ⟨call, inventory, turn⟩ := callStep_record eventId wellformed
    rw [show (step world (.call env entry)).registry.events.get eventId = some record from found]
      at turn
    rcases turn.cases_stored with kept | ⟨args, called, _⟩ | ⟨event, stored, writes⟩
    · exact before.kept kept rfl rfl
    · cases called
      exact inventory.elim
    · obtain ⟨organizer, payment | called⟩ := writes.owner
      · exact before.kept stored organizer payment
      · cases called

/-! ### Runs -/

/-- What holds of the two contracts and of the latest tenure. -/
structure TenureState (host : Host) (eventId : EventId) (currency : Address)
    (world : World Registry) (tenure : Option Tenure) : Prop where
  funded : FundedState host eventId currency world
  covered : ∀ current ∈ tenure, current.Covered eventId currency world
  bids : ∀ current ∈ tenure, current.HasBids eventId world
  owned : OwnedInTenure eventId world.registry tenure

theorem TenureState.step (keeps : KeepsTenure eventId currency world action)
    (state : TenureState host eventId currency world tenure) :
    TenureState host eventId currency (jointStep world action)
      (tenureStep eventId world action tenure) where
  funded := step_fundedState eventId world keeps.1 state.funded
  covered := covered_step keeps state.funded state.covered
  bids := hasBids_step keeps state.funded.wellformed.escrowState state.bids
  owned := owned_step state.funded.wellformed state.owned

theorem tenureState_fresh :
    TenureState host eventId currency (.fresh Registry.vacant) none where
  funded := fundedState_fresh
  covered := by rintro _ ⟨⟩
  bids := by rintro _ ⟨⟩
  owned := by rintro _ ⟨⟩

theorem Tenure.Covered.released_le (covered : current.Covered eventId currency world)
    (token : Address) :
    world.released eventId token - current.releasedBefore token ≤
      world.received eventId token - current.receivedBefore token := by
  have room := covered token
  have nonneg : 0 ≤ if token = currency then
      max 0 (world.books.getEventBalance eventId).organizerAmount else 0 := by
    split
    · exact le_max_left _ _
    · exact le_rfl
  omega

end Steps

/-- In every run in which the event keeps to one currency and its id is registered only while no
money is left under it, the money of a tenure stays in it: what was released in the tenure was
received in it, every bid that can still win was placed in it, the event is that of its
organizer, and a payout releases what it sends and goes to an address that they chose. -/
theorem escrow_stays_in_tenure (actions : List (JointAction host)) (eventId : EventId)
    (currency : Address)
    (keeps : Respects jointStep (KeepsTenure eventId currency) (.fresh .vacant) actions) :
    let world := runActions jointStep (.fresh .vacant) actions
    let tenure := runFold jointStep (tenureStep eventId) (.fresh .vacant) actions none
    (∀ current ∈ tenure,
        (∀ token, world.released eventId token - current.releasedBefore token ≤
          world.received eventId token - current.receivedBefore token) ∧
        ∀ tierId, world.auctions.closed.get (eventId, tierId) = none →
          ∀ bid ∈ world.auctions.highestBid.get (eventId, tierId), (tierId, bid) ∈ current.bids) ∧
      (∀ event ∈ world.registry.events.get eventId, ∃ current ∈ tenure,
        event.organizerAddress = current.organizer ∧ event.paymentAddress ∈ current.payees) ∧
      ∀ (env : Env host) (call : Call), PaysOut eventId call → ∀ token holder,
        let next := jointStep world (.call env call)
        world.tokens.balance token holder < next.tokens.balance token holder →
          (∃ current ∈ tenure, holder ∈ current.payees) ∧
            next.tokens.balance token holder - world.tokens.balance token holder ≤
              next.released eventId token - world.released eventId token := by
  intro world tenure
  have state : TenureState host eventId currency world tenure :=
    respects_runFold (TenureState host eventId currency)
      (fun _ _ _ kept before => before.step kept) _ actions none keeps tenureState_fresh
  refine ⟨fun current held => ⟨(state.covered current held).released_le, state.bids current held⟩,
    ?_, ?_⟩
  · intro event stored
    obtain ⟨current, held, owns⟩ := state.owned event stored
    exact ⟨current, held, owns.organizer, owns.payment_mem⟩
  · intro env call pays token holder next rises
    obtain ⟨info, found, isPayee, releases⟩ :=
      payout_paysEvent state.funded.wellformed.escrowState env pays token holder rises
    obtain ⟨event, stored, rfl⟩ := Option.map_eq_some_iff.mp found
    obtain ⟨current, held, owns⟩ := state.owned event stored
    refine ⟨⟨current, held, ?_⟩, releases⟩
    rcases isPayee with rfl | rfl
    · have isOrganizer : event.info.organizerAddress = current.organizer := owns.organizer
      rw [isOrganizer]
      exact owns.organizer_mem
    · exact owns.payment_mem

/-! ### A concert that is taken over -/

/-- Alice buys a ticket for the concert. -/
def concertTicketSold : List (JointAction stage) := onSale smallConcert ++ [aliceBuys]

def concertWithdrawn : JointAction stage :=
  .call (allSign 2) (.withdrawOrganizerFunds "concert" usdcAddress)

/-- The organizer archives the concert, and Bob registers its id. -/
def concertHandedOver : List (JointAction stage) :=
  [.registry everybodySigns (.call (.updateEventStatus "concert" false)) organizerAddress,
    .registry everybodySigns (.call (.archiveEvent "concert")) organizerAddress,
    .registry everybodySigns (.call (.registerEvent
      { smallConcert with organizerAddress := bobAddress, paymentAddress := bobAddress }))
      bobAddress]

/-- The organizer withdraws what Alice's ticket brought before Bob registers the id, and that is
not released in Bob's tenure. -/
theorem settled_concert_handed_over :
    let actions := concertTicketSold ++ concertWithdrawn :: concertHandedOver
    let world := runActions jointStep (.fresh .vacant) actions
    let tenure := runFold jointStep (tenureStep "concert") (.fresh .vacant) actions none
    tenure.map (fun current => (current.organizer, current.releasedBefore usdcAddress)) =
        some (bobAddress, 950) ∧
      ∀ current ∈ tenure,
        world.released "concert" usdcAddress - current.releasedBefore usdcAddress ≤
          world.received "concert" usdcAddress - current.receivedBefore usdcAddress := by
  intro actions world tenure
  have settled : ((runActions jointStep (.fresh .vacant) (concertTicketSold ++ concertWithdrawn ::
      concertHandedOver.take 2)).books.getEventBalance "concert").organizerAmount ≤ 0 := by
    decide +kernel
  have keeps : Respects jointStep (KeepsTenure "concert" usdcAddress) (.fresh .vacant) actions :=
    ⟨⟨trivial, trivial⟩, ⟨trivial, fun _ _ => ⟨le_rfl, fun _ _ => rfl⟩⟩, ⟨trivial, trivial⟩,
      ⟨trivial, trivial⟩, ⟨trivial, trivial⟩, ⟨fun _ => rfl, trivial⟩, ⟨fun _ => rfl, trivial⟩,
      ⟨trivial, trivial⟩, ⟨trivial, trivial⟩, ⟨trivial, fun _ _ => ⟨settled, fun _ _ => rfl⟩⟩,
      trivial⟩
  refine ⟨by decide +kernel, fun current held => ?_⟩
  exact ((escrow_stays_in_tenure actions "concert" usdcAddress keeps).1 current held).1 usdcAddress

/-- Bob withdraws what was paid for Alice's ticket while the concert was the organizer's: nothing
was received since Bob registered the id. -/
theorem concert_revenue_taken_over :
    let world := runActions jointStep (.fresh .vacant) (concertTicketSold ++ concertHandedOver)
    let next := jointStep world concertWithdrawn
    let tenureAfter := fun actions =>
      (runFold jointStep (tenureStep "concert") (.fresh .vacant) actions none)
    (tenureAfter concertTicketSold).map (fun current => (current.organizer, current.payees)) =
        some (organizerAddress, [organizerAddress, organizerAddress]) ∧
      (tenureAfter (concertTicketSold ++ concertHandedOver)).map
          (fun current => (current.organizer, current.receivedBefore usdcAddress)) =
        some (bobAddress, world.received "concert" usdcAddress) ∧
      world.tokens.balance usdcAddress bobAddress = 0 ∧
      next.tokens.balance usdcAddress bobAddress = 950 := by
  decide +kernel

end Agora.EventRegistry

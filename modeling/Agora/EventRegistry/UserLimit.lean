/-
This file asks whether the registry's count of the tickets of a user is the number of tickets
that the user has, and whether it stays within the limit of the tier.

The two contracts run together: the payment contract sells and refunds tickets and calls the
registry, and the registry is called from outside as well. The count is what was sold to the
user, and stays within the limit. But a refund does not lower it, for the registry is not told
whose ticket is given back, and a ticket that comes over the bridge is not counted.
-/

import Agora.EventRegistry.Catalog
import Agora.TicketPayment.TicketCount

namespace Agora.EventRegistry

open Soroban TicketPayment

variable {host : Host}

/-! ### The two contracts -/

/-- One step of the two contracts: a call of the payment contract, a movement of tokens, or a
call of the registry from outside. The recipient is whom the call names if it is a mint; the
registry does not look at them. -/
inductive JointAction (host : Host) where
  | call (env : Env host) (call : Call)
  | tokens (move : TokenMove)
  | registry (invocation : Invocation) (call : CatalogCall) (recipient : Address)

/-- What the step is to the payment contract. -/
def JointAction.action (world : World Registry) : JointAction host → Action host Registry
  | .call env entry => .call env entry
  | .tokens move => .tokens move
  | .registry invocation entry _ => .registry (catalogStep world.registry (invocation, entry))

def jointStep (world : World Registry) (action : JointAction host) : World Registry :=
  step world (action.action world)

/-! ### The tickets of a user -/

section Tickets

variable (eventId : EventId) (tierId : TierId) (user : Address)

/-- So many tickets, if they are of the tier and go to the user. -/
def ticketsOf (event : EventId) (tier : TierId) (owner : Address) (quantity : Nat) : Nat :=
  if event = eventId ∧ tier = tierId ∧ owner = user then quantity else 0

/-- The tickets of the tier that a step sells to the user. -/
def ticketsBought (world : World Registry) : JointAction host → Nat
  | .call env (.processPayment purchase) =>
    if accepted (processPayment env purchase) world = true then
      ticketsOf eventId tierId user purchase.eventId purchase.ticketTierId purchase.ownerAddress
        purchase.quantity
    else 0
  | .call env (.closeAuction paymentId event tier) =>
    if accepted (closeAuction env paymentId event tier) world = true then
      ((world.auctions.highestBid.get (event, tier)).map fun bid =>
        ticketsOf eventId tierId user event tier bid.bidder 1).getD 0
    else 0
  | .registry invocation (.call (.incrementInventory event tier buyer quantity token)) _ =>
    if accepted (incrementInventory invocation.caller event tier buyer quantity token)
        world.registry = true then
      ticketsOf eventId tierId user event tier buyer quantity
    else 0
  | _ => 0

/-- The tickets of the tier that come to the user over the bridge. -/
def ticketsMinted (world : World Registry) : JointAction host → Nat
  | .registry _ (.call (.mintCrossChainTicket originTxHash tier signatures event quantity))
      recipient =>
    if accepted (mintCrossChainTicket originTxHash tier signatures event quantity)
        world.registry = true then
      ticketsOf eventId tierId user event tier recipient quantity
    else 0
  | _ => 0

/-- One ticket, if the payment is for the tier and the ticket is with the user. -/
def paidTicket (payment : Payment) : Nat :=
  ticketsOf eventId tierId user payment.eventId payment.ticketTierId payment.ownerAddress 1

/-- The tickets of the tier that a step refunds while they are with the user. -/
def ticketsRefunded (world : World Registry) : JointAction host → Nat
  | .call env (.refund path paymentId) =>
    if accepted (refundVia env paymentId path) world = true then
      ((world.tickets.getPayment paymentId).map (paidTicket eventId tierId user)).getD 0
    else 0
  | .call env (.claimCancellationRefund paymentId) =>
    if accepted (claimCancellationRefund env paymentId) world = true then
      ((world.tickets.getPayment paymentId).map (paidTicket eventId tierId user)).getD 0
    else 0
  | .call env (.triggerBulkRefund event batchSize) =>
    if accepted (triggerBulkRefund env event batchSize) world = true then
      ((bulkItems env world event batchSize).map fun item =>
        paidTicket eventId tierId user item.payment).sum
    else 0
  | .call env (.triggerDisputeRefundCascade event) =>
    if accepted (triggerDisputeRefundCascade env event) world = true then
      ((cascadeItems env world event).map fun item =>
        paidTicket eventId tierId user item.payment).sum
    else 0
  | _ => 0

/-- The tickets of the tier that a step brings to the user. -/
def ticketsObtained (world : World Registry) (action : JointAction host) : Nat :=
  ticketsBought eventId tierId user world action + ticketsMinted eventId tierId user world action

/-- None of the payments is for a ticket of the user that a batch would refund. -/
def SparesUser (world : World Registry) (ids : List PaymentId) : Prop :=
  ∀ paymentId ∈ ids, ∀ payment ∈ world.tickets.getPayment paymentId,
    payment.status = .confirmed → paidTicket eventId tierId user payment = 0

/-- The condition on a step: no ticket of the user in the tier is refunded, and none comes over
the bridge. -/
def KeepsTickets (world : World Registry) : JointAction host → Prop
  | .call _ (.refund _ paymentId) => ∀ payment ∈ world.tickets.getPayment paymentId,
      paidTicket eventId tierId user payment = 0
  | .call _ (.claimCancellationRefund paymentId) =>
      ∀ payment ∈ world.tickets.getPayment paymentId, paidTicket eventId tierId user payment = 0
  | .call _ (.triggerBulkRefund event batchSize) =>
      SparesUser eventId tierId user world (bulkWindow world event batchSize)
  | .call _ (.triggerDisputeRefundCascade event) =>
      SparesUser eventId tierId user world (world.tickets.getEventPayments event)
  | .registry _ (.call (.mintCrossChainTicket _ tier _ event quantity)) recipient =>
      ticketsOf eventId tierId user event tier recipient quantity = 0
  | _ => True

end Tickets

/-- The limit of the tier, while it is stored. -/
def Registry.LimitIs (registry : Registry) (eventId : EventId) (tierId : TierId) (limit : Nat) :
    Prop :=
  ∀ event ∈ registry.events.get eventId, ∀ tier ∈ event.tiers.get tierId, tier.maxPerUser = limit

instance (registry : Registry) (eventId : EventId) (tierId : TierId) (limit : Nat) :
    Decidable (registry.LimitIs eventId tierId limit) :=
  inferInstanceAs (Decidable (∀ event ∈ registry.events.get eventId, _))

/-! ### The count of a user -/

/-- The count of the user grows by so many tickets and stays within the limit. -/
structure CountGrows (eventId : EventId) (tierId : TierId) (user : Address) (limit : Nat)
    (registry next : Registry) (tickets : Nat) : Prop where
  count : next.getUserTicketCount eventId tierId user =
    registry.getUserTicketCount eventId tierId user + tickets
  within : next.getUserTicketCount eventId tierId user ≤ limit

section Count

variable {registry next : Registry} {eventId : EventId} {tierId : TierId} {user : Address}
  {limit : Nat}

theorem CountGrows.of_same (same : next.userTicketCount = registry.userTicketCount)
    (within : registry.getUserTicketCount eventId tierId user ≤ limit) :
    CountGrows eventId tierId user limit registry next 0 := by
  have kept : next.getUserTicketCount eventId tierId user =
      registry.getUserTicketCount eventId tierId user := by
    rw [Registry.getUserTicketCount, same]
    rfl
  exact ⟨kept, kept.trans_le within⟩

theorem CountGrows.congr {final : Registry} {tickets : Nat}
    (grows : CountGrows eventId tierId user limit registry next tickets)
    (same : final.userTicketCount = next.userTicketCount) :
    CountGrows eventId tierId user limit registry final tickets := by
  obtain ⟨count, within⟩ := CountGrows.of_same same grows.within
  exact ⟨count.trans grows.count, within⟩

variable {event : EventId} {tier : TierId}

/-- A sale adds its tickets to the count of the user, within the limit. -/
theorem incrementInventory_countGrows {caller : Address} {buyer : Address} {quantity : Nat}
    {token : Address} (limited : 0 < limit) (limitIs : registry.LimitIs eventId tierId limit)
    (within : registry.getUserTicketCount eventId tierId user ≤ limit) :
    Ensures (incrementInventory caller event tier buyer quantity token) registry fun _ next =>
      CountGrows eventId tierId user limit registry next
        (ticketsOf eventId tierId user event tier buyer quantity) := by
  refine incrementInventory_ensures.mono ?_
  rintro _ next ⟨stored, info, stocked, _, small, atMost, _, final⟩
  have written : next.userTicketCount =
      (countTickets event tier info buyer quantity registry).userTicketCount := by
    rw [final]
    rfl
  by_cases mine : event = eventId ∧ tier = tierId ∧ buyer = user
  · obtain ⟨rfl, rfl, rfl⟩ := mine
    have isLimit := limitIs stored stocked.eventEq info stocked.tierEq
    have positive : 0 < info.maxPerUser := isLimit.symm ▸ limited
    have count : next.getUserTicketCount event tier buyer =
        registry.getUserTicketCount event tier buyer + quantity := by
      rw [Registry.getUserTicketCount, written, countTickets, if_pos positive,
        Store.get_set_self, Option.getD_some]
      -- the addition does not saturate, for the call has checked the sum
      omega
    rw [ticketsOf, if_pos ⟨rfl, rfl, rfl⟩]
    exact ⟨count, by omega⟩
  · rw [ticketsOf, if_neg mine]
    have count : next.getUserTicketCount eventId tierId user =
        registry.getUserTicketCount eventId tierId user := by
      rw [Registry.getUserTicketCount, written, countTickets]
      split
      · rw [Store.get_set, if_neg]
        · rfl
        · rintro ⟨⟩
          exact mine ⟨rfl, rfl, rfl⟩
      · rfl
    exact ⟨count, count.trans_le within⟩

theorem userTicketCount_decremented {caller other : Address}
    (called : RegistryApi.decrementInventory registry caller event tier other = some next) :
    next.userTicketCount = registry.userTicketCount := by
  obtain ⟨_, _, _, _, _, final⟩ := ensures_of_after called decrementInventory_ensures
  rw [final]
  rfl

/-- Of the calls to the registry only a sale changes the count of a user. -/
theorem CatalogTurn.userTicketCount_eq {call : CatalogCall}
    (turn : CatalogTurn registry call next)
    (unsold : ∀ event tier buyer quantity token,
      call ≠ .call (.incrementInventory event tier buyer quantity token)) :
    next.userTicketCount = registry.userTicketCount := by
  cases turn with
  | kept same | registered _ _ _ same | rewritten same _ | minted _ _ same | stored _ _ _ same
  | reprieved _ same => exact congrArg Catalog.userTicketCount same
  | sold called => exact absurd called (unsold _ _ _ _ _)
  | @archived eventId _ _ _ _ same =>
    refine (congrArg Catalog.userTicketCount same).trans ?_
    show (registry.removeEvent eventId).userTicketCount = registry.userTicketCount
    unfold Registry.removeEvent
    split <;> rfl
  | @blacklisted organizer _ same =>
    have listed : (registry.addToBlacklist organizer).userTicketCount =
      registry.userTicketCount := rfl
    refine (congrArg Catalog.userTicketCount same).trans
      (Registry.suspendOrganizerEvents_induction (·.userTicketCount = registry.userTicketCount)
        ?_ listed organizer)
    intro reached eventId event _ kept
    exact kept

end Count

/-! ### The steps -/

section Steps

variable {world : World Registry} {eventId : EventId} {tierId : TierId} {user : Address}
  {limit : Nat}

/-- The limit of the tier is in force, and the count of the user is within it. -/
structure Limited (eventId : EventId) (tierId : TierId) (user : Address) (limit : Nat)
    (registry : Registry) : Prop where
  positive : 0 < limit
  limitIs : registry.LimitIs eventId tierId limit
  within : registry.getUserTicketCount eventId tierId user ≤ limit

variable (limited : Limited eventId tierId user limit world.registry)

include limited

variable (env : Env host)

theorem processPayment_countGrows {purchase : Purchase} :
    CountGrows eventId tierId user limit world.registry
      (jointStep world (.call env (.processPayment purchase))).registry
      (ticketsBought eventId tierId user world (.call env (.processPayment purchase))) := by
  have stepped : jointStep world (.call env (.processPayment purchase)) =
      commit (processPayment env purchase) world := rfl
  rw [stepped]
  rcases commit_cases_accepted (processPayment env purchase) world with
    ⟨refused, same⟩ | ⟨done, value, run⟩
  · rw [same]
    simp only [ticketsBought, refused, Bool.false_eq_true, if_false]
    exact .of_same rfl limited.within
  · obtain ⟨sale, _, _, registry, incremented, multiplier, awarded⟩ :=
      processPayment_ensures _ _ run
    simp only [ticketsBought, done, if_true]
    have grows := ensures_of_after incremented
      (incrementInventory_countGrows limited.positive limited.limitIs limited.within)
    obtain ⟨profiles, same⟩ := updateLoyaltyScore_eq
    rw [awarded, same]
    exact grows.congr rfl

theorem closeAuction_countGrows (paymentId : PaymentId) (event : EventId) (tier : TierId) :
    CountGrows eventId tierId user limit world.registry
      (jointStep world (.call env (.closeAuction paymentId event tier))).registry
      (ticketsBought eventId tierId user world
        (.call env (.closeAuction paymentId event tier))) := by
  have stepped : jointStep world (.call env (.closeAuction paymentId event tier)) =
      commit (closeAuction env paymentId event tier) world := rfl
  rw [stepped]
  rcases commit_cases_accepted (closeAuction env paymentId event tier) world with
    ⟨refused, same⟩ | ⟨done, value, run⟩
  · rw [same]
    simp only [ticketsBought, refused, Bool.false_eq_true, if_false]
    exact .of_same rfl limited.within
  · obtain ⟨info, bid, fee, of, _, incremented, _⟩ := closeAuction_ensures _ _ run
    simp only [ticketsBought, done, if_true, of.bidEq, Option.map_some, Option.getD_some]
    exact ensures_of_after incremented
      (incrementInventory_countGrows limited.positive limited.limitIs limited.within)

theorem registry_countGrows {invocation : Invocation} {call : CatalogCall}
    {recipient : Address} :
    CountGrows eventId tierId user limit world.registry
      (catalogStep world.registry (invocation, call))
      (ticketsBought eventId tierId user world
        (.registry invocation call recipient : JointAction host)) := by
  have turn := catalogStep_turn world.registry (invocation, call)
  cases call with
  | storeEvent _ _ | removeFromBlacklist _ =>
    exact .of_same (turn.userTicketCount_eq (by rintro _ _ _ _ _ ⟨⟩)) limited.within
  | call regular =>
    cases regular with
    | incrementInventory event tier buyer quantity token =>
      have stepped : catalogStep world.registry
          (invocation, .call (.incrementInventory event tier buyer quantity token)) =
        commit (incrementInventory invocation.caller event tier buyer quantity token)
          world.registry := rfl
      rw [stepped]
      rcases commit_cases_accepted (incrementInventory invocation.caller event tier buyer quantity
        token) world.registry with ⟨refused, same⟩ | ⟨done, value, run⟩
      · rw [same]
        simp only [ticketsBought, refused, Bool.false_eq_true, if_false]
        exact .of_same rfl limited.within
      · simp only [ticketsBought, done, if_true]
        exact incrementInventory_countGrows limited.positive limited.limitIs limited.within _ _ run
    | _ => exact .of_same (turn.userTicketCount_eq (by rintro _ _ _ _ _ ⟨⟩)) limited.within

/-- A step that does not call the registry leaves the count alone. -/
theorem elsewhere_countGrows (wellformed : Wellformed host world)
    {action : Action host Registry} (other : ¬action.CallsInventory) :
    CountGrows eventId tierId user limit world.registry (step world action).registry 0 := by
  obtain ⟨change, effect, does⟩ := step_takes wellformed.escrowState action
  exact .of_same (by rw [does.registry (effect.quiet other)]) limited.within

/-- Every step adds to the count what it sells to the user. -/
theorem jointStep_countGrows (wellformed : Wellformed host world) (action : JointAction host) :
    CountGrows eventId tierId user limit world.registry (jointStep world action).registry
      (ticketsBought eventId tierId user world action) := by
  cases action with
  | registry invocation call recipient => exact registry_countGrows limited
  | tokens move => exact elsewhere_countGrows limited wellformed id
  | call env call =>
    cases call with
    | processPayment purchase => exact processPayment_countGrows limited env
    | closeAuction paymentId event tier => exact closeAuction_countGrows limited env _ _ _
    -- a refund takes nothing off the count
    | refund path paymentId =>
      refine .of_same ?_ limited.within
      refine commit_keeps (fun next : World Registry => next.registry.userTicketCount)
        (refundVia_ensures.mono ?_)
      rintro _ next ⟨_, _, _, _, _, decremented, _⟩
      exact userTicketCount_decremented decremented
    | claimCancellationRefund paymentId =>
      refine .of_same ?_ limited.within
      refine commit_keeps (fun next : World Registry => next.registry.userTicketCount)
        (claimCancellationRefund_ensures.mono ?_)
      rintro _ next ⟨_, _, _, _, decremented⟩
      exact userTicketCount_decremented decremented
    | _ => exact elsewhere_countGrows limited wellformed id

end Steps

/-! ### Refunds -/

section Refunds

variable {world : World Registry} {eventId : EventId} {tierId : TierId} {user : Address}

theorem SparesUser.sum_eq_zero {ids : List PaymentId}
    (spares : SparesUser eventId tierId user world ids) (timestamp : Nat) :
    ((selectedAmong (bulkItem timestamp) world.tickets ids).map fun item =>
      paidTicket eventId tierId user item.payment).sum = 0 := by
  refine List.sum_eq_zero fun tickets member => ?_
  obtain ⟨item, selected, rfl⟩ := List.mem_map.mp member
  obtain ⟨paymentId, inIds, stored, bulk⟩ := stored_of_mem_selectedAmong selected
  exact spares paymentId inIds item.payment stored (bulkItem_eq_some bulk).1

theorem KeepsTickets.stored_eq_zero {paymentId : PaymentId}
    (spares : ∀ payment ∈ world.tickets.getPayment paymentId,
      paidTicket eventId tierId user payment = 0) :
    ((world.tickets.getPayment paymentId).map (paidTicket eventId tierId user)).getD 0 = 0 := by
  cases stored : world.tickets.getPayment paymentId with
  | none => rfl
  | some payment => exact spares payment stored

variable {action : JointAction host}

/-- A step that meets the condition refunds no ticket of the user. -/
theorem KeepsTickets.refunded_eq_zero (keeps : KeepsTickets eventId tierId user world action) :
    ticketsRefunded eventId tierId user world action = 0 := by
  unfold ticketsRefunded
  split
  · rw [KeepsTickets.stored_eq_zero keeps, ite_self]
  · rw [KeepsTickets.stored_eq_zero keeps, ite_self]
  · exact (if_congr Iff.rfl (SparesUser.sum_eq_zero keeps _) rfl).trans (ite_self 0)
  · exact (if_congr Iff.rfl (SparesUser.sum_eq_zero keeps _) rfl).trans (ite_self 0)
  · rfl

/-- A step that meets the condition brings the user only what it sells to them. -/
theorem KeepsTickets.obtained_eq_bought (keeps : KeepsTickets eventId tierId user world action) :
    ticketsObtained eventId tierId user world action =
      ticketsBought eventId tierId user world action := by
  unfold ticketsObtained ticketsMinted
  split
  · rw [show ticketsOf _ _ _ _ _ _ _ = 0 from keeps, ite_self, add_zero]
  · rfl

end Refunds

/-! ### The runs -/

/-- A well-formed state in which the count of the user is within the limit. -/
structure LimitState (host : Host) (eventId : EventId) (tierId : TierId) (user : Address)
    (limit : Nat) (world : World Registry) : Prop where
  wellformed : Wellformed host world
  within : world.registry.getUserTicketCount eventId tierId user ≤ limit

/-- The condition of a run: the limit stays the same, and the tickets of the user are kept. -/
def KeepsLimit (eventId : EventId) (tierId : TierId) (user : Address) (limit : Nat)
    (world : World Registry) (action : JointAction host) : Prop :=
  world.registry.LimitIs eventId tierId limit ∧ KeepsTickets eventId tierId user world action

section Runs

variable {world : World Registry} {eventId : EventId} {tierId : TierId} {user : Address}
  {limit : Nat} {action : JointAction host} (positive : 0 < limit)
  (keeps : KeepsLimit eventId tierId user limit world action)
  (state : LimitState host eventId tierId user limit world)

include positive keeps state

theorem LimitState.grows :
    CountGrows eventId tierId user limit world.registry (jointStep world action).registry
      (ticketsObtained eventId tierId user world action) := by
  rw [keeps.2.obtained_eq_bought]
  exact jointStep_countGrows ⟨positive, keeps.1, state.within⟩ state.wellformed action

theorem LimitState.step : LimitState host eventId tierId user limit (jointStep world action) :=
  ⟨step_wellformed world _ state.wellformed, (state.grows positive keeps).within⟩

end Runs

/-- In every run in which the limit of the tier stays the same, no ticket of the user there is
refunded and none comes to them over the bridge, the count of the user is the number of tickets
they obtained that are not refunded, and it stays within the limit. -/
theorem user_ticket_count_exact (actions : List (JointAction host)) (eventId : EventId)
    (tierId : TierId) (user : Address) (limit : Nat) (positive : 0 < limit)
    (unchanged : Respects jointStep (fun world _ => world.registry.LimitIs eventId tierId limit)
      (.fresh .vacant) actions)
    (keeps : Respects jointStep (KeepsTickets eventId tierId user) (.fresh .vacant) actions) :
    let count := (runActions jointStep (.fresh .vacant) actions).registry.getUserTicketCount
      eventId tierId user
    count + runTotal jointStep (ticketsRefunded eventId tierId user) (.fresh .vacant) actions =
        runTotal jointStep (ticketsObtained eventId tierId user) (.fresh .vacant) actions ∧
      count ≤ limit := by
  have both : Respects jointStep (KeepsLimit eventId tierId user limit) (.fresh .vacant) actions :=
    unchanged.and keeps
  have start : LimitState host eventId tierId user limit (.fresh .vacant) :=
    ⟨wellformed_fresh _, Nat.zero_le limit⟩
  have kept (world : World Registry) (action : JointAction host)
      (condition : KeepsLimit eventId tierId user limit world action)
      (state : LimitState host eventId tierId user limit world) := state.step positive condition
  have obtained := quantity_add_runTotal _
    (fun world : World Registry => world.registry.getUserTicketCount eventId tierId user)
    (ticketsObtained eventId tierId user) kept
    (fun _ _ condition state => (state.grows positive condition).count) _ actions both start
  -- the constant zero follows the refunds, for no step refunds anything
  have refunded := quantity_add_runTotal _ (fun _ => (0 : Nat))
    (ticketsRefunded eventId tierId user) kept
    (fun _ _ condition _ => by rw [condition.2.refunded_eq_zero]) _ actions both start
  have none : (World.fresh Registry.vacant).registry.getUserTicketCount eventId tierId user = 0 :=
    rfl
  refine ⟨?_, (respects_invariant _ kept _ actions both start).within⟩
  omega

/-! ### A concert with one ticket for everybody -/

/-- Everybody may have one ticket. -/
def oneTicketConcert : EventRegistrationArgs :=
  { smallConcert with tiers := Table.empty.set "general" { generalTier with maxPerUser := 1 } }

/-- Both contracts are initialised, the concert is registered, and the buyers have tokens. -/
def doorsOpen : List (JointAction stage) :=
  [.registry opening.1 opening.2 adminAddress,
    .registry everybodySigns (.call (.registerEvent oneTicketConcert)) organizerAddress,
    .call (allSign 0) (.configure (.initializeContract
      ⟨adminAddress, usdcAddress, ⟨"wallet"⟩, ⟨"registry"⟩⟩)),
    .tokens (.mint usdcAddress aliceAddress 100000),
    .tokens (.approve usdcAddress aliceAddress stage.contract 100000),
    .tokens (.mint usdcAddress bobAddress 100000),
    .tokens (.approve usdcAddress bobAddress stage.contract 100000)]

def aliceBuys : JointAction stage :=
  .call (allSign 1) (.processPayment (ticketFor aliceAddress "ticket" 1))

def aliceRefunded : JointAction stage :=
  .call (allSign 2) (.refund .guest "ticket")

/-- The ticket is confirmed and the concert is cancelled, and the bulk refund, which does not call
the registry, pays Alice back. -/
def concertRefunded : List (JointAction stage) :=
  [.call (allSign 2) (.confirmPayment "ticket" "hash"),
    .registry everybodySigns (.call (.cancelEvent "concert")) organizerAddress,
    .call (allSign 4) (.triggerBulkRefund "concert" 1)]

/-- A ticket for Alice comes over the bridge. -/
def aliceMinted : JointAction stage :=
  .registry everybodySigns (.call (.mintCrossChainTicket [0] "general" [] "concert" 1))
    aliceAddress

/-- The ticket that Alice buys is counted. -/
theorem bought_ticket_counted :
    (runActions jointStep (.fresh .vacant) (doorsOpen ++ [aliceBuys])).registry.getUserTicketCount
        "concert" "general" aliceAddress = 1 ∧
      runTotal jointStep (ticketsObtained "concert" "general" aliceAddress) (.fresh .vacant)
        (doorsOpen ++ [aliceBuys]) = 1 := by
  have exact := user_ticket_count_exact (doorsOpen ++ [aliceBuys]) "concert" "general"
    aliceAddress 1 Nat.one_pos (by decide +kernel)
    ⟨trivial, trivial, trivial, trivial, trivial, trivial, trivial, trivial, trivial⟩
  have count : (runActions jointStep (.fresh .vacant)
    (doorsOpen ++ [aliceBuys])).registry.getUserTicketCount "concert" "general" aliceAddress = 1 :=
    by decide +kernel
  have none : runTotal jointStep (ticketsRefunded "concert" "general" aliceAddress)
    (.fresh .vacant) (doorsOpen ++ [aliceBuys]) = 0 := by decide +kernel
  refine ⟨count, ?_⟩
  rw [← exact.1, count, none]

/-- The tickets that Alice obtained in a run, those that were refunded, and the count of the
registry. -/
def ticketsOfAlice (actions : List (JointAction stage)) : Nat × Nat × Nat :=
  (runTotal jointStep (ticketsObtained "concert" "general" aliceAddress) (.fresh .vacant) actions,
    runTotal jointStep (ticketsRefunded "concert" "general" aliceAddress) (.fresh .vacant) actions,
    (runActions jointStep (.fresh .vacant) actions).registry.getUserTicketCount "concert"
      "general" aliceAddress)

/-- Alice gives the ticket back and has none, but is counted with one and cannot buy another,
while Bob can. The bulk refund leaves the count at one as well. And a ticket that comes to Alice
over the bridge is not counted. -/
theorem refunded_user_refused :
    let unchanged := Respects jointStep
      (fun world _ => world.registry.LimitIs "concert" "general" 1) (.fresh .vacant)
    let returned := doorsOpen ++ [aliceBuys, aliceRefunded]
    let cancelled := doorsOpen ++ aliceBuys :: concertRefunded
    let minted := doorsOpen ++ [aliceMinted]
    let world := runActions jointStep (.fresh .vacant) returned
    (unchanged returned ∧ ticketsOfAlice returned = (1, 1, 1) ∧
        accepted (processPayment (allSign 3) (ticketFor aliceAddress "again" 1)) world = false ∧
        accepted (processPayment (allSign 3) (ticketFor bobAddress "again" 1)) world = true) ∧
      (unchanged cancelled ∧ ticketsOfAlice cancelled = (1, 1, 1)) ∧
      unchanged minted ∧ ticketsOfAlice minted = (1, 0, 0) := by
  decide +kernel

end Agora.EventRegistry

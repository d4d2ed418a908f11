/-
This file asks whether the stored events always pass the checks of their registration, and
whether only sales, returns and mints change their supply.

The fee of an event is the fee of the platform at its registration, so the registry runs
together with its governance here. The entry point that replaces an event as a whole checks
the resale cap only. A tier that replaces another is checked beside it, which lets too much
through if the limit of the other is negative; and a tier that is closed gets the number of
tickets sold as its limit, which an organizer hands in unchecked. In every run without such
calls the checks hold of every stored event.
-/

import Agora.EventRegistry.MultiSig
import Agora.EventRegistry.Records

namespace Agora.EventRegistry

open Soroban TicketPayment

/-! ### The fee of the platform -/

namespace MultiSig

/-- The fee of the platform is at most the whole price, and so is every fee that is proposed. -/
structure FeesChecked (multiSig : MultiSig) : Prop where
  current : multiSig.platformFee ≤ 10000
  proposed : ∀ proposalId proposal, multiSig.proposals.get proposalId = some proposal →
    ∀ fee, proposal.change = .setPlatformFee fee → fee ≤ 10000

theorem feesChecked_fresh : fresh.FeesChecked :=
  ⟨Nat.zero_le _, fun _ _ absurdity => by cases absurdity⟩

variable {invocation : Invocation} {multiSig : MultiSig}

theorem setPlatformFee_small {newFeePercent : Nat} :
    Ensures (setPlatformFee invocation newFeePercent) multiSig fun _ _ =>
      newFeePercent ≤ 10000 := by
  simp only [setPlatformFee, requireAdmin, ensures_rules]
  intro _ _ _ small _ _
  exact ⟨fun _ _ _ _ _ => small, fun _ => small⟩

variable {change : ParameterChange}

theorem validateChange_small {config : MultiSigConfig} :
    Ensures (validateChange invocation config change) multiSig fun _ next => next = multiSig ∧
      ∀ fee, change = .setPlatformFee fee → fee ≤ 10000 := by
  refine (validateChange_ensures.and ?_).mono fun _ _ both => ⟨both.1.1, both.2⟩
  cases change with
  | setPlatformFee fee =>
    rw [validateChange, ensures_require]
    rintro small _ ⟨⟩
    exact small
  | _ => exact fun _ _ _ fee absurdity => by cases absurdity

section Fees

variable (before : multiSig.FeesChecked)

include before

theorem FeesChecked.setProposal (proposal : Proposal)
    (bounded : ∀ fee, proposal.change = .setPlatformFee fee → fee ≤ 10000) :
    (multiSig.setProposal proposal).FeesChecked :=
  ⟨before.current, Store.forall_set before.proposed bounded⟩

theorem FeesChecked.applyChange (config : MultiSigConfig)
    (bounded : ∀ fee, change = .setPlatformFee fee → fee ≤ 10000) :
    (multiSig.applyChange config change).FeesChecked := by
  cases change with
  | setPlatformFee fee => exact ⟨bounded fee rfl, before.proposed⟩
  | _ => exact ⟨before.current, before.proposed⟩

/-- A proposal to set the fee is checked when it is made. -/
theorem FeesChecked.proposes {proposer : Address} {expiryLedgers : Nat} :
    Ensures (proposeParameterChange invocation proposer change expiryLedgers) multiSig
      fun _ next => next.FeesChecked := by
  refine requireMember_ensures.bind ?_
  rintro config _ ⟨rfl, _, _⟩
  refine validateChange_small.bind ?_
  rintro _ start ⟨rfl, bounded⟩
  simp only [ensures_rules]
  intro _ _
  have stored := before.setProposal (newProposal invocation start.proposalCounter proposer change
    (if expiryLedgers = 0 then defaultExpiry else expiryLedgers)) bounded
  exact ⟨stored.current, stored.proposed⟩

theorem FeesChecked.step {call : MultiSigCall} :
    (step multiSig (invocation, call)).FeesChecked := by
  refine commit_of_ensures before ?_
  cases call with
  | initializeRegistry admin platformWallet platformFeePercent usdcToken =>
    simp only [MultiSigCall.entry, initializeRegistry, validateAddress, ensures_rules]
    intro _ _ _ _ small
    exact ⟨small, before.proposed⟩
  | proposeParameterChange proposer change expiryLedgers =>
    rw [MultiSigCall.entry, ensures_bind]
    refine before.proposes.mono ?_
    intro _ _ checked
    exact (ensures_pure ()).mpr checked
  | approveProposal approver proposalId =>
    refine requireMember_ensures.bind ?_
    rintro _ _ ⟨rfl, _, _⟩
    simp only [getProposal, ensures_rules]
    intro proposal stored _ _ _
    exact ⟨fun _ => before, fun _ => before.setProposal _ (before.proposed _ proposal stored)⟩
  | executeProposal executor proposalId =>
    refine executeProposal_ensures.mono ?_
    rintro _ _ ⟨config, proposal, due, rfl⟩
    have bounded := before.proposed proposalId proposal due.stored
    have marked := (before.applyChange config bounded).setProposal
      { proposal with executed := true } bounded
    exact ⟨marked.current, marked.proposed⟩
  | cancelProposal proposer proposalId =>
    simp only [MultiSigCall.entry, cancelProposal, getProposal, ensures_rules]
    intro _ proposal stored _ _ _
    have marked := before.setProposal { proposal with cancelled := true }
      (before.proposed _ proposal stored)
    exact ⟨marked.current, marked.proposed⟩
  | cleanupExpiredProposals =>
    simp only [MultiSigCall.entry, cleanupExpiredProposals, requireAdmin, ensures_rules]
    intro _ _ _
    rw [foldl_sweepProposal]
    exact ⟨before.current, before.proposed⟩
  | setPlatformFee newFeePercent =>
    refine (setPlatformFee_ensures.and setPlatformFee_small).mono ?_
    rintro _ _ ⟨⟨config, _, ⟨_, rfl⟩ | ⟨_, proposalId, proposal, _, due, rfl⟩⟩, bounded⟩
    · exact ⟨bounded, before.proposed⟩
    · have marked := before.setProposal { proposal with executed := true }
        (before.proposed proposalId proposal due.stored)
      exact ⟨bounded, marked.proposed⟩
  | proposeAdmin _ | cancelAdminProposal | setStakingConfig _ | acceptAdmin =>
    simp only [MultiSigCall.entry, proposeAdmin, cancelAdminProposal, setStakingConfig, acceptAdmin,
      requireAdmin, validateAddress, ensures_rules]
    intros
    exact ⟨before.current, before.proposed⟩

end Fees

end MultiSig

/-! ### The registry and its governance -/

/-- What the registry stores, with the governance that sets the fee of the platform. -/
structure Governed where
  registry : Registry
  multiSig : MultiSig

inductive GovernedAction where
  | registry (invocation : Invocation) (call : CatalogCall)
  | governance (invocation : Invocation) (call : MultiSigCall)

namespace Governed

def fresh : Governed := ⟨.vacant, .fresh⟩

/-- The registry as its entry points read it. -/
def reading (state : Governed) : Registry :=
  { state.registry with
    platform := { state.registry.platform with platformFee := state.multiSig.platformFee } }

def step (state : Governed) : GovernedAction → Governed
  | .registry invocation call =>
    { state with registry := catalogStep state.reading (invocation, call) }
  | .governance invocation call =>
    { state with multiSig := state.multiSig.step (invocation, call) }

end Governed

/-- A sale, a return or a mint of tickets of the event. -/
def CatalogCall.MovesSupply (eventId : EventId) : CatalogCall → Prop
  | .call (.incrementInventory target _ _ _ _) => target = eventId
  | .call (.decrementInventory target _) => target = eventId
  | .call (.mintCrossChainTicket _ _ _ target _) => target = eventId
  | _ => False

/-- The condition on a call: an event is replaced by one that passes the checks and has the same
supply, a tier is replaced only if its limit is not negative, and closed only if it has not sold
more than its limit. -/
def KeepsChecks (registry : Registry) : CatalogCall → Prop
  | .storeEvent eventId record => record.Valid ∧
    ∀ event ∈ registry.events.get eventId, record.currentSupply = event.currentSupply
  | .call (.addTier eventId tierId _) => ∀ event ∈ registry.events.get eventId,
    ∀ tier ∈ event.tiers.get tierId, 0 ≤ tier.tierLimit
  | .call (.deactivateTier eventId tierId) => ∀ event ∈ registry.events.get eventId,
    ∀ tier ∈ event.tiers.get tierId, tier.currentSold ≤ tier.tierLimit
  | _ => True

def Governed.Keeps (state : Governed) : GovernedAction → Prop
  | .registry _ call => KeepsChecks state.registry call
  | .governance _ _ => True

section Writes

variable {registry : Registry} {eventId : EventId} {call : CatalogCall} {event record : Event}
  (stored : registry.events.get eventId = some event)
  (writes : RecordWrite eventId call event record) (keeps : KeepsChecks registry call)

/-- Tickets are counted in a tier whose limit stays. -/
theorem total_tierLimit_sold {tiers : Table TierId Tier} {tierId : TierId} {tier : Tier}
    (found : tiers.get tierId = some tier) (sold : Int) :
    (tiers.set tierId { tier with currentSold := sold }).total (·.tierLimit) =
      tiers.total (·.tierLimit) := by
  rw [Table.total_set, found]
  simp

include stored writes keeps

theorem RecordWrite.valid (before : event.Valid) : record.Valid := by
  cases writes with
  | status | cancelled | described | suspended =>
    exact ⟨before.platformFee, before.customFee, before.resaleCap, before.milestones, before.tiers⟩
  | capped small =>
    exact ⟨before.platformFee, before.customFee, small, before.milestones, before.tiers⟩
  | charged small =>
    exact ⟨before.platformFee, small, before.resaleCap, before.milestones, before.tiers⟩
  | @tierAdded tierId tier called limited =>
    refine ⟨before.platformFee, before.customFee, before.resaleCap, before.milestones, ?_⟩
    intro positive
    have room := limited positive
    subst called
    show (event.tiers.set tierId tier).total (·.tierLimit) ≤ event.maxSupply
    rw [Table.total_set]
    cases replaced : event.tiers.get tierId with
    | none => simpa using room
    | some other =>
      have := keeps event stored other replaced
      simp only [Option.map_some, Option.getD_some]
      omega
  | @tierClosed tierId tier called found =>
    refine ⟨before.platformFee, before.customFee, before.resaleCap, before.milestones, ?_⟩
    intro positive
    have room := before.tiers positive
    subst called
    have := keeps event stored tier found
    show (event.tiers.set tierId _).total (·.tierLimit) ≤ event.maxSupply
    rw [Table.total_set, found]
    simp only [Option.map_some, Option.getD_some]
    omega
  | sold _ _ found | minted _ _ found | returned _ found =>
    refine ⟨before.platformFee, before.customFee, before.resaleCap, before.milestones, ?_⟩
    intro positive
    exact (total_tierLimit_sold found _).trans_le (before.tiers positive)
  | replaced called _ =>
    subst called
    exact keeps.1

/-- Only the calls of the inventory and the bridge change the supply. -/
theorem RecordWrite.currentSupply_eq (still : ¬call.MovesSupply eventId) :
    record.currentSupply = event.currentSupply := by
  cases writes with
  | sold called | minted called | returned called =>
    subst called
    exact absurd rfl still
  | replaced called _ =>
    subst called
    exact keeps.2 event stored
  | _ => rfl

end Writes

/-! ### The runs -/

/-- All stored events pass the checks, and so do the fees that the platform may set. -/
structure Governed.Checked (state : Governed) : Prop where
  fees : state.multiSig.FeesChecked
  events : ∀ eventId event, state.registry.events.get eventId = some event → event.Valid

theorem Governed.checked_fresh : fresh.Checked :=
  ⟨MultiSig.feesChecked_fresh, fun _ _ absurdity => by cases absurdity⟩

theorem Governed.checked_step (state : Governed) (action : GovernedAction)
    (keeps : state.Keeps action) (before : state.Checked) : (state.step action).Checked := by
  cases action with
  | governance invocation call => exact ⟨before.fees.step, before.events⟩
  | registry invocation call =>
    refine ⟨before.fees, fun eventId record found => ?_⟩
    have turn := catalogStep_record state.reading invocation call eventId
    rw [show (catalogStep state.reading (invocation, call)).events.get eventId = some record
      from found] at turn
    rcases turn.cases_stored with same | ⟨_, _, _, _, _, valid⟩ | ⟨event, stored, writes⟩
    · exact before.events eventId record same
    · exact valid before.fees.current
    · exact writes.valid stored keeps (before.events eventId event stored)

/-- In every run whose calls meet the condition every stored event passes the checks of the
registration, a registered event starts with no supply, and after that only a sale, a return or
a mint changes it. -/
theorem stored_events_checked (actions : List GovernedAction)
    (keeps : Respects Governed.step Governed.Keeps .fresh actions) :
    (∀ eventId event, (runActions Governed.step .fresh actions).registry.events.get eventId =
        some event →
      event.platformFeePercent ≤ 10000 ∧ (∀ fee ∈ event.customFeeBps, fee ≤ 10000) ∧
        (∀ cap ∈ event.resaleCapBps, cap ≤ 10000) ∧
        (∀ plan ∈ event.milestonePlan, (plan.map (·.releasePercent)).sum ≤ 10000) ∧
        (0 < event.maxSupply → event.tiers.total (·.tierLimit) ≤ event.maxSupply)) ∧
      ∀ state invocation call, StepOf Governed.step .fresh actions state
          (.registry invocation call) →
        ∀ eventId record,
          (state.step (.registry invocation call)).registry.events.get eventId = some record →
          (state.registry.events.get eventId = none → record.currentSupply = 0) ∧
            ∀ event, state.registry.events.get eventId = some event →
              record.currentSupply ≠ event.currentSupply → call.MovesSupply eventId := by
  refine ⟨fun eventId event stored => ?_, ?_⟩
  · have checked := respects_invariant Governed.Checked Governed.checked_step .fresh actions keeps
      Governed.checked_fresh
    have valid := checked.events eventId event stored
    exact ⟨valid.platformFee, valid.customFee, valid.resaleCap, valid.milestones, valid.tiers⟩
  · intro state invocation call taken eventId record found
    have kept : KeepsChecks state.registry call := keeps.stepOf taken
    have turn := catalogStep_record state.reading invocation call eventId
    rw [show (catalogStep state.reading (invocation, call)).events.get eventId = some record
      from found] at turn
    rcases turn.cases_stored with same | ⟨_, _, _, rfl, free, _⟩ | ⟨other, stored, writes⟩
    · refine ⟨fun free => ?_, fun event stored moved => ?_⟩
      · cases free.symm.trans same
      · cases stored.symm.trans same
        exact absurd rfl moved
    · refine ⟨fun _ => rfl, fun event stored _ => ?_⟩
      cases stored.symm.trans free
    · refine ⟨fun free => ?_, fun event found moved => ?_⟩
      · cases free.symm.trans stored
      · cases found.symm.trans stored
        exact not_not.mp fun still => moved (writes.currentSupply_eq stored kept still)

/-- The governance and the registry are initialised, and the event is registered. -/
def governedEvent (args : EventRegistrationArgs) : List GovernedAction :=
  [.governance MultiSig.opening.1 MultiSig.opening.2, .registry opening.1 opening.2,
    .registry everybodySigns (.call (.registerEvent args))]

/-- The concert with a second tier. -/
def enlargedConcert : Event :=
  { smallConcert.event 500 with
    tiers := smallConcert.tiers.set "vip" { generalTier with tierLimit := 50 } }

/-- The concert is replaced by the larger one, whose new tier is replaced and old tier closed. -/
def enlarged : List GovernedAction :=
  governedEvent smallConcert ++
    [.registry everybodySigns (.storeEvent "concert" enlargedConcert),
      .registry everybodySigns
        (.call (.addTier "concert" "vip" { generalTier with tierLimit := 20 })),
      .registry everybodySigns (.call (.deactivateTier "concert" "general"))]

theorem enlarged_keeps : Respects Governed.step Governed.Keeps .fresh enlarged := by
  -- Only the last three calls are ones that the condition restricts.
  refine ⟨trivial, trivial, trivial, ⟨?_, ?_⟩, ?_, ?_, trivial⟩
  · exact ⟨by decide, by decide, by decide, by decide, by decide⟩
  · rintro _ ⟨⟩
    rfl
  · rintro _ ⟨⟩ _ ⟨⟩
    decide
  · rintro _ ⟨⟩ _ ⟨⟩
    decide

theorem governed_concert_checked :
    ∃ event, (runActions Governed.step .fresh enlarged).registry.events.get "concert" =
        some event ∧
      event.platformFeePercent = 500 ∧ event.tiers.total (·.tierLimit) = 20 ∧
        event.platformFeePercent ≤ 10000 ∧
        (0 < event.maxSupply → event.tiers.total (·.tierLimit) ≤ event.maxSupply) := by
  obtain ⟨fee, _, _, _, tiers⟩ := (stored_events_checked enlarged enlarged_keeps).1 "concert" _ rfl
  exact ⟨_, rfl, rfl, rfl, fee, tiers⟩

/-! ### Records that pass no check -/

/-- Fees of twice the price, shares of more than the revenue, a supply below the limit of the
tier and tickets that nobody bought. -/
def spoiledConcert : Event :=
  { smallConcert.event 500 with
    platformFeePercent := 20000
    customFeeBps := some 20000
    milestonePlan := some [⟨0, 6000⟩, ⟨1, 6000⟩]
    maxSupply := 10
    currentSupply := 7 }

/-- A second tier with a negative limit. -/
def indebtedConcert : EventRegistrationArgs :=
  { smallConcert with
    tiers := smallConcert.tiers.set "vip" { generalTier with tierLimit := -100 } }

/-- A tier that is registered with more tickets sold than the event has. -/
def presoldConcert : EventRegistrationArgs :=
  { smallConcert with tiers := Table.empty.set "general" { generalTier with currentSold := 300 } }

/-- The organizer replaces the record, a tier with a negative limit, or the limit of a tier that
came with too many tickets sold. -/
theorem unchecked_records_stored :
    let stored (run : List GovernedAction) :=
      (runActions Governed.step .fresh run).registry.events.get "concert"
    (stored (governedEvent smallConcert)).map (·.currentSupply) = some 0 ∧
      (stored (governedEvent smallConcert ++
          [.registry everybodySigns (.storeEvent "concert" spoiledConcert)])).map (fun event =>
        (event.platformFeePercent, event.customFeeBps,
          event.milestonePlan.map fun plan => (plan.map (·.releasePercent)).sum,
          event.tiers.total (·.tierLimit), event.maxSupply, event.currentSupply)) =
        some (20000, some 20000, some 12000, 100, 10, 7) ∧
      (stored (governedEvent indebtedConcert ++ [.registry everybodySigns
          (.call (.addTier "concert" "vip" { generalTier with tierLimit := 200 }))])).map
        (fun event => (event.tiers.total (·.tierLimit), event.maxSupply)) = some (300, 200) ∧
      (stored (governedEvent presoldConcert ++ [.registry everybodySigns
          (.call (.deactivateTier "concert" "general"))])).map
        (fun event => (event.tiers.total (·.tierLimit), event.maxSupply)) = some (300, 200) := by
  decide

end Agora.EventRegistry

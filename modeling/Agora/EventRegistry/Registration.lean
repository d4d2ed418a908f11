/-
This file models the registration of an event, with every check that the registry
makes of what the organizer hands in.

A milestone plan is accepted when its shares add up to at most the whole revenue: the
registry reads the shares as increments.
-/

import Agora.EventRegistry.Registry

namespace Agora.EventRegistry

open Soroban TicketPayment

/-! ### Arguments -/

/-- What the organizer hands in. The texts that are checked are given by their bytes. -/
structure EventRegistrationArgs where
  eventId : EventId
  organizerAddress : Address
  paymentAddress : Address
  metadataCid : Bytes
  maxSupply : Int
  milestonePlan : Option (List Milestone)
  tiers : Table TierId Tier
  refundDeadline : Nat
  restockingFee : Int
  resaleCapBps : Option Nat
  minSalesTarget : Option Int
  targetDeadline : Option Nat
  tags : Option (List Bytes)
  startTime : Nat
  isPrivate : Bool
  endTime : Nat
  acceptedTokens : List Address
  useGlobalWhitelist : Bool

/-! ### Checks -/

/-- The bytes of `Qm` and of `bafy`. -/
def cidV0 : Bytes := [0x51, 0x6d]

def cidV1 : Bytes := [0x62, 0x61, 0x66, 0x79]

def validateMetadataCid (cid : Bytes) : Entry Unit :=
  require ((46 ≤ cid.length ∧ cid.take 2 = cidV0) ∨ (59 ≤ cid.length ∧ cid.take 4 = cidV1))
    (.error .invalidMetadataCid)

def isPrintable (byte : UInt8) : Bool :=
  !(byte < 0x20 || (0x7F ≤ byte && byte < 0xC0))

def validateTags (tags : Option (List Bytes)) : Entry Unit :=
  require (∀ tag ∈ tags.getD [], tag.length ≤ 32 ∧ tag.all isPrintable = true)
    (.error .invalidTags)

def maxTiersPerEvent : Nat := 20

def totalTierLimit (tiers : Table TierId Tier) : Option Int :=
  tiers.values.foldlM (fun total tier => checkedAdd total tier.tierLimit) 0

/-- The limits are added only where the supply is limited. -/
def validateTierLimits (args : EventRegistrationArgs) : Entry Unit :=
  if 0 < args.maxSupply then do
    let total ← orFault (totalTierLimit args.tiers) (.error .supplyOverflow)
    require (total ≤ args.maxSupply) (.error .tierLimitExceeds)
  else pure ()

/-- The source adds in u32. -/
def totalReleaseBps (milestones : List Milestone) : Option Nat :=
  milestones.foldlM (fun total milestone =>
    if total + milestone.releasePercent < 2 ^ 32 then some (total + milestone.releasePercent)
    else none) 0

def validateMilestonePlan (milestonePlan : Option (List Milestone)) : Entry Unit :=
  match milestonePlan with
  | none => pure ()
  | some milestones => do
    let total ← orFault (totalReleaseBps milestones) (.error .invalidMilestonePlan)
    require (total ≤ maxBps) (.error .invalidMilestonePlan)

/-- The event as it is stored. -/
def EventRegistrationArgs.event (args : EventRegistrationArgs) (platformFeePercent : Nat) :
    Event where
  organizerAddress := args.organizerAddress
  paymentAddress := args.paymentAddress
  platformFeePercent := platformFeePercent
  isActive := true
  status := .active
  metadataCid := args.metadataCid
  maxSupply := args.maxSupply
  currentSupply := 0
  milestonePlan := args.milestonePlan
  tiers := args.tiers
  refundDeadline := args.refundDeadline
  restockingFee := args.restockingFee
  resaleCapBps := args.resaleCapBps
  isPostponed := false
  gracePeriodEnd := 0
  minSalesTarget := args.minSalesTarget.getD 0
  targetDeadline := args.targetDeadline.getD 0
  goalMet := false
  customFeeBps := none
  startTime := args.startTime
  isPrivate := args.isPrivate
  endTime := args.endTime
  acceptedTokens := args.acceptedTokens
  useGlobalWhitelist := args.useGlobalWhitelist
  feedbackCid := none

def registerEvent (platform : Platform) (signed : Address → Bool) (args : EventRegistrationArgs) :
    Entry Unit := do
  require (platform.initialized = true) (.error .notInitialized)
  require (signed args.organizerAddress = true) .trap
  require (platform.blacklisted args.organizerAddress = false) (.error .organizerBlacklisted)
  validateMetadataCid args.metadataCid
  validateTags args.tags
  let registry ← get
  require ((registry.events.get args.eventId).isSome = false) (.error .eventAlreadyExists)
  require (args.tiers.entries.length ≤ maxTiersPerEvent) (.error .tooManyTiers)
  validateTierLimits args
  require (args.resaleCapBps.getD 0 ≤ 10000) (.error .invalidResaleCapBps)
  validateMilestonePlan args.milestonePlan
  require (¬(args.startTime ≠ 0 ∧ args.endTime ≠ 0 ∧ args.endTime ≤ args.startTime))
    (.error .invalidDeadline)
  modify fun registry => registry.storeEvent args.eventId (args.event platform.platformFee)

/-! ### Accepted plans -/

theorem totalReleaseBps_eq_some {milestones : List Milestone} {total : Nat}
    (added : totalReleaseBps milestones = some total) :
    total = (milestones.map (·.releasePercent)).sum := by
  refine (eq_of_foldlM_add ?_ added).trans (Nat.zero_add _)
  intro sum milestone result accepted
  split at accepted
  · exact (Option.some.inj accepted).symm
  · cases accepted

variable {registry : Registry}

/-- The shares of an accepted plan add up to at most the whole revenue. -/
theorem validateMilestonePlan_ensures {milestonePlan : Option (List Milestone)} :
    Ensures (validateMilestonePlan milestonePlan) registry fun _ next =>
      next = registry ∧ ∀ milestones ∈ milestonePlan,
        (milestones.map (·.releasePercent)).sum ≤ maxBps := by
  cases milestonePlan with
  | none =>
    rw [validateMilestonePlan, ensures_pure]
    exact ⟨rfl, fun _ absurdity => nomatch absurdity⟩
  | some milestones =>
    simp only [validateMilestonePlan, ensures_rules]
    intro total added bounded
    refine ⟨trivial, fun other same => ?_⟩
    cases same
    rwa [← totalReleaseBps_eq_some added]

theorem totalTierLimit_eq_some {tiers : Table TierId Tier} {total : Int}
    (added : totalTierLimit tiers = some total) : total = tiers.total (·.tierLimit) := by
  refine (eq_of_foldlM_add ?_ added).trans (zero_add _)
  intro sum tier result
  exact eq_of_checkedAdd

variable {args : EventRegistrationArgs}

/-- Where the supply is limited it covers the limits of the tiers. -/
theorem validateTierLimits_ensures :
    Ensures (validateTierLimits args) registry fun _ next => next = registry ∧
      (0 < args.maxSupply → args.tiers.total (·.tierLimit) ≤ args.maxSupply) := by
  simp only [validateTierLimits, ensures_rules]
  refine ⟨fun _ total added bounded => ⟨trivial, fun _ => ?_⟩,
    fun unlimited => ⟨trivial, fun limited => absurd limited unlimited⟩⟩
  rwa [← totalTierLimit_eq_some added]

/-- A registered event is stored as it was handed in, under an id that was free. The shares of
its milestones add up to at most the whole revenue, and the limits of its tiers to at most its
supply. -/
theorem registerEvent_ensures {platform : Platform} {signed : Address → Bool} :
    Ensures (registerEvent platform signed args) registry fun _ next =>
      (registry.events.get args.eventId).isSome = false ∧
      next = registry.storeEvent args.eventId (args.event platform.platformFee) ∧
      (∀ milestones ∈ args.milestonePlan, (milestones.map (·.releasePercent)).sum ≤ maxBps) ∧
      (0 < args.maxSupply → args.tiers.total (·.tierLimit) ≤ args.maxSupply) ∧
      args.resaleCapBps.getD 0 ≤ 10000 ∧
      platform.blacklisted args.organizerAddress = false := by
  simp only [registerEvent, validateMetadataCid, validateTags, ensures_rules]
  intro _ _ welcome _ _ free _
  refine validateTierLimits_ensures.mono ?_
  rintro _ _ ⟨rfl, limited⟩ capped
  refine validateMilestonePlan_ensures.mono ?_
  rintro _ _ ⟨rfl, bounded⟩ _
  exact ⟨free, rfl, bounded, limited, capped, welcome⟩

end Agora.EventRegistry

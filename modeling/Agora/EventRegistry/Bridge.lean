/-
This file asks whether tickets for purchases on other chains are minted on the word of the
relayers, and only once for every purchase.

The bridge is configured with its relayers and the number of signatures it needs. A mint is
marked with the hash of the purchase, so a second mint for the same hash is refused. The
signatures are counted and nothing else: they are not verified, they may all be the same, and
what they would be signatures of is not looked at. What a valid signature is, is a parameter
here.
-/

import Agora.EventRegistry.Records

namespace Agora.EventRegistry

open Soroban TicketPayment

/-! ### Data -/

/-- Set from outside, for no entry point writes it. -/
structure BridgeConfig where
  relayerPubkeys : List Address
  threshold : Nat

/-- What a mint is asked for, and what the relayers sign. -/
structure Teleport where
  originChainId : Nat
  originTxHash : Bytes
  recipientStellarAddr : Address
  ticketTierId : TierId
  eventId : EventId
  quantity : Nat

/-- A call of the registry. The chain and the recipient are those that the call names if it is a
mint; the registry does not look at them. -/
structure BridgeAction where
  invocation : Invocation
  call : CatalogCall
  originChainId : Nat
  recipientStellarAddr : Address

/-- The teleport and the signatures of a mint. -/
def BridgeAction.teleport? (action : BridgeAction) : Option (Teleport × List Bytes) :=
  match action.call with
  | .call (.mintCrossChainTicket originTxHash ticketTierId signatures eventId quantity) =>
    some (⟨action.originChainId, originTxHash, action.recipientStellarAddr, ticketTierId, eventId,
      quantity⟩, signatures)
  | _ => none

/-- What the bridge stores. -/
structure BridgeStorage where
  bridgeThreshold : Option Nat
  processedTeleports : Store Bytes Bool

def Registry.bridge (registry : Registry) : BridgeStorage :=
  ⟨registry.bridgeThreshold, registry.processedTeleports⟩

/-- The entry points without a constructor of their own leave the bridge alone. -/
def bridgeStep (registry : Registry) (action : BridgeAction) : Registry :=
  match action.call with
  | .call (.other storage) =>
    catalogStep registry (action.invocation, .call (.other { storage with
      bridgeThreshold := registry.bridgeThreshold
      processedTeleports := registry.processedTeleports }))
  | call => catalogStep registry (action.invocation, call)

/-- The storage before the first call, with the bridge configured. -/
def BridgeConfig.start (config : BridgeConfig) : Registry :=
  { Registry.vacant with bridgeThreshold := some config.threshold }

def Registry.isTeleportProcessed (registry : Registry) (originTxHash : Bytes) : Prop :=
  (registry.processedTeleports.get originTxHash).getD false = true

/-- The mint that a step makes, with its signatures. -/
def mintedBy (registry : Registry) (action : BridgeAction) : Option (Teleport × List Bytes) :=
  action.teleport?.filter fun mint =>
    accepted (mintCrossChainTicket mint.1.originTxHash mint.1.ticketTierId mint.2 mint.1.eventId
      mint.1.quantity) registry

/-! ### What a call does to the bridge -/

section Frames

variable {registry next : Registry} {eventId : EventId}

theorem bridge_removeEvent {eventId : EventId} :
    (registry.removeEvent eventId).bridge = registry.bridge := by
  unfold Registry.removeEvent
  split <;> rfl

theorem bridge_suspendOrganizerEvents {organizer : Address} :
    (registry.suspendOrganizerEvents organizer).bridge = registry.bridge := by
  refine Registry.suspendOrganizerEvents_induction (·.bridge = registry.bridge) ?_ rfl organizer
  intro reached eventId event _ kept
  exact kept

end Frames

variable {registry : Registry} {originTxHash : Bytes}

theorem mintCrossChainTicket_bridge {tierId : TierId} {signatures : List Bytes} {eventId : EventId}
    {quantity : Nat} :
    Ensures (mintCrossChainTicket originTxHash tierId signatures eventId quantity) registry
      fun _ next => ¬registry.isTeleportProcessed originTxHash ∧
        (∃ threshold, registry.bridgeThreshold = some threshold ∧
          threshold ≤ signatures.length) ∧
        next.bridge = ⟨registry.bridgeThreshold,
          registry.processedTeleports.set originTxHash true⟩ := by
  refine mintCrossChainTicket_ensures.mono ?_
  rintro _ _ ⟨_, _, _, _, _, _, _, fresh, signed, rfl⟩
  exact ⟨Bool.eq_false_iff.mp fresh, signed, rfl⟩

/-- The calls that do not write to the storage of the bridge. -/
def RegistryCall.LeavesBridge : RegistryCall → Prop
  | .mintCrossChainTicket _ _ _ _ _ => False
  | .other _ => False
  | _ => True

theorem Outcome.bridge {next : Registry} {call : RegistryCall}
    (outcome : Outcome registry call next) (leaves : call.LeavesBridge) :
    next.bridge = registry.bridge := by
  cases outcome with
  | @sold eventId tierId user token quantity event tier stocked room onSale =>
    obtain ⟨counts, same⟩ := countTickets_eq
    rw [same]
    rfl
  | @archived eventId => exact bridge_removeEvent
  | @blacklisted organizer => exact bridge_suspendOrganizerEvents
  | minted | other => exact leaves.elim
  | _ => rfl

section Steps

variable {action : BridgeAction}

/-- A step that mints nothing leaves the bridge alone. -/
theorem bridge_of_unminted (unminted : mintedBy registry action = none) :
    (bridgeStep registry action).bridge = registry.bridge := by
  obtain ⟨invocation, call, chain, recipient⟩ := action
  cases call with
  | storeEvent eventId record =>
    refine commit_keeps Registry.bridge ?_
    simp only [CatalogCall.entry, storeEvent, requireOrganizer, getEvent, ensures_rules]
    intros
    rfl
  | removeFromBlacklist organizer =>
    refine commit_keeps Registry.bridge ?_
    simp only [CatalogCall.entry, removeFromBlacklist, requireAdmin, ensures_rules]
    intros
    rfl
  | call regular =>
    have kept (leaves : regular.LeavesBridge) :
        (commit (regular.entry invocation) registry).bridge = registry.bridge :=
      commit_keeps Registry.bridge (registryCall_outcome.mono
        fun _ _ outcome => outcome.bridge leaves)
    cases regular with
    | other storage => rfl
    | mintCrossChainTicket originTxHash tierId signatures eventId quantity =>
      obtain ⟨_, same⟩ | ⟨done, _⟩ := commit_cases_accepted (mintCrossChainTicket originTxHash
        tierId signatures eventId quantity) registry
      · exact congrArg Registry.bridge same
      · simp only [mintedBy, BridgeAction.teleport?, Option.filter_some, done] at unminted
        cases unminted
    | _ => exact kept trivial

/-- A mint is of a hash that was not marked, has as many signatures as the bridge asks for, and
marks the hash. -/
theorem bridge_of_minted {mint : Teleport × List Bytes}
    (minted : mintedBy registry action = some mint) :
    ¬registry.isTeleportProcessed mint.1.originTxHash ∧
      (∃ threshold, registry.bridgeThreshold = some threshold ∧ threshold ≤ mint.2.length) ∧
      (bridgeStep registry action).bridge = ⟨registry.bridgeThreshold,
        registry.processedTeleports.set mint.1.originTxHash true⟩ := by
  obtain ⟨asked, done⟩ := Option.filter_eq_some_iff.mp minted
  obtain ⟨invocation, call, chain, recipient⟩ := action
  unfold BridgeAction.teleport? at asked
  split at asked
  · rename_i originTxHash tierId signatures eventId quantity called
    cases asked
    cases called
    exact commit_of_accepted done mintCrossChainTicket_bridge
  · cases asked

end Steps

/-! ### The relayers -/

section Relayers

variable (valid : Address → Teleport → Bytes → Prop) (config : BridgeConfig)

/-- The relayers of whom a valid signature of the teleport comes with the mint. -/
def signers (mint : Teleport × List Bytes) : Set Address :=
  {relayer | relayer ∈ config.relayerPubkeys ∧ ∃ signature ∈ mint.2, valid relayer mint.1 signature}

/-- Every signature is valid, and every one is by another relayer. -/
def ProperlySigned (mint : Teleport × List Bytes) : Prop :=
  ∃ relayers : List Address, relayers.Nodup ∧
    (∀ relayer ∈ relayers, relayer ∈ config.relayerPubkeys) ∧
    List.Forall₂ (fun relayer signature => valid relayer mint.1 signature) relayers mint.2

/-- The condition on a call: a mint is properly signed. -/
def SignsProperly (_ : Registry) (action : BridgeAction) : Prop :=
  ∀ mint ∈ action.teleport?, ProperlySigned valid config mint

variable {valid config}

theorem ProperlySigned.length_le {mint : Teleport × List Bytes}
    (signed : ProperlySigned valid config mint) :
    mint.2.length ≤ (signers valid config mint).ncard := by
  obtain ⟨relayers, distinct, known, signatures⟩ := signed
  have among : (relayers.toFinset : Set Address) ⊆ signers valid config mint := by
    intro relayer member
    have listed : relayer ∈ relayers := List.mem_toFinset.mp member
    obtain ⟨index, bound, rfl⟩ := List.mem_iff_getElem.mp listed
    have paired := signatures.length_eq ▸ bound
    exact ⟨known _ listed, _, List.getElem_mem paired, signatures.get bound paired⟩
  have finite : (signers valid config mint).Finite :=
    config.relayerPubkeys.toFinset.finite_toSet.subset fun relayer member =>
      List.mem_toFinset.mpr member.1
  calc mint.2.length = relayers.length := signatures.length_eq.symm
    _ = relayers.toFinset.card := (List.toFinset_card_of_nodup distinct).symm
    _ = (relayers.toFinset : Set Address).ncard := (Set.ncard_coe_finset _).symm
    _ ≤ (signers valid config mint).ncard := Set.ncard_le_ncard among finite

end Relayers

/-! ### The runs -/

/-- The configuration stays as it is. -/
theorem bridgeThreshold_eq (config : BridgeConfig) (actions : List BridgeAction) :
    (runActions bridgeStep config.start actions).bridgeThreshold = some config.threshold := by
  refine run_invariant (fun registry : Registry => registry.bridgeThreshold =
    some config.threshold) ?_ config.start actions rfl
  intro registry action before
  cases minted : mintedBy registry action with
  | none => exact (congrArg BridgeStorage.bridgeThreshold (bridge_of_unminted minted)).trans before
  | some mint =>
    exact (congrArg BridgeStorage.bridgeThreshold (bridge_of_minted minted).2.2).trans before

/-- The hash of the mint that a step makes. -/
def mintedHash (registry : Registry) (action : BridgeAction) : Option Bytes :=
  (mintedBy registry action).map (·.1.originTxHash)

/-- The hash of a mint is marked from then on, and the marks stay. -/
theorem isTeleportProcessed_step {action : BridgeAction} :
    (bridgeStep registry action).isTeleportProcessed originTxHash ↔
      registry.isTeleportProcessed originTxHash ∨
        mintedHash registry action = some originTxHash := by
  unfold Registry.isTeleportProcessed mintedHash
  cases minted : mintedBy registry action with
  | none =>
    have same := congrArg BridgeStorage.processedTeleports (bridge_of_unminted minted)
    rw [show (bridgeStep registry action).processedTeleports = _ from same]
    exact ⟨.inl, fun either => either.resolve_right (by rintro ⟨⟩)⟩
  | some mint =>
    have same := congrArg BridgeStorage.processedTeleports (bridge_of_minted minted).2.2
    rw [show (bridgeStep registry action).processedTeleports = _ from same, Store.get_set,
      Option.map_some, Option.some_inj]
    split
    · rename_i isMinted
      exact iff_of_true rfl (.inr isMinted.symm)
    · rename_i other
      exact ⟨.inl, fun either => either.resolve_right fun isMinted => other isMinted.symm⟩

/-- No hash is minted twice. -/
theorem mintedHashes_nodup (config : BridgeConfig) (actions : List BridgeAction) :
    (runOutputs bridgeStep mintedHash config.start actions).Nodup := by
  refine runOutputs_nodup (fun _ => True) Registry.isTeleportProcessed (fun _ _ _ => trivial)
    ?_ ?_ trivial
  · intro registry action originTxHash _ processed
    exact isTeleportProcessed_step.mpr (.inl processed)
  · intro registry action originTxHash _ put
    refine ⟨?_, isTeleportProcessed_step.mpr (.inr put)⟩
    obtain ⟨mint, minted, rfl⟩ := Option.map_eq_some_iff.mp put
    exact (bridge_of_minted minted).1

/-- In every run in which all signatures are valid and by different relayers, every mint comes
with valid signatures of as many relayers as the configuration asks for; and in every run no hash
is minted twice. -/
theorem mints_signed_and_unique (valid : Address → Teleport → Bytes → Prop)
    (config : BridgeConfig) (actions : List BridgeAction) :
    (Respects bridgeStep (SignsProperly valid config) config.start actions →
      ∀ registry action mint, StepOf bridgeStep config.start actions registry action →
        mintedBy registry action = some mint →
        config.threshold ≤ (signers valid config mint).ncard) ∧
      (runOutputs bridgeStep mintedHash config.start actions).Nodup := by
  refine ⟨fun respects registry action mint taken minted => ?_,
    mintedHashes_nodup config actions⟩
  obtain ⟨_, ⟨threshold, configured, enough⟩, _⟩ := bridge_of_minted minted
  have asked := (Option.filter_eq_some_iff.mp minted).1
  have signed : ProperlySigned valid config mint := respects.stepOf taken mint asked
  obtain ⟨earlier, _, _, rfl⟩ := taken
  rw [bridgeThreshold_eq] at configured
  cases configured
  exact enough.trans signed.length_le

/-! ### Signatures of nobody -/

/-- Two relayers who both have to sign. -/
def twoRelayers : BridgeConfig := ⟨[aliceAddress, bobAddress], 2⟩

/-- A seal names the relayer and repeats the hash. -/
def sealOf (relayer : Address) (teleport : Teleport) : Bytes :=
  UInt8.ofNat relayer.strkey.length :: teleport.originTxHash

def IsSeal (relayer : Address) (teleport : Teleport) (signature : Bytes) : Prop :=
  signature = sealOf relayer teleport

/-- Two tickets for the concert. -/
def concertTeleport : Teleport where
  originChainId := 1
  originTxHash := [7]
  recipientStellarAddr := bobAddress
  ticketTierId := "general"
  eventId := "concert"
  quantity := 2

/-- The registry is initialised and the concert registered. -/
def bridgeOpen : List BridgeAction :=
  [⟨opening.1, opening.2, 0, adminAddress⟩,
    ⟨everybodySigns, .call (.registerEvent smallConcert), 0, adminAddress⟩]

/-- The tickets are asked for with these signatures. -/
def concertMint (signatures : List Bytes) : BridgeAction :=
  ⟨everybodySigns, .call (.mintCrossChainTicket concertTeleport.originTxHash
    concertTeleport.ticketTierId signatures concertTeleport.eventId concertTeleport.quantity),
    concertTeleport.originChainId, concertTeleport.recipientStellarAddr⟩

/-- The seals of both relayers. -/
def concertSeals : List Bytes :=
  [sealOf aliceAddress concertTeleport, sealOf bobAddress concertTeleport]

theorem sealed_concert_minted :
    mintedBy (runActions bridgeStep twoRelayers.start bridgeOpen) (concertMint concertSeals) =
        some (concertTeleport, concertSeals) ∧
      2 ≤ (signers IsSeal twoRelayers (concertTeleport, concertSeals)).ncard := by
  have minted : mintedBy (runActions bridgeStep twoRelayers.start bridgeOpen)
      (concertMint concertSeals) = some (concertTeleport, concertSeals) := rfl
  refine ⟨minted, ?_⟩
  refine (mints_signed_and_unique IsSeal twoRelayers (bridgeOpen ++ [concertMint concertSeals])).1
    ?_ _ _ _ ⟨bridgeOpen, [], rfl, rfl⟩ minted
  refine ⟨by rintro _ ⟨⟩, by rintro _ ⟨⟩, ?_, trivial⟩
  rintro _ ⟨⟩
  exact ⟨[aliceAddress, bobAddress], by decide, fun _ => id, .cons rfl (.cons rfl .nil)⟩

/-- Anybody asks for the tickets with two empty signatures, and no relayer signed anything. -/
theorem unsigned_concert_minted :
    mintedBy (runActions bridgeStep twoRelayers.start bridgeOpen) (concertMint [[], []]) =
        some (concertTeleport, [[], []]) ∧
      signers IsSeal twoRelayers (concertTeleport, [[], []]) = ∅ := by
  refine ⟨rfl, Set.eq_empty_of_forall_notMem ?_⟩
  rintro relayer ⟨_, signature, submitted, isSeal⟩
  have empty : signature = [] := by simpa using submitted
  rw [IsSeal, empty] at isSeal
  cases isSeal

end Agora.EventRegistry
